import CallOrder.Command.Run
import CallOrder.Proofs.Accounting
import CallOrder.Proofs.Json.Sorted
import CallOrder.Proofs.Results
import CallOrder.Proofs.Strongest

/-! The three ways in which a scan shows its report: all calls in JSON, the flagged ones in JSON, and text. What they show
is told here by what is read of the texts, so that none of them is explained by another. -/
namespace CallOrder

open Json

namespace Json

end Json

namespace Terminal.Table
variable {table : Table}

end Terminal.Table

/-- A count with its name in JSON and its title in text. -/
structure NamedCount where
  name : String
  title : String
  value : ℕ

/-- What a tally counts. -/
def Tally.counts (tally : Tally) : List NamedCount :=
  [⟨"documents", "Documents", tally.documents⟩, ⟨"sites_checked", "Call sites checked", tally.checked⟩,
    ⟨"sites_skipped", "Call sites skipped", tally.skipped⟩, ⟨"sites_flagged", "Call sites flagged", tally.flagged⟩,
    ⟨"candidates", "Swap candidates", tally.swaps⟩]

/-- What is read of a tally. -/
def Tally.summary (tally : Tally) : Reading :=
  .object (tally.counts.map fun count => (.ofText count.name, .number (Value.wholeNumeral count.value))) .closed

namespace Json.Reading

end Json.Reading

/-- What is read of a report on a call. -/
def CallReport.reading (call : CallReport) : Reading := (CallReport.format.write call).reading

namespace Command

open Terminal

/-- What the text says of a swap: an error, and a note behind it if the declaration is known. -/
inductive IsEntry : CallReport × Swap → String → Prop where
  | error {call : CallReport} {swap : Swap} (h : call.declaration = none) :
      IsEntry (call, swap) (Remark.error call.call call.callee swap).text
  | errorAndNote {call : CallReport} {swap : Swap} {declaration : Place} (h : call.declaration = some declaration) :
      IsEntry (call, swap) ((Remark.error call.call call.callee swap).text ++ (Remark.note declaration).text)

section Report
variable (calls : List CallReport) (documents skipped : ℕ)

end Report

end Command

end CallOrder
