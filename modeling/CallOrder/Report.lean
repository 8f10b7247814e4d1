import CallOrder.Decimal.Notation
import CallOrder.Swap

/-! Reports of scans: what was found at each call, and how much was looked at. -/
namespace CallOrder

/-- A line of a file. -/
structure Place where
  file : String
  line : UInt64
deriving DecidableEq, Repr, Inhabited

/-- A place for a reader. -/
def Place.describe (place : Place) : String :=
  place.file ++ ":" ++ String.ofList (Decimal.digitsOf place.line.toNat)

/-- What was found at one call. -/
structure CallReport where
  callee : String
  declaration : Option Place
  call : Place
  found : Findings
deriving DecidableEq, Inhabited

/-- Whether anything was found. -/
def CallReport.isFlagged (report : CallReport) : Bool := !report.found.isEmpty

/-- How much was looked at and found. -/
structure Tally where
  documents : Nat := 0
  checked : Nat := 0
  skipped : Nat := 0
  flagged : Nat := 0
  swaps : Nat := 0
deriving DecidableEq, Repr, Inhabited

/-- The report of a scan. -/
structure Report where
  calls : List CallReport
  tally : Tally
deriving DecidableEq, Inhabited

namespace Report

/-- The report with its tally. -/
def ofCalls (calls : List CallReport) (documents skipped : Nat) : Report where
  calls := calls
  tally :=
    { documents
      checked := calls.length
      skipped
      flagged := calls.countP CallReport.isFlagged
      swaps := calls.foldr (fun call n => call.found.count + n) 0 }

/-- The calls at which something was found. -/
def flagged (report : Report) : List CallReport := report.calls.filter CallReport.isFlagged

/-- Whether anything was found. -/
def hasIssues (report : Report) : Bool := 0 < report.tally.flagged

end Report

end CallOrder
