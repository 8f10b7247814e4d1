import CallOrder.Call
import CallOrder.Corpus.Document

/-! The calls of a corpus that can be checked. -/
namespace CallOrder.Corpus

/-- A call that can be checked, because the parameters of the function are known. -/
structure Job where
  signature : Signature
  site : CallSite
  declaration : Option Place
  call : Place
deriving DecidableEq, Repr, Inhabited

/-- The calls of a function that can be checked: all if its parameters are known, else none. -/
def Document.functionJobs (document : Document) (name : String) (function : FunctionRecord) :
    List Job :=
  match function.declaration.parameters with
  | none => []
  | some parameters =>
    function.calls.map fun call =>
      { signature :=
          { callee := some name
            parameters := some (parameters.map NamedItem.text)
            isVariadic := function.declaration.isVariadic }
        site := .ofNames (call.arguments.map NamedItem.text)
        declaration := function.declaration.place.map document.resolve
        call := document.resolve call.place }

/-- The number of calls of a function that cannot be checked. -/
def FunctionRecord.skippedCalls (function : FunctionRecord) : Nat :=
  match function.declaration.parameters with
  | none => function.calls.length
  | some _ => 0

/-- The calls of a document that can be checked, by the names of the functions. -/
def Document.jobs (document : Document) : List Job :=
  document.functions.entries.flatMap fun (name, function) => document.functionJobs name function

/-- The number of calls of a document that cannot be checked. -/
def Document.skippedCalls (document : Document) : Nat :=
  document.functions.entries.foldr (fun (_, function) n => function.skippedCalls + n) 0

/-- The calls that can be checked, document by document. -/
def jobs (documents : List Document) : List Job := documents.flatMap Document.jobs

/-- The number of calls that cannot be checked. -/
def skippedCalls (documents : List Document) : Nat :=
  documents.foldr (fun document n => document.skippedCalls + n) 0

end CallOrder.Corpus
