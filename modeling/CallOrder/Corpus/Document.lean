import CallOrder.NameMap
import CallOrder.Report

/-! Documents of a corpus: functions with their declarations, and the recorded calls of each. -/
namespace CallOrder.Corpus

/-- How a document names a file: by a number or by a text. -/
inductive FileKey where
  | id (n : UInt64)
  | name (s : String)
deriving DecidableEq, Repr

/-- The text under which the document lists the file. -/
def FileKey.text : FileKey → String
  | .id n => String.ofList (Decimal.digitsOf n.toNat)
  | .name s => s

/-- A place as a document records it. -/
structure RecordedPlace where
  file : Option FileKey := none
  line : Option UInt64 := none
deriving DecidableEq, Repr, Inhabited

/-- A parameter or an argument, which need not have a name. -/
structure NamedItem where
  name : Option String := none
deriving DecidableEq, Repr, Inhabited

/-- What is recorded of a declaration. -/
structure Declaration where
  place : Option RecordedPlace := none
  parameters : Option (List NamedItem) := none
  isVariadic : Bool := false
deriving DecidableEq, Repr, Inhabited

/-- A recorded call. -/
structure RecordedCall where
  place : RecordedPlace := {}
  arguments : List NamedItem := []
deriving DecidableEq, Repr, Inhabited

/-- A function and the recorded calls of it. -/
structure FunctionRecord where
  declaration : Declaration := {}
  calls : List RecordedCall := []
deriving DecidableEq, Repr, Inhabited

/-- A document. -/
structure Document where
  fileNames : NameMap String := ∅
  functions : NameMap FunctionRecord := ∅
deriving DecidableEq, Inhabited

/-- The name of a parameter or an argument; nothing is known of an empty name. -/
def NamedItem.text (item : NamedItem) : String := item.name.getD ""

/-- The place that is meant within a document. A file that the document does not list is taken
by the text that names it. -/
def Document.resolve (document : Document) (recorded : RecordedPlace) : Place where
  file :=
    match recorded.file with
    | none => "<unknown>"
    | some key => (document.fileNames.get? key.text).getD key.text
  line := recorded.line.getD 0

end CallOrder.Corpus
