import CallOrder.Corpus.Document
import CallOrder.Error
import CallOrder.Json.Format

/-! How the documents of a corpus are written in JSON, one on each line. -/
namespace CallOrder.Corpus

open Json

/-- A file is named by a number or by a text. The value is read to its end before it is looked
at. -/
def FileKey.format : Format FileKey where
  read depth reading := do
    reading.readThrough depth
    match reading with
    | .number n =>
      match ← n.value with
      | .whole (.ofNat n) => return .id n.toUInt64
      | _ => throw (.noAlternative "FileRef")
    | .string q => return .name (← q.text)
    | _ => throw (.noAlternative "FileRef")
  write
    | .id n => .integer n.toNat
    | .name s => .string s

def RecordedPlace.format : Format RecordedPlace :=
  .record "LocationEntry"
    (.cons "file" (.optional FileKey.format) (.anywhere none)
      (.cons "lineNo" (.optional .word) (.anywhere none) .nil))
    (fun (file, line, ()) => { file, line })
    (fun place => (place.file, place.line, ()))

def NamedItem.format : Format NamedItem :=
  .record "NamedEntry"
    (.cons "name" (.optional .text) (.anywhere none) .nil)
    (fun (name, ()) => { name })
    (fun item => (item.name, ()))

def Declaration.format : Format Declaration :=
  .record "DeclAttrs"
    (.cons "location" (.optional RecordedPlace.format) (.anywhere none)
      (.cons "params" (.optional (.list NamedItem.format)) (.anywhere none)
        (.cons "isVariadic" .flag (.anywhere false) .nil)))
    (fun (place, parameters, isVariadic, ()) => { place, parameters, isVariadic })
    (fun declaration => (declaration.place, declaration.parameters, declaration.isVariadic, ()))

/-- The arguments of a recorded call stand in a record of their own. -/
def argumentsFormat : Format (List NamedItem) :=
  .record "CallAttrs"
    (.cons "args" (.list NamedItem.format) (.anywhere []) .nil)
    (fun (arguments, ()) => arguments)
    (fun arguments => (arguments, ()))

def RecordedCall.format : Format RecordedCall :=
  .record "CallSiteEntry"
    (.cons "site" RecordedPlace.format (.anywhere {})
      (.cons "attrs" argumentsFormat (.anywhere []) .nil))
    (fun (place, arguments, ()) => { place, arguments })
    (fun call => (call.place, call.arguments, ()))

def FunctionRecord.format : Format FunctionRecord :=
  .record "FunctionEntry"
    (.cons "declAttrs" Declaration.format (.anywhere {})
      (.cons "callSites" (.list RecordedCall.format) (.anywhere []) .nil))
    (fun (declaration, calls, ()) => { declaration, calls })
    (fun function => (function.declaration, function.calls, ()))

def Document.format : Format Document :=
  .record "CorpusDocument"
    (.cons "fileNameMap" (.nameMap .text) (.anywhere ∅)
      (.cons "functions" (.nameMap FunctionRecord.format) (.anywhere ∅) .nil))
    (fun (fileNames, functions, ()) => { fileNames, functions })
    (fun document => (document.fileNames, document.functions, ()))

end CallOrder.Corpus
