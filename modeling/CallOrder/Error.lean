import CallOrder.Json.Fault

/-! What can go wrong outside the search itself: files, settings, and the data that they hold. -/
namespace CallOrder

/-- Why a file cannot be read. -/
inductive FileFault where
  | missing
  | denied
  | isDirectory
  | notText
  | other (explanation : String)
deriving DecidableEq, Repr

def FileFault.message : FileFault → String
  | .missing => "No such file or directory (os error 2)"
  | .denied => "Permission denied (os error 13)"
  | .isDirectory => "Is a directory (os error 21)"
  | .notText => "stream did not contain valid UTF-8"
  | .other explanation => explanation

/-- The text of a file, if its bytes are one. -/
def decodeFile (bytes : ByteArray) : Except FileFault String :=
  match String.fromUTF8? bytes with
  | some text => .ok text
  | none => .error .notText

/-- Why an operation fails. -/
inductive Error where
  | file (attempt : String) (fault : FileFault)
  | settings (problem : String) (field : Option String)
  /-- A margin that no call could reach, or that every related pair would. -/
  | threshold (value : Float)
  /-- A faulty JSON text, which may be one line of many. -/
  | json (line : Option Nat) (fault : Json.Fault)
  /-- A faulty YAML text. What is wrong with it is not kept. -/
  | yaml
  | validation (problem : String) (field : Option String)
  | internal (problem : String) (context : Option String)
deriving DecidableEq

namespace Error

/-- The message of an error. Of a faulty JSON text it leaves out where in the text, or in the line, the fault is, and of
a faulty YAML text all that follows the words here. -/
def message : Error → String
  | .file attempt _ => "I/O error: " ++ attempt
  | .settings problem _ => "Configuration error: " ++ problem
  | .threshold value =>
    "Invalid threshold " ++ Decimal.plain.spell value ++
      ": margin must be a finite value in (0.0, 2.0]"
  | .json none fault => "Serialization error: JSON serialization failed: " ++ fault.message
  | .json (some line) fault =>
    "Serialization error: Malformed corpus document on line " ++
      String.ofList (Decimal.digitsOf line) ++ ": " ++ fault.message
  | .yaml => "Serialization error: YAML serialization failed"
  | .validation problem _ => "Validation error: " ++ problem
  | .internal problem _ => "Internal error: " ++ problem

/-- Says where an internal error arose. Other errors say enough by themselves. -/
def inContext (context : String) : Error → Error
  | .internal problem _ => .internal problem (some context)
  | error => error

end Error

end CallOrder
