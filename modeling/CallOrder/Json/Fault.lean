import CallOrder.Decimal.Notation
import CallOrder.Text.Quoted

/-! What can be wrong with a JSON text, and with what it says. -/
namespace CallOrder.Json

/-- A value that stands where another kind is wanted. -/
inductive Found where
  | null
  | boolean (b : Bool)
  | integer (i : Int)
  | real (x : Float)
  | text (s : String)
  | list
  | object
deriving DecidableEq

def Found.describe : Found → String
  | .null => "null"
  | .boolean b => "boolean `" ++ (if b then "true" else "false") ++ "`"
  | .integer i => "integer `" ++ String.ofList (Decimal.spellInt i) ++ "`"
  | .real x => "floating point `" ++ Decimal.dataNotation.spell x ++ "`"
  | .text s => "string " ++ Text.quoted s
  | .list => "sequence"
  | .object => "map"

/-- Why a JSON text cannot be read. -/
inductive Fault where
  /-- The text ends where a value, a list, an object or a string goes on. -/
  | endInValue
  | endInList
  | endInObject
  | endInString
  | noValue
  | misspelledWord
  | noListSeparator
  | noObjectSeparator
  | noColon
  | trailingComma
  | trailingText
  | keyNotString
  | malformedNumber
  | numberTooLarge
  | badEscape
  /-- Half of a surrogate pair, without the other half. -/
  | loneSurrogate
  /-- The first half of a surrogate pair, and no escape after it. -/
  | unpairedSurrogate
  | controlCharacter
  | tooDeep
  | wrongKind (found : Found) (wanted : String)
  | wrongValue (found : Found) (wanted : String)
  | missingField (name : String)
  | duplicateField (name : String)
  | wrongLength (count : Nat) (wanted : String)
  | noAlternative (kind : String)
deriving DecidableEq

/-- The three classes of faults: the text is cut short, it is no JSON, or it says something else
than what is wanted. -/
inductive Fault.Category where
  | cutShort
  | grammar
  | content
deriving DecidableEq, Repr

def Fault.category : Fault → Category
  | .endInValue | .endInList | .endInObject | .endInString => .cutShort
  | .wrongKind .. | .wrongValue .. | .missingField _ | .duplicateField _ | .wrongLength ..
  | .noAlternative _ => .content
  | _ => .grammar

/-- The message of a fault, without the line and the column at which the reader met it. A full message ends with both. -/
def Fault.message : Fault → String
  | .endInValue => "EOF while parsing a value"
  | .endInList => "EOF while parsing a list"
  | .endInObject => "EOF while parsing an object"
  | .endInString => "EOF while parsing a string"
  | .noValue => "expected value"
  | .misspelledWord => "expected ident"
  | .noListSeparator => "expected `,` or `]`"
  | .noObjectSeparator => "expected `,` or `\x7d`"
  | .noColon => "expected `:`"
  | .trailingComma => "trailing comma"
  | .trailingText => "trailing characters"
  | .keyNotString => "key must be a string"
  | .malformedNumber => "invalid number"
  | .numberTooLarge => "number out of range"
  | .badEscape => "invalid escape"
  | .loneSurrogate => "lone leading surrogate in hex escape"
  | .unpairedSurrogate => "unexpected end of hex escape"
  | .controlCharacter => "control character (\\u0000-\\u001F) found while parsing a string"
  | .tooDeep => "recursion limit exceeded"
  | .wrongKind found wanted => "invalid type: " ++ found.describe ++ ", expected " ++ wanted
  | .wrongValue found wanted => "invalid value: " ++ found.describe ++ ", expected " ++ wanted
  | .missingField name => "missing field `" ++ name ++ "`"
  | .duplicateField name => "duplicate field `" ++ name ++ "`"
  | .wrongLength count wanted =>
    "invalid length " ++ String.ofList (Decimal.digitsOf count) ++ ", expected " ++ wanted
  | .noAlternative kind => "data did not match any variant of untagged enum " ++ kind

end CallOrder.Json
