import CallOrder.Decimal.Reading
import CallOrder.Yaml.Scalar

/-! What the text of a plain scalar means besides itself: nothing, a truth value, or a number. -/
namespace CallOrder.Yaml

/-- Whether a text spells that there is no value. -/
def isNull (text : List Char) : Bool :=
  text = "~".toList || text = "null".toList || text = "Null".toList || text = "NULL".toList

def flagOf? (text : List Char) : Option Bool :=
  if text = "true".toList || text = "True".toList || text = "TRUE".toList then some true
  else if text = "false".toList || text = "False".toList || text = "FALSE".toList then some false
  else none

def digitIn? (base : Nat) (c : Char) : Option Nat :=
  (Text.hexValue? c).bind fun n => if n < base then some n else none

/-- The number that digits denote in a base; there must be a digit. -/
def digitsIn? (base : Nat) (digits : List Char) : Option Nat :=
  if digits.isEmpty then none
  else digits.foldlM (fun n c => (digitIn? base c).map (base * n + ·)) 0

/-- Reads digits in base sixteen, eight or two, as a letter after a zero says. -/
def basedDigits? : List Char → Option Nat
  | '0' :: 'x' :: rest => digitsIn? 16 rest
  | '0' :: 'o' :: rest => digitsIn? 8 rest
  | '0' :: 'b' :: rest => digitsIn? 2 rest
  | _ => none

def dropSign : List Char → List Char
  | '-' :: rest | '+' :: rest => rest
  | text => text

/-- Whether a text consists of digits with a needless zero before them. Such a text is no number. -/
def hasNeedlessZero (text : List Char) : Bool :=
  match dropSign text with
  | '0' :: d :: rest => (d :: rest).all Decimal.isDigit
  | _ => false

/-- The whole number that a text spells, with or without a plus sign. -/
def unsignedOf? (text : List Char) : Option Nat :=
  let bare :=
    match text with
    | '+' :: rest => rest
    | _ => text
  (basedDigits? bare).or (if hasNeedlessZero text then none else digitsIn? 10 bare)

/-- The whole number that a text with a minus sign spells. -/
def negativeOf? : List Char → Option Int
  | '-' :: rest =>
    ((basedDigits? rest).or (if hasNeedlessZero rest then none else digitsIn? 10 rest)).map fun n =>
      -(n : Int)
  | _ => none

/-- The number of double precision that a text spells. Infinity and the absence of a number are
spelled with a point before them. -/
def realOf? (text : List Char) : Option Float :=
  let bare :=
    match text with
    | '+' :: '+' :: _ | '+' :: '-' :: _ => []
    | '+' :: rest => rest
    | _ => text
  if bare = ".inf".toList || bare = ".Inf".toList || bare = ".INF".toList then some (1 / 0)
  else if text = "-.inf".toList || text = "-.Inf".toList || text = "-.INF".toList then
    some (-(1 / 0))
  else if text = ".nan".toList || text = ".NaN".toList || text = ".NAN".toList then some (0 / 0)
  else (Decimal.readFloat? bare).bind fun x => if x.isFinite then some x else none

/-- Whether a plain scalar with this text would be read as something else than a text, or looks
as if it were a number. -/
def readsAsOther (text : List Char) : Bool :=
  text.isEmpty || isNull text || (flagOf? text).isSome ||
  (unsignedOf? text).any (· < Nat.pow 2 128) || (negativeOf? text).any (-Int.ofNat (Nat.pow 2 127) ≤ ·) ||
  hasNeedlessZero text || (realOf? text).isSome

end CallOrder.Yaml
