/-! Reading a decimal as the nearest double-precision number. -/
namespace CallOrder.Decimal

/-- Whether a character is one of the ten ASCII digits. -/
def isDigit (c : Char) : Bool := '0' ≤ c && c ≤ '9'

/-- The number that a run of digits denotes. -/
def valueOfDigits (digits : List Char) : Nat :=
  digits.foldl (fun n c => 10 * n + (c.toNat - '0'.toNat)) 0

/-- The number nearest to `digits * 10 ^ exponent`. Beyond the range of the precision the answer is
infinity or zero. -/
def nearestFloat (digits : Nat) (exponent : Int) : Float :=
  let lead := exponent + (Nat.toDigits 10 digits).length
  if digits = 0 || lead < -330 then 0
  else if 330 < lead then 1 / 0
  else Float.ofScientific digits (exponent < 0) exponent.natAbs

/-- A decimal as written: digits before and after the point, and the exponent. -/
structure Literal where
  whole : List Char
  fraction : List Char
  exponent : Int

def Literal.toFloat (d : Literal) : Float :=
  nearestFloat (valueOfDigits (d.whole ++ d.fraction)) (d.exponent - d.fraction.length)

/-- Reads what follows the mantissa: nothing, or an exponent. -/
def readExponent? : List Char → Option Int
  | [] => some 0
  | c :: rest =>
    if c = 'e' || c = 'E' then
      let (negative, digits) :=
        match rest with
        | '-' :: digits => (true, digits)
        | '+' :: digits => (false, digits)
        | digits => (false, digits)
      if digits.isEmpty || !digits.all isDigit then none
      else some (if negative then -(valueOfDigits digits : Int) else valueOfDigits digits)
    else none

/-- Reads a decimal without a sign: digits with at most one point, at least one digit, and an
optional exponent. -/
def Literal.read? (text : List Char) : Option Literal :=
  let whole := text.takeWhile isDigit
  let rest := text.dropWhile isDigit
  let (fraction, tail) :=
    match rest with
    | '.' :: more => (more.takeWhile isDigit, more.dropWhile isDigit)
    | _ => ([], rest)
  if whole.isEmpty && fraction.isEmpty then none
  else (readExponent? tail).map fun exponent => { whole, fraction, exponent }

/-- Reads a number without a sign: a decimal, or a word for infinity or for no number, in any
case. -/
def readUnsigned? (text : List Char) : Option Float :=
  let word := text.map Char.toLower
  if word = "inf".toList || word = "infinity".toList then some (1 / 0)
  else if word = "nan".toList then some (0 / 0)
  else (Literal.read? text).map Literal.toFloat

/-- Reads a number with an optional sign. -/
def readFloat? (text : List Char) : Option Float :=
  match text with
  | '-' :: rest => (readUnsigned? rest).map fun x => -x
  | '+' :: rest => readUnsigned? rest
  | _ => readUnsigned? text

end CallOrder.Decimal
