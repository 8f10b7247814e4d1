import CallOrder.Decimal.Reading
import CallOrder.Json.Fault

/-! Numbers in JSON: their spelling, and the number that a spelling stands for. -/
namespace CallOrder.Json

/-- How the spelling of a number ends. -/
inductive Numeral.End where
  | complete
  /-- The text ends where a digit is missing. -/
  | cut
  /-- Something else stands where a digit is missing, or a digit where none may stand. -/
  | malformed
deriving DecidableEq, Repr

/-- The spelling of a number. -/
structure Numeral where
  negative : Bool := false
  whole : List Char := []
  fraction : Option (List Char) := none
  /-- The sign of the exponent, and its digits. -/
  exponent : Option (Bool × List Char) := none
  ending : Numeral.End := .complete
deriving DecidableEq, Repr

/-- A number that was read: a whole one of at most 64 bits, or one of double precision. -/
inductive Number where
  | whole (i : Int)
  | real (x : Float)
deriving DecidableEq

namespace Numeral

/-- How a spelling ends whose next digit is missing before this text. -/
def missingDigit (rest : List Char) : End := if rest.isEmpty then .cut else .malformed

/-- Reads an exponent, if one begins here. -/
def readExponent (numeral : Numeral) : List Char → Numeral × List Char
  | [] => (numeral, [])
  | c :: rest =>
    if c = 'e' || c = 'E' then
      let (negative, digits) :=
        match rest with
        | '-' :: digits => (true, digits)
        | '+' :: digits => (false, digits)
        | digits => (false, digits)
      let after := digits.dropWhile Decimal.isDigit
      match digits.takeWhile Decimal.isDigit with
      | [] => ({ numeral with ending := missingDigit after }, after)
      | taken => ({ numeral with exponent := some (negative, taken) }, after)
    else (numeral, c :: rest)

/-- Reads a fraction and an exponent, as far as they begin here. -/
def readTail (numeral : Numeral) : List Char → Numeral × List Char
  | '.' :: rest =>
    let after := rest.dropWhile Decimal.isDigit
    match rest.takeWhile Decimal.isDigit with
    | [] => ({ numeral with ending := missingDigit after }, after)
    | taken => readExponent { numeral with fraction := some taken } after
  | rest => readExponent numeral rest

/-- Reads the digits of a number and what follows them. A leading zero stands alone. -/
def readDigits (negative : Bool) (text : List Char) : Numeral × List Char :=
  let after := text.dropWhile Decimal.isDigit
  match text.takeWhile Decimal.isDigit with
  | [] => ({ negative, ending := missingDigit after }, after)
  | ['0'] => readTail { negative, whole := ['0'] } after
  | '0' :: _ => ({ negative, ending := .malformed }, after)
  | taken => readTail { negative, whole := taken } after

def read : List Char → Numeral × List Char
  | '-' :: rest => readDigits true rest
  | rest => readDigits false rest

/-- Appends digits to a number as long as it fits into 64 bits; the answer holds also how many
fitted. -/
def appendDigits : Nat → List Char → Nat × Nat
  | n, [] => (n, 0)
  | n, c :: rest =>
    let next := 10 * n + (c.toNat - '0'.toNat)
    if next < UInt64.size then
      let (result, count) := appendDigits next rest
      (result, count + 1)
    else (n, 0)

/-- A power of ten, as near as double precision comes to it. -/
def powerOfTen (n : Nat) : Float := Float.ofScientific 1 false n

/-- Divides by the greatest exact step `10 ^ 308` so many times, or until nothing is left. -/
def divideSteps : Nat → Float → Float
  | 0, x => x
  | count + 1, x => if x == 0 then x else divideSteps count (x / powerOfTen 308)

/-- The number `significand * 10 ^ exponent`, rounded at each step: when the significand becomes
double precision, and at each product or quotient. So the last digit may be off. -/
def scale (significand : Nat) (exponent : Int) : Except Fault Float :=
  let x := significand.toUInt64.toFloat
  let size := exponent.natAbs
  if exponent < 0 then
    let steps := (size - 1) / 308
    .ok (divideSteps steps x / powerOfTen (size - 308 * steps))
  else if size ≤ 308 then
    let product := x * powerOfTen size
    if product.isInf then .error .numberTooLarge else .ok product
  else if x == 0 then .ok x
  else .error .numberTooLarge

/-- The value of a spelling that is not a whole number of 64 bits. Digits that do not fit into 64
bits count as zeros. -/
def realValue (numeral : Numeral) : Except Fault Float := do
  let (significand, wholeCount) := appendDigits 0 numeral.whole
  let (significand, fractionCount) := appendDigits significand (numeral.fraction.getD [])
  let exponent : Int :=
    match numeral.exponent with
    | none => 0
    | some (negative, digits) =>
      if negative then -(Decimal.valueOfDigits digits : Int) else Decimal.valueOfDigits digits
  let size ← scale significand (exponent + (numeral.whole.length - wholeCount : Nat) - fractionCount)
  return if numeral.negative then -size else size

/-- The number that a spelling stands for. Negative zero is not a whole number. -/
def value (numeral : Numeral) : Except Fault Number :=
  match numeral.ending with
  | .cut => .error .endInValue
  | .malformed => .error .malformedNumber
  | .complete =>
    let n := Decimal.valueOfDigits numeral.whole
    if numeral.fraction.isNone && numeral.exponent.isNone && !numeral.negative && n < UInt64.size then
      .ok (.whole n)
    else if numeral.fraction.isNone && numeral.exponent.isNone && numeral.negative && 0 < n &&
        2 * n ≤ UInt64.size then
      .ok (.whole (-n))
    else numeral.realValue.map .real

/-- Passes over a number whose value does not matter. -/
def skip (numeral : Numeral) : Except Fault Unit :=
  if numeral.ending = .complete then .ok () else .error .malformedNumber

end Numeral

end CallOrder.Json
