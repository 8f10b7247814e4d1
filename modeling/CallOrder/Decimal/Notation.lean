import CallOrder.Decimal.Shortest

/-! The spelling of a double-precision number: which numbers are written with an exponent, and how
the parts of the spelling look. -/
namespace CallOrder.Decimal

/-- How numbers are spelled. -/
structure Notation where
  /-- Whether a number whose leading digit has this exponent is written without an exponent. -/
  isPositional : Int → Bool
  /-- What follows a whole number that is written without an exponent. -/
  wholeSuffix : List Char
  /-- The sign of an exponent that is not negative. -/
  plus : List Char
  nan : List Char
  infinity : List Char
  /-- Which of two equally near decimals is written. -/
  tie : Tie

def digitsOf (n : Nat) : List Char := Nat.toDigits 10 n

def spellInt : Int → List Char
  | .ofNat n => digitsOf n
  | .negSucc n => '-' :: digitsOf (n + 1)

/-- Digits with a point before the last so many of them, and zeros where digits are missing. -/
def placePoint (digits : List Char) (places : Nat) : List Char :=
  let padded := List.replicate (places + 1 - digits.length) '0' ++ digits
  padded.take (padded.length - places) ++ '.' :: padded.drop (padded.length - places)

def Notation.spellScaled (style : Notation) (d : Scaled) : List Char :=
  let digits := digitsOf d.digits
  let lead := d.exponent + (digits.length - 1)
  if style.isPositional lead then
    if d.exponent < 0 then placePoint digits (-d.exponent).toNat
    else digits ++ List.replicate d.exponent.toNat '0' ++ style.wholeSuffix
  else
    let head := if digits.length = 1 then digits else placePoint digits (digits.length - 1)
    head ++ 'e' :: (if lead < 0 then [] else style.plus) ++ spellInt lead

def Notation.spellParts (style : Notation) : Parts → List Char
  | .nan => style.nan
  | .infinite negative => (if negative then ['-'] else []) ++ style.infinity
  | .finite negative significand exponent =>
    (if negative then ['-'] else []) ++ style.spellScaled (shortest style.tie significand exponent)

def Notation.spell (style : Notation) (x : Float) : String :=
  String.ofList (style.spellParts (.ofFloat x))

/-- For data: without an exponent from five places after the point to sixteen digits before it, and
with at least one digit after the point; beyond that with a signed exponent. Of two equally near
decimals the even one is written. -/
def dataNotation : Notation where
  isPositional lead := -5 ≤ lead && lead < 16
  wholeSuffix := ".0".toList
  plus := ['+']
  nan := "NaN".toList
  infinity := "inf".toList
  tie := .toEven

/-- For messages: never an exponent, and no point in a whole number. Of two equally near decimals
the one further from zero is written. -/
def plain : Notation where
  isPositional _ := true
  wholeSuffix := []
  plus := []
  nan := "NaN".toList
  infinity := "inf".toList
  tie := .away

end CallOrder.Decimal
