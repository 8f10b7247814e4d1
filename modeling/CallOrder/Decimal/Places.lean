import CallOrder.Decimal.Notation

/-! A double-precision number rounded to a fixed number of decimal places. -/
namespace CallOrder.Decimal

/-- The whole number nearest to a quotient; the even one of two that are equally near. -/
def roundQuotient (num den : Nat) : Nat :=
  match compare (2 * (num % den)) den with
  | .lt => num / den
  | .gt => num / den + 1
  | .eq => Tie.toEven.choose (num / den)

/-- A number with exactly so many places after the point, rounded from its exact value. -/
def spellPlaces (places : Nat) (x : Float) : String :=
  match Parts.ofFloat x with
  | .nan => String.ofList plain.nan
  | .infinite negative => String.ofList (plain.spellParts (.infinite negative))
  | .finite negative significand exponent =>
    let scaled := significand * Nat.pow 2 exponent.toNat * Nat.pow 10 places
    let rounded := roundQuotient scaled (Nat.pow 2 (-exponent).toNat)
    String.ofList ((if negative then ['-'] else []) ++ placePoint (digitsOf rounded) places)

end CallOrder.Decimal
