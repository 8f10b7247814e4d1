/-! Numbers in base sixteen. -/
namespace CallOrder.Text

/-- A number in base sixteen, in lowercase. -/
def hexDigits (n : Nat) : List Char := Nat.toDigits 16 n

/-- The value of a digit in base sixteen, in either case. -/
def hexValue? (c : Char) : Option Nat :=
  if '0' ≤ c && c ≤ '9' then some (c.toNat - '0'.toNat)
  else if 'a' ≤ c && c ≤ 'f' then some (c.toNat - 'a'.toNat + 10)
  else if 'A' ≤ c && c ≤ 'F' then some (c.toNat - 'A'.toNat + 10)
  else none

end CallOrder.Text
