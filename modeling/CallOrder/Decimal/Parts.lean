/-! A double-precision number taken apart into sign, whole significand and power of two. -/
namespace CallOrder.Decimal

/-- What a double-precision number stands for. -/
inductive Parts where
  | nan
  | infinite (negative : Bool)
  /-- The number `± significand * 2 ^ exponent`. -/
  | finite (negative : Bool) (significand : Nat) (exponent : Int)
deriving DecidableEq, Repr

/-- The leading bit of a significand, `2 ^ 52`. -/
def hiddenBit : Nat := 0x10000000000000

/-- The parts of the number with these 64 bits: one of sign, eleven of exponent, the others of
significand, whose leading bit is not stored. -/
def Parts.ofBits (bits : Nat) : Parts :=
  let negative := bits.testBit 63
  let field : Nat := bits / hiddenBit % 2048
  let fraction : Nat := bits % hiddenBit
  if field = 2047 then if fraction = 0 then .infinite negative else .nan
  else if field = 0 then .finite negative fraction (-1074)
  else .finite negative (hiddenBit + fraction) ((field : Int) - 1075)

def Parts.ofFloat (x : Float) : Parts := .ofBits x.toBits.toNat

end CallOrder.Decimal
