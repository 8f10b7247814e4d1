import CallOrder.Text.Span

/-! The Unicode property White_Space. -/
namespace CallOrder.Text

/-- The characters with the property White_Space. -/
def blankSpans : List (Nat × Nat) :=
  [(9, 0xD), (0x20, 0x20), (0x85, 0x85), (0xA0, 0xA0), (0x1680, 0x1680), (0x2000, 0x200A),
    (0x2028, 0x2029), (0x202F, 0x202F), (0x205F, 0x205F), (0x3000, 0x3000)]

def isBlank (c : Char) : Bool := inSpans blankSpans c.toNat

end CallOrder.Text
