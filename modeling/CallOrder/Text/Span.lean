/-! Sets of characters as ascending lists of spans of code points. -/
namespace CallOrder.Text

/-- Whether a number lies in one of the spans, each given by its first and last member. The spans
are ascending, so the search ends at the first one that starts beyond the number. -/
def inSpans : List (Nat × Nat) → Nat → Bool
  | [], _ => false
  | (first, last) :: rest, n => if n < first then false else n ≤ last || inSpans rest n

/-- Whether a number lies in one of the spans, each given by its first and last member and the
distance between neighbouring members. -/
def inStridedSpans : List (Nat × Nat × Nat) → Nat → Bool
  | [], _ => false
  | (first, last, distance) :: rest, n =>
    if n < first then false
    else n ≤ last && (n - first) % distance == 0 || inStridedSpans rest n

/-- The image of a number under a list of mapped spans: first and last member, distance, and the
image of the first member. The members of one span keep their distances. -/
def spanImage? : List (Nat × Nat × Nat × Nat) → Nat → Option Nat
  | [], _ => none
  | (first, last, distance, image) :: rest, n =>
    if n < first then none
    else if n ≤ last && (n - first) % distance == 0 then some (image + (n - first))
    else spanImage? rest n

end CallOrder.Text
