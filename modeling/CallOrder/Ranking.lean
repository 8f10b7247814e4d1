/-! Putting a list into an order, one item after the other. -/
namespace CallOrder

/-- Puts an item before the first one that it does not come after. -/
def insertRanked {α : Type} (comesAfter : α → α → Bool) (x : α) : List α → List α
  | [] => [x]
  | y :: rest => if comesAfter x y then y :: insertRanked comesAfter x rest else x :: y :: rest

/-- The items in order; those of equal rank stay as they stand. -/
def ranked {α : Type} (comesAfter : α → α → Bool) : List α → List α
  | [] => []
  | x :: rest => insertRanked comesAfter x (ranked comesAfter rest)

theorem insertRanked_perm {α : Type} (comesAfter : α → α → Bool) (x : α) (xs : List α) :
    (insertRanked comesAfter x xs).Perm (x :: xs) := by
  induction xs with
  | nil => exact .refl _
  | cons y rest ih =>
    unfold insertRanked
    split
    · exact (ih.cons y).trans (.swap x y rest)
    · exact .refl _

/-- Nothing is lost or added. -/
theorem ranked_perm {α : Type} (comesAfter : α → α → Bool) (xs : List α) :
    (ranked comesAfter xs).Perm xs := by
  induction xs with
  | nil => exact .refl _
  | cons x rest ih => exact (insertRanked_perm comesAfter x _).trans (ih.cons x)

end CallOrder
