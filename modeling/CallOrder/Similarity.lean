import CallOrder.Morphemes

/-! Similarity of morpheme sets, and the table of the similarities between the parameters and the
arguments of a call. -/
namespace CallOrder

/-- The Jaccard similarity of two sets: how many members they share, of those they have together.
An empty set resembles nothing, not even itself. -/
def MorphemeSet.similarity (s t : MorphemeSet) : Float :=
  if s.isEmpty || t.isEmpty then 0
  else
    let shared := s.sharedCount t
    Float.ofNat shared / Float.ofNat (s.card + t.card - shared)

/-- A square table of scores, row after row. A row belongs to a parameter, a column to an
argument. -/
structure ScoreMatrix where
  size : Nat
  cells : Array Float
  size_cells : cells.size = size * size

namespace ScoreMatrix

theorem length_products (f : MorphemeSet → MorphemeSet → Float) (ps as : List MorphemeSet) :
    (ps.flatMap fun p => as.map (f p)).length = ps.length * as.length := by
  induction ps with
  | nil => simp
  | cons p rest ih => simp [ih, Nat.succ_mul, Nat.add_comm]

/-- The similarities of the first parameters and as many arguments, as far as both lists go. -/
def ofSets (parameters arguments : List MorphemeSet) : ScoreMatrix where
  size := min parameters.length arguments.length
  cells :=
    let n := min parameters.length arguments.length
    ((parameters.take n).flatMap fun p => (arguments.take n).map p.similarity).toArray
  size_cells := by rw [List.size_toArray, length_products]; simp

theorem cell_lt {n i j : Nat} (hi : i < n) (hj : j < n) : i * n + j < n * n :=
  calc i * n + j < i * n + n := Nat.add_lt_add_left hj _
    _ = (i + 1) * n := (Nat.succ_mul i n).symm
    _ ≤ n * n := Nat.mul_le_mul_right n hi

/-- The score of a parameter against an argument. -/
def score (m : ScoreMatrix) (parameter argument : Fin m.size) : Float :=
  have : parameter * m.size + argument < m.cells.size :=
    m.size_cells ▸ cell_lt parameter.isLt argument.isLt
  m.cells[parameter * m.size + argument]

/-- The scores of each parameter against all arguments. -/
def rows (m : ScoreMatrix) : List (List Float) :=
  (List.finRange m.size).map fun p => (List.finRange m.size).map (m.score p)

end ScoreMatrix

end CallOrder
