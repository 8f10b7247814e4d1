import CallOrder.Proofs.Alignment
import CallOrder.Proofs.IndexedSearch
import Mathlib.Logic.Equiv.Fin.Basic

/-! The table of scores as one run of cells. A row is appended for each parameter, and in it a cell for each argument,
so that a parameter and an argument have a cell of their own, found by one index. -/
namespace CallOrder.ScoreMatrix

/-- Appends the scores of a parameter against the arguments, one after another. -/
def pushRow (arguments : List MorphemeSet) (cells : Array Float) (p : MorphemeSet) : Array Float :=
  arguments.foldl (fun cells a => cells.push (p.similarity a)) cells

/-- Appends a row for each parameter. -/
def pushRows (parameters arguments : List MorphemeSet) (cells : Array Float) : Array Float :=
  parameters.foldl (pushRow arguments) cells

/-- Where the score of a parameter against an argument is kept. -/
def cellOf (m : ScoreMatrix) (position : Fin m.size × Fin m.size) : Fin m.cells.size :=
  ⟨position.1 * m.size + position.2, m.size_cells ▸ cell_lt position.1.isLt position.2.isLt⟩

section Rows
variable (parameters arguments : List MorphemeSet) (cells : Array Float)

theorem pushRow_eq (p : MorphemeSet) : pushRow arguments cells p = cells ++ (arguments.map p.similarity).toArray :=
  List.foldl_push_eq_append

/-- The rows stand one behind the other, after what was there before. -/
theorem pushRows_eq :
    pushRows parameters arguments cells = cells ++ (parameters.flatMap fun p => arguments.map p.similarity).toArray := by
  induction parameters generalizing cells with
  | nil => simp [pushRows]
  | cons p rest ih =>
    have hrest := ih (pushRow arguments cells p)
    rw [pushRows, List.foldl_cons, ← pushRows, hrest, pushRow_eq, List.flatMap_cons]
    simp

end Rows

/-- Every cell belongs to one parameter and one argument: the quotient and the remainder of its index. -/
theorem cellOf_bijective (m : ScoreMatrix) : Function.Bijective m.cellOf := by
  have hcell : m.cellOf = Fin.cast m.size_cells.symm ∘ finProdFinEquiv := by
    funext position
    refine Fin.ext ?_
    change position.1.val * m.size + position.2.val = position.2.val + m.size * position.1.val
    rw [Nat.mul_comm, Nat.add_comm]
  rw [hcell]
  exact (finCongr m.size_cells.symm).bijective.comp finProdFinEquiv.bijective

section Table
variable {parameters arguments : List MorphemeSet}

private theorem size_eq (h : parameters.length = arguments.length) :
    (ofSets parameters arguments).size = parameters.length :=
  min_eq_left h.le

private theorem cells_eq (h : parameters.length = arguments.length) :
    (ofSets parameters arguments).cells = pushRows parameters arguments #[] := by
  have hmin : min parameters.length arguments.length = parameters.length := min_eq_left h.le
  simp only [ofSets, hmin, List.take_length]
  rw [pushRows_eq, h, List.take_length, Array.empty_append]

private theorem score_eq (i j : Fin (ofSets parameters arguments).size) (hi : i.val < parameters.length)
    (hj : j.val < arguments.length) :
    (ofSets parameters arguments).score i j =
      (parameters.get ⟨i, hi⟩).similarity (arguments.get ⟨j, hj⟩) := by
  rw [score_ofSets, List.getD_eq_getElem _ _ hi, List.getD_eq_getElem _ _ hj]
  rfl

/-- The table of as many parameters as arguments is what appending row after row leaves. It has a cell for each parameter
and each argument, and the access finds the score of the two. -/
theorem cell_for_each_pair (h : parameters.length = arguments.length) :
    (ofSets parameters arguments).size = parameters.length ∧
    (ofSets parameters arguments).cells = pushRows parameters arguments #[] ∧
    (ofSets parameters arguments).cells.size = parameters.length * parameters.length ∧
    Function.Bijective (ofSets parameters arguments).cellOf ∧
    ∀ (i : Fin parameters.length) (j : Fin arguments.length), ∃ hi hj,
      (ofSets parameters arguments).score ⟨i, hi⟩ ⟨j, hj⟩ = (parameters.get i).similarity (arguments.get j) ∧
      (ofSets parameters arguments).scoreAt i j = .ok ((parameters.get i).similarity (arguments.get j)) := by
  have hsize := size_eq h
  refine ⟨hsize, cells_eq h, ?_, cellOf_bijective _, fun i j => ?_⟩
  · rw [size_cells, hsize]
  · have hi : i.val < (ofSets parameters arguments).size := i.isLt.trans_eq hsize.symm
    have hj : j.val < (ofSets parameters arguments).size := j.isLt.trans_eq (h.symm.trans hsize.symm)
    have hscore := score_eq ⟨i, hi⟩ ⟨j, hj⟩ i.isLt j.isLt
    exact ⟨hi, hj, hscore, (scoreAt_ok _ ⟨i, hi⟩ ⟨j, hj⟩).trans (congrArg _ hscore)⟩

/-- Two parameters and two arguments of which only the second parameter and the first argument have a name in common. -/
theorem cell_for_each_pair_height :
    let width := MorphemeSet.ofList ["width"]
    let height := MorphemeSet.ofList ["height"]
    let depth := MorphemeSet.ofList ["depth"]
    let m := ofSets [width, height] [height, depth]
    [width, height].length = [height, depth].length ∧ m.cells.size = 4 ∧
    m.scoreAt 1 0 = .ok (height.similarity height) ∧ m.scoreAt 0 1 = .ok (width.similarity depth) := by
  intro width height depth m
  have hlength : [width, height].length = [height, depth].length := rfl
  obtain ⟨-, -, hcells, -, hscores⟩ := cell_for_each_pair hlength
  obtain ⟨-, -, -, hbelow⟩ := hscores 1 0
  obtain ⟨-, -, -, habove⟩ := hscores 0 1
  exact ⟨hlength, hcells, hbelow, habove⟩

end Table

end CallOrder.ScoreMatrix
