import CallOrder.Proofs.Selection
import Mathlib.Data.List.ReduceOption

/-! The search with its tables read by index. Every access is checked: one beyond the end of a table ends the search
with an error. None ever is, and what comes out is the search. -/
namespace CallOrder

/-- An access beyond the end of a table. -/
inductive OutOfRange where
  | score (index : ℕ)
  | mark (position : ℕ)
  | argument (position : ℕ)
deriving DecidableEq, Repr

/-- A pair of positions, counted from 0, and what an exchange there gains. -/
structure RatedPair where
  first : ℕ
  second : ℕ
  margin : Float

/-- Whether another pair outranks this one. -/
def RatedPair.isOutranked (p q : RatedPair) : Bool :=
  p.margin < q.margin || p.margin == q.margin && (q.first < p.first || p.first == q.first && q.second < p.second)

/-- All pairs of indices, each first index with those behind it. -/
def indexPairs (n : ℕ) : List (ℕ × ℕ) :=
  (List.range n).flatMap fun i => (List.range' (i + 1) (n - (i + 1))).map fun j => (i, j)

namespace ScoreMatrix

def scoreAt (m : ScoreMatrix) (parameter argument : ℕ) : Except OutOfRange Float :=
  let index := parameter * m.size + argument
  (m.cells[index]?).elim (.error (.score index)) .ok

/-- Rates a pair of indices; nothing if it may not be reported. -/
def rate (m : ScoreMatrix) (t : Float) (pair : ℕ × ℕ) : Except OutOfRange (Option RatedPair) := do
  let first ← m.scoreAt pair.1 pair.2
  let second ← m.scoreAt pair.2 pair.1
  if first == 0 && second == 0 then return none
  let baseline := (← m.scoreAt pair.1 pair.1) + (← m.scoreAt pair.2 pair.2)
  let margin := first + second - baseline
  return if t ≤ margin then some ⟨pair.1, pair.2, margin⟩ else none

/-- The pairs that may be reported, the best first. -/
def ratedPairs (m : ScoreMatrix) (t : Float) : Except OutOfRange (List RatedPair) := do
  let rated ← (indexPairs m.size).mapM (m.rate t)
  return ranked RatedPair.isOutranked rated.reduceOption

end ScoreMatrix

def isMarked (marks : Array Bool) (position : ℕ) : Except OutOfRange Bool :=
  (marks[position]?).elim (.error (.mark position)) .ok

def setMark (marks : Array Bool) (position : ℕ) : Except OutOfRange (Array Bool) :=
  if h : position < marks.size then .ok (marks.set position true) else .error (.mark position)

/-- Goes through the pairs in order, takes each one whose positions are not marked yet, and marks them. -/
def takeUnmarked (marks : Array Bool) : List RatedPair → Except OutOfRange (List RatedPair)
  | [] => return []
  | p :: rest => do
    if ← isMarked marks p.first then takeUnmarked marks rest
    else if ← isMarked marks p.second then takeUnmarked marks rest
    else
      let marks ← setMark marks p.first
      let marks ← setMark marks p.second
      return p :: (← takeUnmarked marks rest)

def argumentAt (arguments : List MorphemeSet) (position : ℕ) : Except OutOfRange MorphemeSet :=
  (arguments[position]?).elim (.error (.argument position)) .ok

def RatedPair.swap (arguments : List MorphemeSet) (p : RatedPair) : Except OutOfRange Swap := do
  let firstMorphemes ← argumentAt arguments p.first
  let secondMorphemes ← argumentAt arguments p.second
  return ⟨p.first + 1, p.second + 1, firstMorphemes, secondMorphemes, p.margin⟩

/-- Whether a swap comes after another by its positions. -/
def Swap.isAfter (s s' : Swap) : Bool := s'.first < s.first || s.first == s'.first && s'.second < s.second

/-- The findings that a table of scores leads to, ascending. -/
def ScoreMatrix.indexedFindings (m : ScoreMatrix) (arguments : List MorphemeSet) (range : ℕ) (t : Float) :
    Except OutOfRange Findings := do
  let selected ← takeUnmarked (Array.replicate range false) (← m.ratedPairs t)
  let swaps ← selected.mapM (RatedPair.swap arguments)
  return ⟨ranked Swap.isAfter swaps⟩

/-- The search by index. -/
def indexedSearch (signature : Signature) (site : CallSite) (t : Float) (policy : MorphemePolicy) :
    Except OutOfRange Findings :=
  let range := signature.scoredRange site
  let arguments := site.morphemes range policy
  let m := ScoreMatrix.ofSets (signature.morphemes range policy) arguments
  m.indexedFindings arguments range t

section Ranked
variable {α β : Type} (comesAfter : β → β → Bool) (f : α → β)

private theorem insertRanked_map (x : α) (xs : List α) :
    insertRanked comesAfter (f x) (xs.map f) = (insertRanked (fun x y => comesAfter (f x) (f y)) x xs).map f := by
  induction xs with
  | nil => rfl
  | cons y rest ih =>
    rw [List.map_cons]
    unfold insertRanked
    split
    · rw [ih, List.map_cons]
    · rfl

theorem ranked_map (xs : List α) :
    ranked comesAfter (xs.map f) = (ranked (fun x y => comesAfter (f x) (f y)) xs).map f := by
  induction xs with
  | nil => rfl
  | cons x rest ih =>
    rw [List.map_cons, ranked, ih, insertRanked_map]
    rfl

end Ranked

namespace Pair
variable {n : ℕ} {p q : Pair n}

/-- The positions of a pair, from 0. -/
def indices (p : Pair n) : ℕ × ℕ := (p.first, p.second)

/-- Whether a pair has this position. -/
def touches (p : Pair n) (i : Fin n) : Bool := p.first == i || p.second == i

private theorem overlaps_eq : p.overlaps q = (q.touches p.first || q.touches p.second) := by
  rw [Bool.eq_iff_iff]
  simp only [overlaps, touches, Bool.or_eq_true, beq_iff_eq]
  tauto

private theorem any_overlaps (taken : List (Pair n)) :
    taken.any p.overlaps = (taken.any (·.touches p.first) || taken.any (·.touches p.second)) := by
  induction taken with
  | nil => rfl
  | cons q rest ih =>
    rw [List.any_cons, List.any_cons, List.any_cons, ih, overlaps_eq]
    ac_rfl

private theorem indices_ascending (n : ℕ) : ((all n).map indices).Pairwise Precedes := by
  refine List.pairwise_map.2 ((List.pairwise_map.1 (all_ascending n)).imp fun {p q} h => ?_)
  simp only [Precedes, positions, Nat.add_lt_add_iff_right, Nat.add_right_cancel_iff] at h
  exact h

private theorem indexPairs_ascending (n : ℕ) : (indexPairs n).Pairwise Precedes := by
  refine List.pairwise_flatMap.2 ⟨fun i _ => ?_, ?_⟩
  · exact List.pairwise_map.2 (List.Pairwise.imp (fun h => .inr ⟨rfl, h⟩) List.pairwise_lt_range')
  · refine List.pairwise_lt_range.imp fun {i j} h p hp q hq => ?_
    obtain ⟨_, _, rfl⟩ := List.mem_map.1 hp
    obtain ⟨_, _, rfl⟩ := List.mem_map.1 hq
    exact .inl h

private theorem mem_indexPairs {b : ℕ × ℕ} : b ∈ indexPairs n ↔ b.1 < b.2 ∧ b.2 < n := by
  simp only [indexPairs, List.mem_flatMap, List.mem_range, List.mem_map, List.mem_range'_1]
  constructor
  · rintro ⟨i, hi, j, hj, rfl⟩
    dsimp only
    omega
  · rintro ⟨hlt, hn⟩
    exact ⟨b.1, by omega, b.2, by omega, rfl⟩

/-- The pairs of indices are the pairs of positions. -/
theorem indexPairs_eq (n : ℕ) : indexPairs n = (all n).map indices := by
  refine (indexPairs_ascending n).eq_of_mem_iff (indices_ascending n) fun b => ?_
  rw [mem_indexPairs, List.mem_map]
  constructor
  · rintro ⟨hlt, hn⟩
    exact ⟨⟨⟨b.1, by omega⟩, ⟨b.2, hn⟩, hlt⟩, mem_all _, rfl⟩
  · rintro ⟨p, -, rfl⟩
    exact ⟨p.first_lt_second, p.second.isLt⟩

end Pair

namespace ScoreMatrix
variable (m : ScoreMatrix) (t : Float)

def rated (p : Pair m.size) : RatedPair := ⟨p.first, p.second, m.margin p⟩

theorem scoreAt_ok (i j : Fin m.size) : m.scoreAt i j = .ok (m.score i j) := by
  have hlt : i.val * m.size + j.val < m.cells.size := m.size_cells ▸ cell_lt i.isLt j.isLt
  simp only [scoreAt, Array.getElem?_eq_getElem hlt]
  rfl

private theorem rate_ok (p : Pair m.size) :
    m.rate t p.indices = .ok (if m.isEligible t p then some (m.rated p) else none) := by
  simp only [rate, Pair.indices, scoreAt_ok, bind, Except.bind, pure, Except.pure]
  unfold isEligible isRelated
  cases hzero : m.score p.first p.second == 0 && m.score p.second p.first == 0 with
  | true => rfl
  | false =>
    rw [if_neg Bool.false_ne_true, Bool.not_false, Bool.true_and]
    simp only [decide_eq_true_eq]
    rfl

private theorem rated_isOutranked (p q : Pair m.size) : (m.rated p).isOutranked (m.rated q) = m.isOutranked p q := by
  rw [Bool.eq_iff_iff]
  simp only [RatedPair.isOutranked, isOutranked, Pair.isAfter, Bool.or_eq_true, Bool.and_eq_true, beq_iff_eq,
    decide_eq_true_eq, Fin.lt_def, Fin.ext_iff]
  rfl

private theorem reduceOption_ite {α β : Type} (c : α → Bool) (f : α → β) (xs : List α) :
    (xs.map fun x => if c x then some (f x) else none).reduceOption = (xs.filter c).map f := by
  induction xs with
  | nil => rfl
  | cons x rest ih =>
    rw [List.map_cons, List.filter_cons]
    split
    · rw [List.reduceOption_cons_of_some, ih, List.map_cons]
    · rw [List.reduceOption_cons_of_none, ih]

private theorem ratedPairs_ok : m.ratedPairs t = .ok ((m.rankedPairs t).map m.rated) := by
  have hrate : (indexPairs m.size).mapM (m.rate t) =
      .ok ((Pair.all m.size).map fun p => if m.isEligible t p then some (m.rated p) else none) := by
    have hall : m.rate t ∘ Pair.indices = fun p => pure (if m.isEligible t p then some (m.rated p) else none) :=
      funext (m.rate_ok t)
    rw [Pair.indexPairs_eq, List.mapM_map, hall, List.mapM_pure]
    rfl
  rw [ratedPairs, hrate]
  change Except.ok (ranked RatedPair.isOutranked (List.reduceOption _)) = _
  rw [reduceOption_ite, ranked_map]
  simp only [rated_isOutranked]
  rfl

end ScoreMatrix

/-- The marks say which positions a predicate holds of. -/
def MarksHold {n : ℕ} (marks : Array Bool) (f : Fin n → Bool) : Prop := ∀ i : Fin n, marks[i.val]? = some (f i)

section Marks
variable {n : ℕ} {marks : Array Bool} {f : Fin n → Bool}

private theorem isMarked_ok (h : MarksHold marks f) (i : Fin n) : isMarked marks i = .ok (f i) := by
  rw [isMarked, h i]
  rfl

private theorem setMark_ok (h : MarksHold marks f) (i : Fin n) :
    ∃ marks', setMark marks i = .ok marks' ∧ MarksHold marks' fun j => i == j || f j := by
  obtain ⟨hlt, -⟩ := Array.getElem?_eq_some_iff.1 (h i)
  refine ⟨marks.set i true, dif_pos hlt, fun j => ?_⟩
  rw [Array.getElem?_set]
  dsimp only
  split
  · rename_i heq
    rw [Fin.ext heq, beq_self_eq_true, Bool.true_or]
  · rename_i hne
    rw [h j, beq_false_of_ne fun he => hne (congrArg Fin.val he), Bool.false_or]

private theorem marks_replicate {range : ℕ} (h : n ≤ range) :
    MarksHold (Array.replicate range false) fun _ : Fin n => false := by
  intro i
  rw [Array.getElem?_replicate, if_pos (i.isLt.trans_le h)]

/-- The pass over marks takes what the selection takes. -/
theorem takeUnmarked_ok (rated : Pair n → RatedPair) (hfirst : ∀ p, (rated p).first = p.first)
    (hsecond : ∀ p, (rated p).second = p.second) (taken xs : List (Pair n))
    (h : MarksHold marks fun i => taken.any (·.touches i)) :
    takeUnmarked marks (xs.map rated) = .ok ((selectDisjoint taken xs).map rated) := by
  -- What is marked are the positions of the pairs taken so far, and a pair overlaps one of them when it has a marked one.
  induction xs generalizing marks taken with
  | nil => rfl
  | cons p rest ih =>
    rw [List.map_cons, takeUnmarked, selectDisjoint, hfirst, hsecond, isMarked_ok h, isMarked_ok h, Pair.any_overlaps]
    cases hp : taken.any (·.touches p.first) with
    | true => exact ih taken h
    | false =>
      cases hq : taken.any (·.touches p.second) with
      | true => exact ih taken h
      | false =>
        obtain ⟨marks₁, hset₁, h₁⟩ := setMark_ok h p.first
        obtain ⟨marks₂, hset₂, h₂⟩ := setMark_ok h₁ p.second
        have htaken : MarksHold marks₂ fun i => (p :: taken).any (·.touches i) := by
          intro i
          rw [h₂ i]
          dsimp only
          rw [List.any_cons, Pair.touches]
          congr 1
          ac_rfl
        simp only [hset₁, hset₂, bind, Except.bind, ih (p :: taken) htaken]
        rfl

end Marks

private theorem argumentAt_ok {arguments : List MorphemeSet} {i : ℕ} (h : i < arguments.length) :
    argumentAt arguments i = .ok (arguments[i]?.getD ∅) := by
  rw [argumentAt, List.getElem?_eq_getElem h]
  rfl

private theorem swap_ok (m : ScoreMatrix) {arguments : List MorphemeSet} (h : m.size ≤ arguments.length)
    (p : Pair m.size) : (m.rated p).swap arguments = .ok (m.swapAt arguments p) := by
  have hfirst := argumentAt_ok (p.first.isLt.trans_le h)
  have hsecond := argumentAt_ok (p.second.isLt.trans_le h)
  simp only [RatedPair.swap, ScoreMatrix.rated, hfirst, hsecond, bind, Except.bind]
  rfl

private theorem swapAt_isAfter (m : ScoreMatrix) (arguments : List MorphemeSet) (p q : Pair m.size) :
    (m.swapAt arguments p).isAfter (m.swapAt arguments q) = p.isAfter q := by
  rw [Bool.eq_iff_iff]
  simp only [Swap.isAfter, ScoreMatrix.swapAt, Pair.isAfter, Bool.or_eq_true, Bool.and_eq_true, beq_iff_eq,
    decide_eq_true_eq, Fin.lt_def, Fin.ext_iff, Nat.add_lt_add_iff_right, Nat.add_right_cancel_iff]

private theorem indexedFindings_ok (m : ScoreMatrix) (t : Float) {arguments : List MorphemeSet} {range : ℕ}
    (harguments : m.size ≤ arguments.length) (hrange : m.size ≤ range) :
    m.indexedFindings arguments range t = .ok ⟨(m.selectedPairs t).map (m.swapAt arguments)⟩ := by
  have hpass := takeUnmarked_ok m.rated (fun _ => rfl) (fun _ => rfl) [] (m.rankedPairs t) (marks_replicate hrange)
  have hswaps : ((selectDisjoint [] (m.rankedPairs t)).map m.rated).mapM (RatedPair.swap arguments) =
      .ok ((selectDisjoint [] (m.rankedPairs t)).map (m.swapAt arguments)) := by
    have hall : RatedPair.swap arguments ∘ m.rated = fun p => pure (m.swapAt arguments p) :=
      funext (swap_ok m harguments)
    rw [List.mapM_map, hall, List.mapM_pure]
    rfl
  have hranked : ranked Swap.isAfter ((selectDisjoint [] (m.rankedPairs t)).map (m.swapAt arguments)) =
      (m.selectedPairs t).map (m.swapAt arguments) := by
    rw [ranked_map]
    simp only [swapAt_isAfter]
    rfl
  simp only [ScoreMatrix.indexedFindings, m.ratedPairs_ok t, bind, Except.bind, hpass, hswaps, hranked]
  rfl

/-- No access is out of range, and what is found is what the search finds. -/
theorem indexedSearch_ok (signature : Signature) (site : CallSite) (t : Float) (policy : MorphemePolicy) :
    indexedSearch signature site t policy = .ok (search signature site t policy) := by
  obtain ⟨range, hrange⟩ : ∃ range, range = signature.scoredRange site := ⟨_, rfl⟩
  have harguments : (ScoreMatrix.ofSets (signature.morphemes range policy) (site.morphemes range policy)).size ≤
      (site.morphemes range policy).length := min_le_right _ _
  have hlength : (site.morphemes range policy).length ≤ range := by
    rw [CallSite.morphemes, List.length_map, List.length_take]
    exact min_le_left _ _
  rw [indexedSearch, search, ← hrange]
  exact indexedFindings_ok _ t harguments (harguments.trans hlength)

end CallOrder
