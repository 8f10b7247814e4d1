import CallOrder.Proofs.Binary64.Value
import CallOrder.Proofs.Selection

/-! A call as two lists of morpheme sets. Positions count from 1; the scores, margins and ranks here are
read off the sets directly, and the table of the search holds the same numbers. -/
namespace CallOrder
open Binary64

/-- What the parameters of a function and the arguments of a call say, in order. -/
structure Alignment where
  parameters : List MorphemeSet
  arguments : List MorphemeSet

/-- An unknown function has no parameters. -/
def Signature.align (signature : Signature) (site : CallSite) (policy : MorphemePolicy) : Alignment where
  parameters := (signature.parameters.getD []).map policy.morphemes
  arguments := site.arguments.map fun argument => argument.morphemes policy

namespace Alignment
variable (a : Alignment)

def range : ℕ := min a.parameters.length a.arguments.length

def parameter (i : ℕ) : MorphemeSet := a.parameters.getD (i - 1) ∅

def argument (i : ℕ) : MorphemeSet := a.arguments.getD (i - 1) ∅

def score (i j : ℕ) : Float := (a.parameter i).similarity (a.argument j)

def margin (p : ℕ × ℕ) : Float :=
  (a.score p.1 p.2 + a.score p.2 p.1) - (a.score p.1 p.1 + a.score p.2 p.2)

/-- Two positions within the scored range, in order. -/
structure IsPair (p : ℕ × ℕ) : Prop where
  pos : 1 ≤ p.1
  lt : p.1 < p.2
  le : p.2 ≤ a.range

structure IsEligible (threshold : Float) (p : ℕ × ℕ) : Prop extends IsPair a p where
  related : ¬ ((a.score p.1 p.2 == 0) = true ∧ (a.score p.2 p.1 == 0) = true)
  gains : threshold ≤ a.margin p

/-- A pair outranks another by a larger margin, or by its place when the margins are equal. -/
def Outranks (p q : ℕ × ℕ) : Prop :=
  a.margin q < a.margin p ∨ (a.margin q == a.margin p) = true ∧ Precedes p q

def swapAt (p : ℕ × ℕ) : Swap := ⟨p.1, p.2, a.argument p.1, a.argument p.2, a.margin p⟩

/-- The table of the similarities that the search builds for the call. -/
def matrix : ScoreMatrix := .ofSets (a.parameters.take a.range) (a.arguments.take a.range)

end Alignment

section Table
variable {α β γ : Type}

private theorem getElem?_rows (f : α → β → γ) (xs : List α) {ys : List β} {n : ℕ} (hn : ys.length = n)
    (i : ℕ) {j : ℕ} (hj : j < ys.length) :
    (xs.flatMap fun x => ys.map (f x))[i * n + j]? = xs[i]?.map fun x => f x ys[j] := by
  induction xs generalizing i with
  | nil => rfl
  | cons x rest ih =>
    have hlen : (ys.map (f x)).length = n := by rw [List.length_map, hn]
    rw [List.flatMap_cons]
    cases i with
    | zero =>
      rw [Nat.zero_mul, Nat.zero_add, List.getElem?_append_left (by omega)]
      simp [hj]
    | succ i =>
      rw [List.getElem?_append_right (by rw [hlen, Nat.succ_mul]; omega), hlen,
        show (i + 1) * n + j - n = i * n + j by rw [Nat.succ_mul]; omega, ih i]
      rfl

end Table

theorem ScoreMatrix.score_ofSets (ps as : List MorphemeSet) (i j : Fin (ofSets ps as).size) :
    (ofSets ps as).score i j = (ps.getD i ∅).similarity (as.getD j ∅) := by
  obtain ⟨n, hn⟩ : ∃ n, n = min ps.length as.length := ⟨_, rfl⟩
  have hi : i.val < n := hn ▸ i.isLt
  have hj : j.val < n := hn ▸ j.isLt
  have hlen : (as.take n).length = n := by rw [List.length_take]; omega
  -- The table is kept row after row, so the cell of row i and column j is at i * n + j.
  have hcell : some ((ofSets ps as).score i j) =
      ((ps.take n).flatMap fun p => (as.take n).map p.similarity)[i.val * n + j.val]? := by
    subst hn
    exact (List.getElem?_eq_getElem _).symm
  have h := getElem?_rows MorphemeSet.similarity (ps.take n) hlen i (hlen ▸ hj)
  rw [← hcell, List.getElem?_take_of_lt hi, List.getElem_take,
    List.getElem?_eq_getElem (show i.val < ps.length by omega)] at h
  rw [Option.some.inj h, List.getD_eq_getElem?_getD, List.getD_eq_getElem?_getD,
    List.getElem?_eq_getElem (show i.val < ps.length by omega),
    List.getElem?_eq_getElem (show j.val < as.length by omega)]
  rfl

namespace Alignment
variable {a : Alignment}

theorem getElem?_arguments {i : ℕ} (hi : 1 ≤ i) (hle : i ≤ a.range) : a.arguments[i - 1]? = some (a.argument i) := by
  rw [range] at hle
  have hlt : i - 1 < a.arguments.length := by omega
  rw [List.getElem?_eq_getElem hlt, argument, List.getD_eq_getElem _ _ hlt]

theorem matrix_size : a.matrix.size = a.range := by
  simp only [matrix, ScoreMatrix.ofSets, List.length_take, range]
  omega

theorem matrix_score (i j : Fin a.matrix.size) : a.matrix.score i j = a.score (i + 1) (j + 1) := by
  have hi : i.val < a.range := matrix_size ▸ i.isLt
  have hj : j.val < a.range := matrix_size ▸ j.isLt
  refine (ScoreMatrix.score_ofSets _ _ i j).trans ?_
  simp only [score, parameter, argument, Nat.add_sub_cancel, List.getD_eq_getElem?_getD,
    List.getElem?_take_of_lt hi, List.getElem?_take_of_lt hj]

theorem matrix_margin (p : Pair a.matrix.size) : a.matrix.margin p = a.margin p.positions := by
  simp only [ScoreMatrix.margin, ScoreMatrix.crossed, ScoreMatrix.baseline, matrix_score, margin, Pair.positions]

theorem isPair_iff {n : ℕ} (hn : n = a.range) {b : ℕ × ℕ} : a.IsPair b ↔ ∃ p : Pair n, p.positions = b := by
  subst hn
  constructor
  · rintro ⟨hpos, hlt, hle⟩
    refine ⟨⟨⟨b.1 - 1, by omega⟩, ⟨b.2 - 1, by omega⟩, by simp only [Fin.mk_lt_mk]; omega⟩, ?_⟩
    exact Prod.ext (by simp only [Pair.positions]; omega) (by simp only [Pair.positions]; omega)
  · rintro ⟨p, rfl⟩
    have hlt : p.first.val < p.second.val := p.first_lt_second
    have hle := p.second.isLt
    exact ⟨by simp [Pair.positions], by simp only [Pair.positions]; omega, by simp only [Pair.positions]; omega⟩

/-- The greedy pass over the pairs of a call, when eligibility and rank are those of the positions. -/
theorem choosePairs_positions {n : ℕ} {K : Type} [LinearOrder K] {eligible : ℕ × ℕ → Prop}
    {outranks : ℕ × ℕ → ℕ × ℕ → Prop} {rank : ℕ × ℕ → K} {isEligible : Pair n → Bool}
    {isOutranked : Pair n → Pair n → Bool} (hn : n = a.range) (hp : ∀ p, eligible p → a.IsPair p)
    (hi : Function.Injective rank) (hr : ∀ p q, eligible p → eligible q → (outranks q p ↔ rank q < rank p))
    (he : ∀ p, isEligible p = true ↔ eligible p.positions)
    (ho : ∀ p q, isOutranked p q = true ↔ outranks q.positions p.positions) :
    IsStable eligible outranks Meets (· ∈ (choosePairs isEligible isOutranked).map Pair.positions) := by
  have hk : ∀ p q, isEligible p = true → isEligible q = true →
      (isOutranked p q = true ↔ rank q.positions < rank p.positions) := fun p q hp hq =>
    (ho p q).trans (hr _ _ ((he p).1 hp) ((he q).1 hq))
  have hchoice := choosePairs_stable (hi.comp Pair.positions_injective) hk
  have hpairs : IsStable (fun p : Pair n => eligible p.positions) (fun q p => outranks q.positions p.positions)
      (fun q p => Meets q.positions p.positions) (· ∈ choosePairs isEligible isOutranked) :=
    hchoice.congr he fun p q hp hq _ => (hr _ _ ((he p).1 hp) ((he q).1 hq)).symm
  have himage : ∀ b, eligible b ↔ ∃ p : Pair n, eligible p.positions ∧ p.positions = b := by
    intro b
    constructor
    · intro hb
      obtain ⟨p, rfl⟩ := (isPair_iff hn).1 (hp b hb)
      exact ⟨p, hb, rfl⟩
    · rintro ⟨p, hp, rfl⟩
      exact hp
  have h := hpairs.map himage (fun _ _ _ _ => Iff.rfl) fun _ _ => Iff.rfl
  simpa only [List.mem_map] using h

theorem matrix_isEligible {t : Float} (p : Pair a.matrix.size) :
    a.matrix.isEligible t p = true ↔ a.IsEligible t p.positions := by
  simp only [ScoreMatrix.isEligible, ScoreMatrix.isRelated, Bool.and_eq_true, Bool.not_eq_true',
    Bool.and_eq_false_iff, decide_eq_true_eq, matrix_margin, matrix_score]
  constructor
  · rintro ⟨hr, hg⟩
    exact ⟨(isPair_iff matrix_size).2 ⟨p, rfl⟩, fun h => by
      rcases hr with hr | hr
      · exact absurd (hr.symm.trans h.1) Bool.false_ne_true
      · exact absurd (hr.symm.trans h.2) Bool.false_ne_true, hg⟩
  · intro h
    have hr := h.related
    rw [not_and_or, Bool.not_eq_true, Bool.not_eq_true] at hr
    exact ⟨hr, h.gains⟩

theorem matrix_swapAt (p : Pair a.matrix.size) :
    a.matrix.swapAt (a.arguments.take a.range) p = a.swapAt p.positions := by
  have hi : p.first.val < a.range := matrix_size ▸ p.first.isLt
  have hj : p.second.val < a.range := matrix_size ▸ p.second.isLt
  simp only [ScoreMatrix.swapAt, swapAt, argument, matrix_margin, Pair.positions, Nat.add_sub_cancel,
    List.getD_eq_getElem?_getD, List.getElem?_take_of_lt hi, List.getElem?_take_of_lt hj]

/-- The rank of a pair: the less, the better. -/
def rank (a : Alignment) (p : ℕ × ℕ) : ℚ ×ₗ ℕ ×ₗ ℕ := toLex (-toRational (a.margin p), toLex p)

theorem rank_injective : Function.Injective a.rank := fun _ _ h =>
  toLex.injective (congrArg Prod.snd (toLex.injective h))

theorem Outranks.isNaN {p q : ℕ × ℕ} (h : a.Outranks q p) :
    (a.margin p).isNaN = false ∧ (a.margin q).isNaN = false := by
  rcases h with h | ⟨h, _⟩
  · exact ⟨(lt_iff.1 h).1, (lt_iff.1 h).2.1⟩
  · exact ⟨(beq_iff.1 h).1, (beq_iff.1 h).2.1⟩

theorem outranks_iff {p q : ℕ × ℕ} :
    a.Outranks q p ↔ (a.margin p).isNaN = false ∧ (a.margin q).isNaN = false ∧ a.rank q < a.rank p := by
  simp only [Outranks, lt_iff, beq_iff, rank, precedes_iff, Prod.Lex.toLex_lt_toLex, neg_lt_neg_iff, neg_inj,
    eq_comm (a := toRational (a.margin q))]
  tauto

instance : IsStrictOrder (ℕ × ℕ) a.Outranks where
  irrefl _ h := lt_irrefl _ (outranks_iff.1 h).2.2
  trans _ _ _ h h' :=
    outranks_iff.2 ⟨h'.isNaN.1, h.isNaN.2, (outranks_iff.1 h).2.2.trans (outranks_iff.1 h').2.2⟩

theorem matrix_isOutranked (p q : Pair a.matrix.size) :
    a.matrix.isOutranked p q = true ↔ a.Outranks q.positions p.positions := by
  simp only [ScoreMatrix.isOutranked, Bool.or_eq_true, Bool.and_eq_true, decide_eq_true_eq, matrix_margin,
    Pair.isAfter_iff, Outranks]

theorem IsEligible.isNaN {t : Float} {p : ℕ × ℕ} (h : a.IsEligible t p) : (a.margin p).isNaN = false :=
  (le_iff.1 h.gains).2.1

theorem finite_pairs (a : Alignment) : {p | a.IsPair p}.Finite := by
  refine (Set.finite_Iic (a.range, a.range)).subset fun p hp => ?_
  exact ⟨(hp.lt.trans_le hp.le).le, hp.le⟩

theorem finite_eligible (t : Float) : {p | a.IsEligible t p}.Finite :=
  a.finite_pairs.subset fun _ hp => hp.toIsPair

/-- The pairs of positions that the search settles on. -/
def selected (a : Alignment) (t : Float) : List (ℕ × ℕ) :=
  (choosePairs (a.matrix.isEligible t) a.matrix.isOutranked).map Pair.positions

theorem selected_ascending (t : Float) : (a.selected t).Pairwise Precedes := choosePairs_ascending _ _

theorem outranks_iff_rank {t : Float} {p q : ℕ × ℕ} (hp : a.IsEligible t p) (hq : a.IsEligible t q) :
    a.Outranks q p ↔ a.rank q < a.rank p := by
  rw [outranks_iff]
  exact ⟨fun h => h.2.2, fun h => ⟨hp.isNaN, hq.isNaN, h⟩⟩

theorem selected_stable (t : Float) : IsStable (a.IsEligible t) a.Outranks Meets (· ∈ a.selected t) :=
  choosePairs_positions matrix_size (fun _ hp => hp.toIsPair) rank_injective
    (fun _ _ hp hq => outranks_iff_rank hp hq) matrix_isEligible matrix_isOutranked

/-- What is selected depends on which pairs are eligible, and on the margins of these. -/
theorem selected_congr {b : Alignment} {t : Float} (he : ∀ p, a.IsEligible t p ↔ b.IsEligible t p)
    (hm : ∀ p, a.IsEligible t p → a.margin p = b.margin p) : a.selected t = b.selected t := by
  have hother : IsStable (a.IsEligible t) a.Outranks Meets (· ∈ b.selected t) := by
    refine (selected_stable t).congr (fun p => (he p).symm) ?_
    intro p q hp hq _
    rw [Outranks, Outranks, hm p ((he p).2 hp), hm q ((he q).2 hq)]
  refine (selected_ascending t).eq_of_mem_iff (selected_ascending t) ?_
  exact (selected_stable t).unique (finite_eligible t) hother

end Alignment

/-- The search in terms of the call alone. -/
theorem search_swaps (signature : Signature) (site : CallSite) (t : Float) (policy : MorphemePolicy) :
    (search signature site t policy).swaps =
      ((signature.align site policy).selected t).map (signature.align site policy).swapAt := by
  have hrange : signature.scoredRange site = (signature.align site policy).range := by
    unfold Signature.scoredRange
    cases h : signature.parameters <;> simp [Signature.align, Alignment.range, h]
  have hparameters : signature.morphemes (signature.scoredRange site) policy =
      (signature.align site policy).parameters.take (signature.align site policy).range := by
    rw [Signature.morphemes, hrange, List.map_take]
    rfl
  have harguments : site.morphemes (signature.scoredRange site) policy =
      (signature.align site policy).arguments.take (signature.align site policy).range := by
    rw [CallSite.morphemes, hrange, List.map_take]
    rfl
  unfold search
  simp only
  rw [hparameters, harguments, Alignment.selected, List.map_map]
  exact List.map_congr_left fun p _ => Alignment.matrix_swapAt p

theorem search_positions (signature : Signature) (site : CallSite) (t : Float) (policy : MorphemePolicy) :
    (search signature site t policy).positions = (signature.align site policy).selected t := by
  rw [Findings.positions, search_swaps, List.map_map]
  exact List.map_id _

theorem mem_search_swaps {signature : Signature} {site : CallSite} {t : Float} {policy : MorphemePolicy} {swap : Swap} :
    swap ∈ (search signature site t policy).swaps ↔
      ∃ p ∈ (signature.align site policy).selected t, (signature.align site policy).swapAt p = swap := by
  rw [search_swaps, List.mem_map]

theorem Findings.eq_of_swaps {found other : Findings} (h : found.swaps = other.swaps) : found = other := by
  cases found
  exact congrArg Findings.mk h

/-- The search depends on what the parameters and the arguments say only. -/
theorem search_congr {signature other : Signature} {site otherSite : CallSite} {policy otherPolicy : MorphemePolicy}
    (h : signature.align site policy = other.align otherSite otherPolicy) (t : Float) :
    search signature site t policy = search other otherSite t otherPolicy :=
  Findings.eq_of_swaps (by rw [search_swaps, search_swaps, h])

/-- The search makes the one stable choice among the eligible pairs, and reports it ascending. -/
theorem search_makes_stable_choice (signature : Signature) (site : CallSite) (t : Float)
    (policy : MorphemePolicy) :
    let call := signature.align site policy
    ∃ pairs : List (ℕ × ℕ),
      (search signature site t policy).swaps = pairs.map call.swapAt ∧
      pairs.Pairwise Precedes ∧
      IsStable (call.IsEligible t) call.Outranks Meets (· ∈ pairs) ∧
      ∀ chosen : ℕ × ℕ → Prop, IsStable (call.IsEligible t) call.Outranks Meets chosen →
        ∀ p, chosen p ↔ p ∈ pairs := by
  intro call
  refine ⟨call.selected t, search_swaps signature site t policy, Alignment.selected_ascending t,
    Alignment.selected_stable t, fun chosen hc p => ?_⟩
  exact hc.unique (Alignment.finite_eligible t) (Alignment.selected_stable t) p

end CallOrder
