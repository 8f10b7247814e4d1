import CallOrder.Proofs.Margin
import CallOrder.Proofs.Threshold

/-! The search with margins as fractions, and where the search with rounded margins agrees with it. -/
namespace CallOrder
open Binary64

instance : DecidableRel Precedes := fun p q => inferInstanceAs (Decidable (p.1 < q.1 ∨ p.1 = q.1 ∧ p.2 < q.2))

namespace Alignment
variable {a : Alignment}

/-- The scores with the arguments exchanged are not both zero, and the exchange gains enough. -/
def IsExactCandidate (a : Alignment) (t : ℚ) (p : ℕ × ℕ) : Prop :=
  ¬ (a.exactScore p.1 p.2 = 0 ∧ a.exactScore p.2 p.1 = 0) ∧ t ≤ a.exactMargin p

instance (t : ℚ) : DecidablePred (a.IsExactCandidate t) := fun _ => inferInstanceAs (Decidable (_ ∧ _))

def ExactlyOutranks (a : Alignment) (p q : ℕ × ℕ) : Prop :=
  a.exactMargin q < a.exactMargin p ∨ a.exactMargin q = a.exactMargin p ∧ Precedes p q

instance : DecidableRel a.ExactlyOutranks := fun _ _ => inferInstanceAs (Decidable (_ ∨ _))

/-- The positions that the greedy pass over the candidates takes when nothing is rounded. -/
def exactPositions (a : Alignment) (t : ℚ) : List (ℕ × ℕ) :=
  (choosePairs (fun p : Pair a.range => decide (a.IsExactCandidate t p.positions))
    fun p q => decide (a.ExactlyOutranks q.positions p.positions)).map Pair.positions

/-- What rounding adds to a margin. -/
def rounding (a : Alignment) (p : ℕ × ℕ) : ℚ := toRational (a.margin p) - a.exactMargin p

/-- Rounding decides nothing: each margin is away from the threshold or computed exactly, and of two candidates
that collide the margins are apart or rounded alike. -/
structure IsResolved (a : Alignment) (t : ℚ) : Prop where
  threshold : ∀ p, a.IsPair p → 2^(-48 : ℤ) < |a.exactMargin p - t| ∨ a.rounding p = 0
  rank : ∀ p q, a.IsPair p → a.IsPair q → Meets q p → t ≤ a.exactMargin p → t ≤ a.exactMargin q →
    2^(-47 : ℤ) < |a.exactMargin p - a.exactMargin q| ∨ a.rounding p = a.rounding q

theorem exactPositions_ascending (t : ℚ) : (a.exactPositions t).Pairwise Precedes := choosePairs_ascending _ _

theorem exactPositions_stable (t : ℚ) :
    IsStable (fun p => a.IsPair p ∧ a.IsExactCandidate t p) a.ExactlyOutranks Meets (· ∈ a.exactPositions t) := by
  have hi : Function.Injective fun p : ℕ × ℕ => toLex (-a.exactMargin p, toLex p) := fun _ _ h =>
    toLex.injective (congrArg Prod.snd (toLex.injective h))
  refine choosePairs_positions rfl (fun _ hp => hp.1) hi (fun p q _ _ => ?_) (fun p => ?_) fun p q => decide_eq_true_iff
  · simp only [ExactlyOutranks, precedes_iff, Prod.Lex.toLex_lt_toLex, neg_lt_neg_iff, neg_inj, eq_comm]
  · rw [decide_eq_true_iff]
    exact ⟨fun h => ⟨(isPair_iff rfl).2 ⟨p, rfl⟩, h⟩, fun h => h.2⟩

/-- Numbers that are apart, or shifted alike, compare as the numbers that they approximate. -/
private theorem lt_iff_of_near {x x' y y' e f : ℚ} (hx : |x - x'| ≤ e) (hy : |y - y'| ≤ f)
    (h : e + f < |x' - y'| ∨ x - x' = y - y') : x < y ↔ x' < y' := by
  have hx := abs_le.1 hx
  have hy := abs_le.1 hy
  rcases h with h | h
  · rcases lt_abs.1 h with h | h
    · exact ⟨fun hlt => by linarith, fun hlt => by linarith⟩
    · exact ⟨fun _ => by linarith, fun _ => by linarith⟩
  · exact ⟨fun hlt => by linarith, fun hlt => by linarith⟩

private theorem gains_iff (h : a.IsAddressable) {t : Float} (ht : t.isNaN = false) (hr : a.IsResolved (toRational t))
    {p : ℕ × ℕ} (hp : a.IsPair p) : t ≤ a.margin p ↔ toRational t ≤ a.exactMargin p := by
  obtain ⟨hfinite, hnear⟩ := a.margin_near h p
  have hself : |toRational t - toRational t| ≤ 0 := by rw [sub_self, abs_zero]
  have hlt := lt_iff_of_near hnear hself (by
    rw [add_zero, sub_self]
    exact hr.threshold p hp)
  rw [le_iff, ← not_lt, hlt, not_lt]
  exact ⟨fun h => h.2.2, fun h => ⟨ht, hfinite.isNaN, h⟩⟩

private theorem isEligible_iff (h : a.IsAddressable) {t : Float} (ht : 0 < t) (hr : a.IsResolved (toRational t))
    (p : ℕ × ℕ) : a.IsEligible t p ↔ a.IsPair p ∧ a.IsExactCandidate (toRational t) p := by
  obtain ⟨-, hnan, hpos⟩ := lt_iff.1 ht
  rw [toRational_zero] at hpos
  constructor
  · intro hp
    have hgains := (gains_iff h hnan hr hp.toIsPair).1 hp.gains
    refine ⟨hp.toIsPair, fun hzero => ?_, hgains⟩
    have hself := MorphemeSet.exactSimilarity_nonneg (a.parameter p.1) (a.argument p.1)
    have hother := MorphemeSet.exactSimilarity_nonneg (a.parameter p.2) (a.argument p.2)
    rw [exactMargin, hzero.1, hzero.2, exactScore, exactScore] at hgains
    linarith
  · rintro ⟨hp, -, hgains⟩
    have hle := (gains_iff h hnan hr hp).2 hgains
    exact ⟨hp, related_of_pos h (hpos.trans_le (le_iff.1 hle).2.2), hle⟩

private theorem outranks_iff_exact (h : a.IsAddressable) {t : ℚ} (hr : a.IsResolved t) {p q : ℕ × ℕ} (hp : a.IsPair p)
    (hq : a.IsPair q) (hm : Meets q p) (hpt : t ≤ a.exactMargin p) (hqt : t ≤ a.exactMargin q) :
    a.Outranks q p ↔ a.ExactlyOutranks q p := by
  obtain ⟨hpfinite, hpnear⟩ := a.margin_near h p
  obtain ⟨hqfinite, hqnear⟩ := a.margin_near h q
  have hbound : (2 : ℚ)^(-48 : ℤ) + 2^(-48 : ℤ) = 2^(-47 : ℤ) := by norm_num
  have hapart := hr.rank p q hp hq hm hpt hqt
  have hlt := lt_iff_of_near hpnear hqnear (by rwa [hbound])
  have hgt := lt_iff_of_near hqnear hpnear (by rwa [hbound, abs_sub_comm, eq_comm])
  have heq : toRational (a.margin p) = toRational (a.margin q) ↔ a.exactMargin p = a.exactMargin q := by
    rw [eq_iff_le_not_lt, eq_iff_le_not_lt, ← not_lt, ← not_lt, hgt, hlt]
  simp only [Outranks, ExactlyOutranks, lt_iff, beq_iff, hpfinite.isNaN, hqfinite.isNaN, true_and, hlt, heq]

theorem selected_eq_exactPositions (h : a.IsAddressable) {t : Float} (ht : 0 < t) (hr : a.IsResolved (toRational t)) :
    a.selected t = a.exactPositions (toRational t) := by
  have hexact : IsStable (a.IsEligible t) a.Outranks Meets (· ∈ a.exactPositions (toRational t)) := by
    refine (exactPositions_stable (toRational t)).congr (fun p => (isEligible_iff h ht hr p).symm) ?_
    intro p q hp hq hm
    exact (outranks_iff_exact h hr hp.1 hq.1 hm hp.2.2 hq.2.2).symm
  refine (selected_ascending t).eq_of_mem_iff (exactPositions_ascending _) fun p => ?_
  exact (selected_stable t).unique (finite_eligible t) hexact p

/-- A pair that clearly gains enough is taken, or gives way to one that gains about as much. -/
theorem selected_or_meets (h : a.IsAddressable) {t : Float} (ht : 0 < t) {p : ℕ × ℕ} (hp : a.IsPair p)
    (hgains : toRational t + 2^(-48 : ℤ) ≤ a.exactMargin p) :
    p ∈ a.selected t ∨ ∃ q ∈ a.selected t, Meets q p ∧ a.exactMargin p - 2^(-47 : ℤ) ≤ a.exactMargin q := by
  obtain ⟨-, hnan, hpos⟩ := lt_iff.1 ht
  rw [toRational_zero] at hpos
  have hnear : ∀ q, _ := fun q => abs_le.1 (a.margin_near h q).2
  have hle : toRational t ≤ toRational (a.margin p) := by linarith [(hnear p).1]
  have heligible : a.IsEligible t p :=
    ⟨hp, related_of_pos h (hpos.trans_le hle), le_iff.2 ⟨hnan, (a.margin_near h p).1.isNaN, hle⟩⟩
  by_cases hselected : p ∈ a.selected t
  · exact .inl hselected
  · obtain ⟨q, hq, hqp, hm⟩ := (selected_stable t).exists_outranks heligible hselected
    refine .inr ⟨q, hq, hm, ?_⟩
    have hmargin := (le_iff.1 hqp.margin_le).2.2
    have hsum : (2 : ℚ)^(-47 : ℤ) = 2^(-48 : ℤ) + 2^(-48 : ℤ) := by norm_num
    rw [hsum]
    linarith [(hnear p).1, (hnear q).2]

end Alignment

private theorem toRational_half : toRational 0.5 = 1/2 := by
  have hu : (0.5 : Float).toModel.unpack = .finite .positive (2^52) (-53) (by decide) := by rfl
  rw [toRational, hu]
  norm_num [unpackedRational, Float.Model.UnpackedFloat.Sign.apply]

/-- What is reported has the exact margin up to rounding, what clearly gains enough is reported or gives way to a
pair that gains about as much, and where rounding decides nothing the reported positions are the exact ones. -/
theorem search_follows_exact_margins (signature : Signature) (site : CallSite) (policy : MorphemePolicy) (t : Float) :
    let call := signature.align site policy
    let positions := (search signature site t policy).positions
    call.IsAddressable → 0 < t →
      (∀ p, call.IsPair p → |toRational (call.margin p) - call.exactMargin p| ≤ 2^(-48 : ℤ)) ∧
      (∀ p ∈ positions, toRational t - 2^(-48 : ℤ) ≤ call.exactMargin p) ∧
      (∀ p, call.IsPair p → toRational t + 2^(-48 : ℤ) ≤ call.exactMargin p →
        p ∈ positions ∨ ∃ q ∈ positions, Meets q p ∧ call.exactMargin p - 2^(-47 : ℤ) ≤ call.exactMargin q) ∧
      (call.IsResolved (toRational t) → positions = call.exactPositions (toRational t)) := by
  intro call positions h ht
  have hpositions : positions = call.selected t := search_positions signature site t policy
  rw [hpositions]
  refine ⟨fun p _ => ?_, fun p hp => ?_, fun p hp hgains => ?_, fun hr => ?_⟩
  · exact (Alignment.margin_near h p).2
  · exact ((Alignment.selected_stable t).eligible_of_chosen hp).le_margin h
  · exact Alignment.selected_or_meets h ht hp hgains
  · exact Alignment.selected_eq_exactPositions h ht hr

/-- A call whose first argument belongs at either of the places after it. -/
def collidingCall : Alignment :=
  Signature.align { parameters := some ["alpha", "beta", "beta"] } (.ofNames ["beta", "alpha", "alpha"]) {}

private theorem exactMargin_collidingCall : collidingCall.exactMargin (1, 2) = 2 ∧
    collidingCall.exactMargin (1, 3) = 2 ∧ collidingCall.exactMargin (2, 3) = 0 := by
  decide +kernel

private theorem pairs_collidingCall {p : ℕ × ℕ} (hp : collidingCall.IsPair p) :
    p = (1, 2) ∨ p = (1, 3) ∨ p = (2, 3) := by
  have hrange : collidingCall.range = 3 := rfl
  have hpos := hp.pos
  have hlt := hp.lt
  have hle := hp.le
  simp only [Prod.ext_iff]
  omega

private theorem collidingCall_isResolved : collidingCall.IsResolved (toRational 0.5) := by
  obtain ⟨hnearer, hfarther, hlast⟩ := exactMargin_collidingCall
  have halike : ∀ p, collidingCall.IsPair p → toRational 0.5 ≤ collidingCall.exactMargin p →
      collidingCall.rounding p = collidingCall.rounding (1, 2) := by
    intro p hp hgains
    rcases pairs_collidingCall hp with rfl | rfl | rfl
    · rfl
    · have hmargins : collidingCall.margin (1, 3) = collidingCall.margin (1, 2) := by decide +kernel
      rw [Alignment.rounding, Alignment.rounding, hmargins, hfarther, hnearer]
    · rw [hlast, toRational_half] at hgains
      norm_num at hgains
  refine ⟨fun p hp => .inl ?_, fun p q hp hq _ hp' hq' => .inr ((halike p hp hp').trans (halike q hq hq').symm)⟩
  rcases pairs_collidingCall hp with rfl | rfl | rfl
  · rw [hnearer, toRational_half]
    norm_num
  · rw [hfarther, toRational_half]
    norm_num
  · rw [hlast, toRational_half]
    norm_num

/-- Both exchanges of the first argument gain 2, and the one with the nearer position is reported. -/
theorem search_follows_exact_margins_colliding :
    let signature : Signature := { parameters := some ["alpha", "beta", "beta"] }
    let site := CallSite.ofNames ["beta", "alpha", "alpha"]
    let call := signature.align site {}
    let positions := (search signature site 0.5 {}).positions
    call.IsAddressable ∧ (0 : Float) < 0.5 ∧ call.IsResolved (toRational 0.5) ∧
      (call.IsPair (1, 2) ∧ call.IsPair (1, 3) ∧ Meets (1, 2) (1, 3) ∧
        call.exactMargin (1, 2) = 2 ∧ call.exactMargin (1, 3) = 2) ∧
      (∀ p, call.IsPair p → |toRational (call.margin p) - call.exactMargin p| ≤ 2^(-48 : ℤ)) ∧
      (1, 2) ∈ positions ∧ toRational 0.5 - 2^(-48 : ℤ) ≤ call.exactMargin (1, 2) ∧
      (1, 3) ∉ positions ∧
      (∃ q ∈ positions, Meets q (1, 3) ∧ call.exactMargin (1, 3) - 2^(-47 : ℤ) ≤ call.exactMargin q) ∧
      positions = call.exactPositions (toRational 0.5) := by
  intro signature site call positions
  have hsize : call.IsAddressable := by
    unfold Alignment.IsAddressable
    decide +kernel
  have ht : (0 : Float) < 0.5 := by decide +kernel
  have hresolved : call.IsResolved (toRational 0.5) := collidingCall_isResolved
  obtain ⟨hnearer, hfarther, -⟩ : call.exactMargin (1, 2) = 2 ∧ call.exactMargin (1, 3) = 2 ∧ _ :=
    exactMargin_collidingCall
  obtain ⟨hnear, hreported, hclear, hexact⟩ := search_follows_exact_margins signature site {} 0.5 hsize ht
  have hpair : call.IsPair (1, 2) := ⟨le_rfl, by decide, by decide⟩
  have hpair' : call.IsPair (1, 3) := ⟨le_rfl, by decide, le_rfl⟩
  have hmem : (1, 2) ∈ positions := by decide +kernel
  have hnotMem : (1, 3) ∉ positions := by decide +kernel
  have hgains : toRational 0.5 + 2^(-48 : ℤ) ≤ call.exactMargin (1, 3) := by
    rw [hfarther, toRational_half]
    norm_num
  exact ⟨hsize, ht, hresolved, ⟨hpair, hpair', .inl rfl, hnearer, hfarther⟩, hnear, hmem, hreported _ hmem, hnotMem,
    (hclear _ hpair' hgains).resolve_left hnotMem, hexact hresolved⟩

/-- Margins are rounded, so a pair whose margin is the threshold can be lost. -/
theorem search_not_exact :
    ¬ ∀ (signature : Signature) (site : CallSite) (policy : MorphemePolicy) (t : Float), 0 < t → t ≤ 2 →
      (search signature site t policy).positions = (signature.align site policy).exactPositions (toRational t) := by
  intro h
  have hpos : (0 : Float) < 0.5 := by decide +kernel
  have hle : (0.5 : Float) ≤ 2 := by decide +kernel
  have heq := h { parameters := some ["alpha", "beta"] } (.ofNames ["beta_gamma", "alpha_beta_gamma"]) {} 0.5 hpos hle
  have hsearch : (search { parameters := some ["alpha", "beta"] } (.ofNames ["beta_gamma", "alpha_beta_gamma"])
      0.5 {}).positions = [] := by decide +kernel
  have hexact : (Signature.align { parameters := some ["alpha", "beta"] }
      (.ofNames ["beta_gamma", "alpha_beta_gamma"]) {}).exactPositions (1/2) = [(1, 2)] := by decide +kernel
  rw [hsearch, toRational_half, hexact] at heq
  exact absurd heq (List.cons_ne_nil _ _).symm

end CallOrder
