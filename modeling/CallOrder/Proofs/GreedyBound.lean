import CallOrder.Proofs.Soundness
import Mathlib.Algebra.Order.BigOperators.Group.Finset

/-! How much a greedy choice can lose. Whatever disjoint pairs of positions could be reported instead, all of them
together gain at most twice as much as what is reported. -/
namespace CallOrder
open Binary64

section Charges
variable {chosen others : Finset (ℕ × ℕ)}

/-- Pairs that are disjoint and meet one pair are at most two, one for each of its positions. -/
private theorem card_le_two_of_meets {q : ℕ × ℕ} (hapart : ∀ p ∈ others, ∀ r ∈ others, p ≠ r → ¬ Meets p r)
    (hmeets : ∀ p ∈ others, Meets q p) : others.card ≤ 2 := by
  have hshared : ∀ p ∈ others, ∃ i ∈ ({q.1, q.2} : Finset ℕ), p.1 = i ∨ p.2 = i := by
    intro p hp
    rcases hmeets p hp with h | h | h | h
    · exact ⟨q.1, by simp, .inl h.symm⟩
    · exact ⟨q.1, by simp, .inr h.symm⟩
    · exact ⟨q.2, by simp, .inl h.symm⟩
    · exact ⟨q.2, by simp, .inr h.symm⟩
  choose! shared hmem htouch using hshared
  have hinj : Set.InjOn shared others := by
    intro p hp r hr heq
    by_contra hne
    have hp' := htouch p hp
    have hr' := htouch r hr
    refine hapart p hp r hr hne ?_
    unfold Meets
    omega
  exact (Finset.card_le_card_of_injOn shared hmem hinj).trans Finset.card_le_two

/-- Disjoint pairs, each of which meets a chosen one that weighs no less, weigh at most twice what the chosen ones
weigh: each is charged to such a pair, and no pair is charged more than twice. -/
theorem sum_le_two_mul_sum {weight : ℕ × ℕ → ℚ} (hapart : ∀ p ∈ others, ∀ r ∈ others, p ≠ r → ¬ Meets p r)
    (hcharge : ∀ p ∈ others, ∃ q ∈ chosen, Meets q p ∧ weight p ≤ weight q) (hnonneg : ∀ q ∈ chosen, 0 ≤ weight q) :
    ∑ p ∈ others, weight p ≤ 2 * ∑ q ∈ chosen, weight q := by
  choose! charged hmem hmeets hle using hcharge
  have hfiber : ∀ q ∈ chosen, ∑ p ∈ others with charged p = q, weight (charged p) ≤ 2 * weight q := by
    intro q hq
    have hcard : (others.filter fun p => charged p = q).card ≤ 2 := by
      refine card_le_two_of_meets (q := q) (fun p hp r hr => ?_) fun p hp => ?_
      · exact hapart p (Finset.mem_filter.1 hp).1 r (Finset.mem_filter.1 hr).1
      · obtain ⟨hp, hq⟩ := Finset.mem_filter.1 hp
        exact hq ▸ hmeets p hp
    have hweight : ∀ p ∈ others.filter fun p => charged p = q, weight (charged p) = weight q := fun p hp => by
      rw [(Finset.mem_filter.1 hp).2]
    rw [Finset.sum_congr rfl hweight, Finset.sum_const, nsmul_eq_mul]
    exact mul_le_mul_of_nonneg_right (by exact_mod_cast hcard) (hnonneg q hq)
  calc ∑ p ∈ others, weight p
      ≤ ∑ p ∈ others, weight (charged p) := Finset.sum_le_sum hle
    _ = ∑ q ∈ chosen, ∑ p ∈ others with charged p = q, weight (charged p) :=
        (Finset.sum_fiberwise_of_maps_to hmem _).symm
    _ ≤ ∑ q ∈ chosen, 2 * weight q := Finset.sum_le_sum hfiber
    _ = 2 * ∑ q ∈ chosen, weight q := (Finset.mul_sum _ _ _).symm

end Charges

namespace Alignment
variable {a : Alignment} {t : Float} {p : ℕ × ℕ}

theorem IsEligible.isWithin (h : a.IsEligible t p) (ht : 0 < t) : IsWithin (a.margin p) 2 := by
  obtain ⟨-, -, hpos⟩ := lt_iff.1 ht
  rw [toRational_zero] at hpos
  exact isWithin_two hpos h.gains (margin_le_two h.isNaN)

/-- What could be reported is reported, or shares a position with a pair that is and that gains no less. -/
theorem IsEligible.exists_charged (h : a.IsEligible t p) :
    ∃ q ∈ a.selected t, Meets q p ∧ toRational (a.margin p) ≤ toRational (a.margin q) := by
  by_cases hp : p ∈ a.selected t
  · exact ⟨p, hp, .inl rfl, le_rfl⟩
  · obtain ⟨q, hq, hqp, hm⟩ := (selected_stable t).exists_outranks h hp
    exact ⟨q, hq, hm, (le_iff.1 hqp.margin_le).2.2⟩

theorem nodup_selected (a : Alignment) (t : Float) : (a.selected t).Nodup := by
  refine (selected_ascending t).imp ?_
  rintro p _ h rfl
  exact Precedes.irrefl p h

variable {others : Finset (ℕ × ℕ)}

theorem sum_margin_le (ht : 0 < t) (heligible : ∀ p ∈ others, a.IsEligible t p)
    (hapart : ∀ p ∈ others, ∀ q ∈ others, p ≠ q → ¬ Meets p q) :
    ∑ p ∈ others, toRational (a.margin p) ≤ 2 * ((a.selected t).map fun p => toRational (a.margin p)).sum := by
  rw [← List.sum_toFinset _ (a.nodup_selected t)]
  refine sum_le_two_mul_sum hapart (fun p hp => ?_) fun q hq => ?_
  · simpa only [List.mem_toFinset] using (heligible p hp).exists_charged
  · exact ((selected_eligible (List.mem_toFinset.1 hq)).isWithin ht).nonneg

theorem card_le (heligible : ∀ p ∈ others, a.IsEligible t p)
    (hapart : ∀ p ∈ others, ∀ q ∈ others, p ≠ q → ¬ Meets p q) : others.card ≤ 2 * (a.selected t).length := by
  rw [← List.toFinset_card_of_nodup (a.nodup_selected t)]
  have hcharge : ∀ p ∈ others, ∃ q ∈ (a.selected t).toFinset, Meets q p ∧ (1 : ℚ) ≤ 1 := fun p hp => by
    obtain ⟨q, hq, hmeets, -⟩ := (heligible p hp).exists_charged
    exact ⟨q, List.mem_toFinset.2 hq, hmeets, le_rfl⟩
  have hcount : ∑ _ ∈ others, (1 : ℚ) ≤ 2 * ∑ _ ∈ (a.selected t).toFinset, 1 :=
    sum_le_two_mul_sum hapart hcharge fun _ _ => zero_le_one
  simp only [Finset.sum_const, nsmul_one] at hcount
  exact_mod_cast hcount

end Alignment

/-- Disjoint pairs that could be reported gain at most twice as much as those that are, and are at most twice as many.
The gains are finite, and added up without rounding. -/
theorem findings_within_factor_two (signature : Signature) (site : CallSite) (t : Float) (policy : MorphemePolicy)
    (ht : 0 < t) (others : Finset (ℕ × ℕ))
    (heligible : ∀ p ∈ others, (signature.align site policy).IsEligible t p)
    (hapart : ∀ p ∈ others, ∀ q ∈ others, p ≠ q → ¬ Meets p q) :
    let margin := (signature.align site policy).margin
    let found := search signature site t policy
    (∀ p ∈ others, IsFinite (margin p)) ∧ (∀ swap ∈ found.swaps, IsFinite swap.score) ∧
      ∑ p ∈ others, toRational (margin p) ≤ 2 * (found.swaps.map fun swap => toRational swap.score).sum ∧
      others.card ≤ 2 * found.count := by
  intro margin found
  have hswaps : found.swaps = ((signature.align site policy).selected t).map (signature.align site policy).swapAt :=
    search_swaps signature site t policy
  refine ⟨fun p hp => ((heligible p hp).isWithin ht).finite, fun swap hswap => ?_, ?_, ?_⟩
  · obtain ⟨p, hp, rfl⟩ := mem_search_swaps.1 hswap
    exact ((Alignment.selected_eligible hp).isWithin ht).finite
  · rw [hswaps, List.map_map]
    exact Alignment.sum_margin_le ht heligible hapart
  · rw [Findings.count, hswaps, List.length_map]
    exact Alignment.card_le heligible hapart

theorem findings_within_factor_two_start_stop :
    let signature : Signature := { parameters := some ["start", "width", "height", "stop"] }
    let site := CallSite.ofNames ["width", "height", "width", "height"]
    let margin := (signature.align site {}).margin
    let found := search signature site 1 {}
    let others : Finset (ℕ × ℕ) := {(1, 2), (3, 4)}
    found.positions = [(2, 3)] ∧ (0 : Float) < 1 ∧ (∀ p ∈ others, (signature.align site {}).IsEligible 1 p) ∧
      (∀ p ∈ others, ∀ q ∈ others, p ≠ q → ¬ Meets p q) ∧
      (∀ p ∈ others, IsFinite (margin p)) ∧ (∀ swap ∈ found.swaps, IsFinite swap.score) ∧
      ∑ p ∈ others, toRational (margin p) ≤ 2 * (found.swaps.map fun swap => toRational swap.score).sum ∧
      others.card ≤ 2 * found.count := by
  intro signature site margin found others
  have hpos : (0 : Float) < 1 := by decide +kernel
  have heligible : ∀ p ∈ others, (signature.align site {}).IsEligible 1 p := by
    simp only [others, Finset.mem_insert, Finset.mem_singleton, forall_eq_or_imp, forall_eq]
    exact ⟨⟨⟨le_rfl, by decide, by decide⟩, by decide +kernel, by decide +kernel⟩,
      ⟨⟨by decide, by decide, by decide⟩, by decide +kernel, by decide +kernel⟩⟩
  have hapart : ∀ p ∈ others, ∀ q ∈ others, p ≠ q → ¬ Meets p q := by
    unfold Meets
    decide
  exact ⟨by decide +kernel, hpos, heligible, hapart,
    findings_within_factor_two signature site 1 {} hpos others heligible hapart⟩

end CallOrder
