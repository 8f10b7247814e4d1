import CallOrder.Proofs.Alignment
import CallOrder.Proofs.Jaccard

/-! Margins as fractions. An exchange that involves an argument which fits its parameter gains nothing,
and what the arithmetic adds to a margin is far below any threshold in use. -/
namespace CallOrder
open Binary64

namespace Alignment
variable {a : Alignment}

def exactScore (a : Alignment) (i j : ℕ) : ℚ := (a.parameter i).exactSimilarity (a.argument j)

def exactMargin (a : Alignment) (p : ℕ × ℕ) : ℚ :=
  (a.exactScore p.1 p.2 + a.exactScore p.2 p.1) - (a.exactScore p.1 p.1 + a.exactScore p.2 p.2)

/-- The sizes of all the sets are machine words. -/
def IsAddressable (a : Alignment) : Prop := ∀ s ∈ a.parameters ++ a.arguments, s.card < 2^64

private theorem card_getD_lt {sets : List MorphemeSet} (h : ∀ s ∈ sets, s.card < 2^64) (i : ℕ) :
    (sets.getD i ∅).card < 2^64 := by
  rw [List.getD_eq_getElem?_getD]
  cases hs : sets[i]? with
  | none => exact (show (0 : ℕ) < 2^64 by norm_num)
  | some s => exact h s (List.mem_of_getElem? hs)

private theorem score_approximates (h : a.IsAddressable) (i j : ℕ) :
    Approximates (a.score i j) (a.exactScore i j) 1 (2^(-51 : ℤ)) := by
  refine MorphemeSet.similarity_approximates ?_ ?_
  · exact card_getD_lt (fun s hs => h s (List.mem_append_left _ hs)) _
  · exact card_getD_lt (fun s hs => h s (List.mem_append_right _ hs)) _

private theorem scores_approximate (h : a.IsAddressable) (i j k l : ℕ) :
    Approximates (a.score i j + a.score k l) (a.exactScore i j + a.exactScore k l) 2 (5 * 2^(-52 : ℤ)) := by
  have hsum := (score_approximates h i j).add (score_approximates h k l)
  norm_num at hsum ⊢
  exact hsum

/-- Rounding moves a margin by less than a trillionth part. -/
theorem margin_near (h : a.IsAddressable) (p : ℕ × ℕ) :
    IsFinite (a.margin p) ∧ |toRational (a.margin p) - a.exactMargin p| ≤ 2^(-48 : ℤ) := by
  obtain ⟨hr, hnear⟩ := (scores_approximate h p.1 p.2 p.2 p.1).sub (scores_approximate h p.1 p.1 p.2 p.2)
  refine ⟨hr.finite, hnear.trans ?_⟩
  norm_num

/-- At a place where the argument fits, no exchange gains anything. -/
theorem exactMargin_nonpos {p : ℕ × ℕ} {i : ℕ} (hp : p.1 = i ∨ p.2 = i) (hi : a.parameter i = a.argument i) :
    a.exactMargin p ≤ 0 := by
  have hfit : ∀ j, a.exactScore i j + a.exactScore j i ≤ a.exactScore i i + a.exactScore j j := by
    intro j
    have hj : 0 ≤ a.exactScore j j := MorphemeSet.exactSimilarity_nonneg _ _
    rcases (a.argument i).members.eq_empty_or_nonempty with hempty | hne
    · have hz := MorphemeSet.exactSimilarity_of_empty hempty
      simp only [exactScore, hi, (hz _).1, (hz _).2] at hj ⊢
      linarith
    · have htriangle := MorphemeSet.exactSimilarity_triangle (a.parameter j) (a.argument i) (a.argument j)
      simp only [exactScore, hi, MorphemeSet.exactSimilarity_self hne]
      linarith
  rcases hp with rfl | rfl
  · have h := hfit p.2
    rw [exactMargin]
    linarith
  · have h := hfit p.1
    rw [exactMargin]
    linarith

/-- A pair whose scores with the arguments exchanged are zero does not gain, however it is rounded. -/
theorem related_of_pos (h : a.IsAddressable) {p : ℕ × ℕ} (hp : 0 < toRational (a.margin p)) :
    ¬ ((a.score p.1 p.2 == 0) = true ∧ (a.score p.2 p.1 == 0) = true) := by
  rintro ⟨hfirst, hsecond⟩
  have hcrossed := scores_approximate h p.1 p.2 p.2 p.1
  have hbaseline := scores_approximate h p.1 p.1 p.2 p.2
  have hsum := (score_approximates h p.1 p.2).add_rounded (score_approximates h p.2 p.1)
  have hzero : toRational (a.score p.1 p.2 + a.score p.2 p.1) = 0 := by
    rw [hsum.toRational_eq, (beq_iff.1 hfirst).2.2, (beq_iff.1 hsecond).2.2, toRational_zero, add_zero, nearest_zero]
  rw [margin, (hcrossed.sub hbaseline).1.toRational_eq, hzero, zero_sub, nearest_neg, neg_pos] at hp
  have hneg : nearest 0 ≤ nearest (toRational (a.score p.1 p.1 + a.score p.2 p.2)) := nearest_mono hbaseline.nonneg
  rw [nearest_zero] at hneg
  exact absurd hp hneg.not_gt

theorem IsEligible.le_margin (h : a.IsAddressable) {t : Float} {p : ℕ × ℕ} (hp : a.IsEligible t p) :
    toRational t - 2^(-48 : ℤ) ≤ a.exactMargin p := by
  have hle := (le_iff.1 hp.gains).2.2
  have hnear := (abs_le.1 (a.margin_near h p).2).2
  linarith

end Alignment

private theorem two_zpow_lt_billionth : (2 : ℚ)^(-48 : ℤ) < toRational 1e-9 := by
  have hu : (1e-9 : Float).toModel.unpack = .finite .positive 4835703278458517 (-82) (by decide) := by rfl
  rw [toRational, hu]
  norm_num [unpackedRational, Float.Model.UnpackedFloat.Sign.apply]

/-- An argument that fits its parameter takes part in no exchange that gains anything, and from a billionth on
in none that is reported; a call in which all arguments fit is clean. -/
theorem fitting_arguments_not_reported (signature : Signature) (site : CallSite) (policy : MorphemePolicy) :
    let call := signature.align site policy
    (∀ i p, call.parameter i = call.argument i → call.IsPair p → p.1 = i ∨ p.2 = i → call.exactMargin p ≤ 0) ∧
    (call.IsAddressable → ∀ t : Float, 1e-9 ≤ t →
      (∀ i, call.parameter i = call.argument i →
        ∀ swap ∈ (search signature site t policy).swaps, swap.touches i = false) ∧
      ((∀ i, 1 ≤ i → i ≤ call.range → call.parameter i = call.argument i) →
        (search signature site t policy).isEmpty = true)) := by
  intro call
  refine ⟨fun i p hi _ hp => Alignment.exactMargin_nonpos hp hi, fun h t ht => ?_⟩
  have hsmall : (2 : ℚ)^(-48 : ℤ) < toRational t := two_zpow_lt_billionth.trans_le (le_iff.1 ht).2.2
  have hselected : ∀ p ∈ call.selected t, ∀ i, call.parameter i = call.argument i → ¬ (p.1 = i ∨ p.2 = i) := by
    intro p hp i hi htouch
    have hmargin := ((Alignment.selected_stable t).eligible_of_chosen hp).le_margin h
    have hnonpos := Alignment.exactMargin_nonpos htouch hi
    linarith
  rw [search_swaps]
  constructor
  · intro i hi swap hswap
    obtain ⟨p, hp, rfl⟩ := List.mem_map.1 hswap
    have hnot := hselected p hp i hi
    rwa [Alignment.swapAt, Swap.touches, Bool.eq_false_iff, ne_eq, Bool.or_eq_true, beq_iff_eq, beq_iff_eq]
  · intro hfit
    have hnil : call.selected t = [] := by
      refine List.eq_nil_iff_forall_not_mem.2 fun p hp => ?_
      have hpair := ((Alignment.selected_stable t).eligible_of_chosen hp).toIsPair
      exact hselected p hp p.1 (hfit p.1 hpair.pos (hpair.lt.le.trans hpair.le)) (.inl rfl)
    rw [Findings.isEmpty, search_swaps, hnil]
    rfl

theorem fitting_arguments_not_reported_width_height :
    let signature : Signature := { parameters := some ["width", "height"] }
    let site := CallSite.ofNames ["width", "height"]
    let call := signature.align site {}
    call.IsAddressable ∧ (1e-9 : Float) ≤ 0.5 ∧ call.parameter 1 = call.argument 1 ∧ call.IsPair (1, 2) ∧
      call.exactMargin (1, 2) ≤ 0 ∧
      (∀ swap ∈ (search signature site 0.5 {}).swaps, swap.touches 1 = false) ∧
      (search signature site 0.5 {}).isEmpty = true := by
  intro signature site call
  have hsize : call.IsAddressable := by
    unfold Alignment.IsAddressable
    decide +kernel
  have ht : (1e-9 : Float) ≤ 0.5 := by decide +kernel
  have hone : call.parameter 1 = call.argument 1 := by decide +kernel
  have htwo : call.parameter 2 = call.argument 2 := by decide +kernel
  have hpair : call.IsPair (1, 2) := ⟨le_rfl, one_lt_two, le_rfl⟩
  have hfit : ∀ i, 1 ≤ i → i ≤ call.range → call.parameter i = call.argument i := by
    intro i hi hle
    have hcases : i = 1 ∨ i = 2 := by
      have hrange : call.range = 2 := rfl
      omega
    rcases hcases with rfl | rfl
    · exact hone
    · exact htwo
  obtain ⟨hexact, hrounded⟩ := fitting_arguments_not_reported signature site {}
  obtain ⟨htouch, hclean⟩ := hrounded hsize 0.5 ht
  exact ⟨hsize, ht, hone, hpair, hexact 1 (1, 2) hone hpair (.inl rfl), htouch 1 hone, hclean hfit⟩

end CallOrder
