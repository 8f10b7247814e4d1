import CallOrder.Proofs.Margin
import CallOrder.Proofs.Similarity
import CallOrder.Proofs.Validity

/-! The full margin. A call gains 2 from an exchange exactly when each of the two arguments is the parameter in the other's
place and has nothing to do with its own; rounding neither makes up such a gain nor spoils one. -/
namespace CallOrder
open Binary64

namespace IsApart
variable {p q r s : ℚ}

/-- Four fractions make the full margin only in one way. -/
theorem margin_eq_two_iff (hp : IsApart p) (hq : IsApart q) (hr : IsApart r) (hs : IsApart s) :
    (p + q) - (r + s) = 2 ↔ (p = 1 ∧ q = 1) ∧ r = 0 ∧ s = 0 := by
  have hple := hp.le_one
  have hqle := hq.le_one
  have hrnonneg := hr.nonneg
  have hsnonneg := hs.nonneg
  constructor
  · intro h
    exact ⟨⟨by linarith, by linarith⟩, by linarith, by linarith⟩
  · rintro ⟨⟨rfl, rfl⟩, rfl, rfl⟩
    norm_num

private theorem nearest_below_two : Binary64.nearest (2 - 2^(-51 : ℤ)) = 2 - 2^(-51 : ℤ) := by
  have hvalue : (2 - 2^(-51 : ℤ) : ℚ) = ((2^52 - 1 : ℤ) : ℚ) * 2^(-51 : ℤ) := by norm_num
  rw [hvalue]
  exact nearest_eq_self (by norm_num) (by norm_num)

/-- A number that is clearly below 2 is not rounded to 2. -/
private theorem nearest_lt_two {x : ℚ} (h : x ≤ 2 - 2^(-51 : ℤ)) : Binary64.nearest x ≤ 2 - 2^(-51 : ℤ) := by
  rw [← nearest_below_two]
  exact nearest_mono h

theorem nearest_add_eq_two_or (hp : IsApart p) (hq : IsApart q) :
    p = 1 ∧ q = 1 ∨ Binary64.nearest (p + q) ≤ 2 - 2^(-51 : ℤ) := by
  have hple := hp.le_one
  have hqle := hq.le_one
  rcases hp.one_or with hone | hlow
  · rcases hq.one_or with hone' | hlow'
    · exact .inl ⟨hone, hone'⟩
    · exact .inr (nearest_lt_two (by linarith))
  · exact .inr (nearest_lt_two (by linarith))

theorem nearest_add_eq_zero_or (hr : IsApart r) (hs : IsApart s) :
    r = 0 ∧ s = 0 ∨ 2^(-51 : ℤ) ≤ Binary64.nearest (r + s) := by
  have hrnonneg := hr.nonneg
  have hsnonneg := hs.nonneg
  rcases hr.zero_or with hzero | hhigh
  · rcases hs.zero_or with hzero' | hhigh'
    · exact .inl ⟨hzero, hzero'⟩
    · right
      rw [← nearest_low]
      exact nearest_mono (by linarith)
  · right
    rw [← nearest_low]
    exact nearest_mono (by linarith)

/-- The three roundings of a margin keep what is less than 2 below it. -/
theorem nearest_margin_eq_two_iff (hp : IsApart p) (hq : IsApart q) (hr : IsApart r) (hs : IsApart s) :
    Binary64.nearest (Binary64.nearest (p + q) - Binary64.nearest (r + s)) = 2 ↔
      (p = 1 ∧ q = 1) ∧ r = 0 ∧ s = 0 := by
  constructor
  · intro h
    have hbelow : ¬ Binary64.nearest (p + q) - Binary64.nearest (r + s) ≤ 2 - 2^(-51 : ℤ) := by
      intro hle
      have hlt := nearest_lt_two hle
      rw [h] at hlt
      norm_num at hlt
    have hcrossed : Binary64.nearest (p + q) ≤ 2 := by
      rw [← nearest_two]
      exact nearest_mono (by linarith [hp.le_one, hq.le_one])
    have hbaseline : 0 ≤ Binary64.nearest (r + s) := by
      rw [← nearest_zero]
      exact nearest_mono (add_nonneg hr.nonneg hs.nonneg)
    rcases nearest_add_eq_two_or hp hq with hone | hlow
    · rcases nearest_add_eq_zero_or hr hs with hzero | hhigh
      · exact ⟨hone, hzero⟩
      · exact absurd (by linarith) hbelow
    · exact absurd (by linarith) hbelow
  · rintro ⟨⟨rfl, rfl⟩, rfl, rfl⟩
    rw [add_zero, nearest_zero, sub_zero, one_add_one_eq_two, nearest_two, nearest_two]

end IsApart

namespace Alignment
variable {a : Alignment} {p : ℕ × ℕ}

/-- Each of two arguments says exactly what the parameter in the other's place says, and they have nothing in common. -/
structure IsTransposed (a : Alignment) (p : ℕ × ℕ) : Prop where
  first : a.argument p.1 = a.parameter p.2
  second : a.argument p.2 = a.parameter p.1
  named : (a.argument p.1).isEmpty = false ∧ (a.argument p.2).isEmpty = false
  apart : ∀ m ∈ a.argument p.1, m ∉ a.argument p.2

/-- The sizes of the sets at all scored positions are far within the exact numbers. -/
def IsSized (a : Alignment) : Prop :=
  ∀ i, 1 ≤ i → i ≤ a.range → (a.parameter i).card < 2^50 ∧ (a.argument i).card < 2^50

theorem isTransposed_iff :
    a.IsTransposed p ↔ (a.exactScore p.1 p.2 = 1 ∧ a.exactScore p.2 p.1 = 1) ∧
      a.exactScore p.1 p.1 = 0 ∧ a.exactScore p.2 p.2 = 0 := by
  simp only [exactScore, MorphemeSet.exactSimilarity_eq_one_iff, MorphemeSet.exactSimilarity_eq_zero_iff]
  constructor
  · rintro ⟨hfirst, hsecond, ⟨hnamed, hnamed'⟩, hapart⟩
    rw [← hfirst, ← hsecond]
    exact ⟨⟨⟨rfl, hnamed'⟩, rfl, hnamed⟩, fun m hm hm' => hapart m hm' hm, hapart⟩
  · rintro ⟨⟨⟨hsecond, hnamed'⟩, hfirst, hnamed⟩, -, hapart⟩
    rw [hfirst] at hnamed hapart
    rw [hsecond] at hnamed'
    exact ⟨hfirst.symm, hsecond.symm, ⟨hnamed, hnamed'⟩, hapart⟩

theorem exactMargin_eq_two_iff (hforth : IsApart (a.exactScore p.1 p.2)) (hback : IsApart (a.exactScore p.2 p.1))
    (hfirst : IsApart (a.exactScore p.1 p.1)) (hsecond : IsApart (a.exactScore p.2 p.2)) :
    a.exactMargin p = 2 ↔ a.IsTransposed p := by
  rw [exactMargin, hforth.margin_eq_two_iff hback hfirst hsecond, isTransposed_iff]

theorem IsPair.inRange (hp : a.IsPair p) : (1 ≤ p.1 ∧ p.1 ≤ a.range) ∧ 1 ≤ p.2 ∧ p.2 ≤ a.range :=
  ⟨⟨hp.pos, hp.lt.le.trans hp.le⟩, hp.pos.trans hp.lt.le, hp.le⟩

section Sized
variable (h : a.IsSized) (hp : a.IsPair p)
include h

theorem score_sized {i j : ℕ} (hi : 1 ≤ i ∧ i ≤ a.range) (hj : 1 ≤ j ∧ j ≤ a.range) :
    IsRounded (a.score i j) (a.exactScore i j) ∧ IsApart (a.exactScore i j) := by
  have hparameter := (h i hi.1 hi.2).1
  have hargument := (h j hj.1 hj.2).2
  exact ⟨MorphemeSet.similarity_isRounded hparameter hargument, MorphemeSet.exactSimilarity_isApart hparameter hargument⟩

include hp

/-- The margin of a pair, with its three roundings beside those of the scores. -/
theorem margin_isRounded :
    IsRounded (a.margin p)
      (nearest (nearest (a.exactScore p.1 p.2) + nearest (a.exactScore p.2 p.1)) -
        nearest (nearest (a.exactScore p.1 p.1) + nearest (a.exactScore p.2 p.2))) := by
  obtain ⟨hfirst, hsecond⟩ := hp.inRange
  have hscore : ∀ {i j}, 1 ≤ i ∧ i ≤ a.range → 1 ≤ j ∧ j ≤ a.range → IsWithin (a.score i j) (1 : ℕ) := fun hi hj =>
    score_isWithin (score_sized h hi hj).1.finite.isNaN
  have hsum : ∀ {i j k l}, 1 ≤ i ∧ i ≤ a.range → 1 ≤ j ∧ j ≤ a.range → 1 ≤ k ∧ k ≤ a.range → 1 ≤ l ∧ l ≤ a.range →
      toRational (a.score i j + a.score k l) = nearest (nearest (a.exactScore i j) + nearest (a.exactScore k l)) := by
    intro i j k l hi hj hk hl
    rw [((hscore hi hj).add_rounded (hscore hk hl) (by norm_num)).toRational_eq, (score_sized h hi hj).1.toRational_eq,
      (score_sized h hk hl).1.toRational_eq]
  have hcrossed := (hscore hfirst hsecond).add (hscore hsecond hfirst) (by norm_num)
  have hbaseline := (hscore hfirst hfirst).add (hscore hsecond hsecond) (by norm_num)
  have hmargin := (hcrossed.sub hbaseline (by norm_num) (by norm_num)).1
  rw [hsum hfirst hsecond hsecond hfirst, hsum hfirst hfirst hsecond hsecond] at hmargin
  exact hmargin

/-- Rounded or not, the full margin is that of a transposition. -/
theorem margin_eq_two_iff_isTransposed : (a.margin p = 2 ↔ a.IsTransposed p) ∧ (a.exactMargin p = 2 ↔ a.IsTransposed p) := by
  obtain ⟨hfirst, hsecond⟩ := hp.inRange
  have hforth := (score_sized h hfirst hsecond).2
  have hback := (score_sized h hsecond hfirst).2
  have hwritten := (score_sized h hfirst hfirst).2
  have hwritten' := (score_sized h hsecond hsecond).2
  have hrounded := margin_isRounded h hp
  have hvalue : toRational (a.margin p) = 2 ↔ a.IsTransposed p := by
    rw [hrounded.toRational_eq, hforth.nearest.nearest_margin_eq_two_iff hback.nearest hwritten.nearest hwritten'.nearest,
      hforth.nearest_eq_one_iff, hback.nearest_eq_one_iff, hwritten.nearest_eq_zero_iff, hwritten'.nearest_eq_zero_iff,
      isTransposed_iff]
  refine ⟨?_, exactMargin_eq_two_iff hforth hback hwritten hwritten'⟩
  rw [← hvalue]
  constructor
  · intro htwo
    rw [htwo, isWhole_two.toRational_eq]
    rfl
  · intro htwo
    have hwhole : IsWhole (a.margin p) 2 := ⟨hrounded.finite, htwo⟩
    exact hwhole.eq isWhole_two two_ne_zero

/-- At the threshold 2 no margin is more than enough, and no pair of the full margin is unrelated. -/
theorem isEligible_two_iff : a.IsEligible 2 p ↔ a.IsTransposed p := by
  rw [← (margin_eq_two_iff_isTransposed h hp).1]
  constructor
  · intro heligible
    have hle := (le_iff.1 heligible.gains).2.2
    have hge := (le_iff.1 (margin_le_two heligible.isNaN)).2.2
    have hwhole : IsWhole (a.margin p) 2 :=
      ⟨(margin_isRounded h hp).finite, by rw [← isWhole_two.toRational_eq]; exact le_antisymm hge hle⟩
    exact hwhole.eq isWhole_two two_ne_zero
  · intro htwo
    refine ⟨hp, ?_, ?_⟩
    · rintro ⟨hzero, -⟩
      have htransposed := (margin_eq_two_iff_isTransposed h hp).1.1 htwo
      obtain ⟨⟨hone, -⟩, -⟩ := isTransposed_iff.1 htransposed
      have hvalue := (score_sized h hp.inRange.1 hp.inRange.2).1.toRational_eq
      rw [hone, nearest_one, (beq_iff.1 hzero).2.2, toRational_zero] at hvalue
      exact zero_ne_one hvalue
    · rw [htwo]
      exact le_iff.2 ⟨isWhole_two.finite.isNaN, isWhole_two.finite.isNaN, le_rfl⟩

end Sized

end Alignment

/-- No threshold that is accepted is above 2, and 2 is accepted. -/
theorem strictest_isMargin : isMargin 2 = true ∧ ∀ t, isMargin t = true → t ≤ 2 := by
  refine ⟨by decide +kernel, ?_⟩
  intro t ht
  have hthreshold := isMargin_iff.1 ht
  refine le_iff.2 ⟨hthreshold.finite.isNaN, isWhole_two.finite.isNaN, ?_⟩
  rw [isWhole_two.toRational_eq]
  exact hthreshold.le_two

/-- A score of 2 means a transposition, at every threshold, and a score is never above it. At the strictest threshold the
eligible pairs are the transposed ones. The margins of these are 2 without rounding, and only theirs. -/
theorem full_score_means_transposition (signature : Signature) (site : CallSite) (policy : MorphemePolicy)
    (hsized : (signature.align site policy).IsSized) :
    let call := signature.align site policy
    (∀ t, ∀ swap ∈ (search signature site t policy).swaps,
      swap.score ≤ 2 ∧ (swap.score = 2 ↔ call.IsTransposed (swap.first, swap.second))) ∧
    (isMargin 2 = true ∧ ∀ t, isMargin t = true → t ≤ 2) ∧
    (∀ p, call.IsEligible 2 p ↔ call.IsPair p ∧ call.IsTransposed p) ∧
    ∀ p, call.IsPair p → (call.margin p = 2 ↔ call.exactMargin p = 2) := by
  intro call
  refine ⟨?_, strictest_isMargin, ?_, ?_⟩
  · intro t swap hswap
    obtain ⟨p, hp, rfl⟩ := mem_search_swaps.1 hswap
    have heligible := Alignment.selected_eligible hp
    exact ⟨Alignment.margin_le_two heligible.isNaN,
      (Alignment.margin_eq_two_iff_isTransposed hsized heligible.toIsPair).1⟩
  · intro p
    constructor
    · intro heligible
      exact ⟨heligible.toIsPair, (Alignment.isEligible_two_iff hsized heligible.toIsPair).1 heligible⟩
    · rintro ⟨hpair, htransposed⟩
      exact (Alignment.isEligible_two_iff hsized hpair).2 htransposed
  · intro p hpair
    have hmargin := Alignment.margin_eq_two_iff_isTransposed hsized hpair
    rw [hmargin.1, hmargin.2]

/-- Two transposed arguments, and two that are so but for one token of one parameter. -/
theorem full_score_means_transposition_box :
    let signature : Signature := { parameters := some ["box_width", "height", "start", "end_index"] }
    let site := CallSite.ofNames ["height", "widthBox", "index", "start"]
    let call := signature.align site {}
    let found := search signature site 0.5 {}
    call.IsSized ∧ call.swapAt (1, 2) ∈ found.swaps ∧ call.swapAt (3, 4) ∈ found.swaps ∧
      call.IsTransposed (1, 2) ∧ call.margin (1, 2) = 2 ∧ call.IsEligible 2 (1, 2) ∧ call.exactMargin (1, 2) = 2 ∧
      ¬ call.IsTransposed (3, 4) ∧ call.margin (3, 4) ≠ 2 ∧ ¬ call.IsEligible 2 (3, 4) ∧ call.exactMargin (3, 4) ≠ 2 := by
  intro signature site call found
  have hsized : call.IsSized := by
    intro i hpos hle
    have hrange : call.range = 4 := rfl
    have hcases : i = 1 ∨ i = 2 ∨ i = 3 ∨ i = 4 := by omega
    rcases hcases with rfl | rfl | rfl | rfl <;> decide +kernel
  have hpositions : found.positions = [(1, 2), (3, 4)] := by decide +kernel
  rw [search_positions] at hpositions
  have hfirst : call.swapAt (1, 2) ∈ found.swaps := mem_search_swaps.2 ⟨(1, 2), hpositions ▸ by simp, rfl⟩
  have hsecond : call.swapAt (3, 4) ∈ found.swaps := mem_search_swaps.2 ⟨(3, 4), hpositions ▸ by simp, rfl⟩
  have hpair : call.IsPair (1, 2) := ⟨by decide, by decide, by decide⟩
  have hpair' : call.IsPair (3, 4) := ⟨by decide, by decide, by decide⟩
  obtain ⟨hscores, -, heligible, hexact⟩ := full_score_means_transposition signature site {} hsized
  have htwo : call.margin (1, 2) = 2 := by decide +kernel
  have hless : call.margin (3, 4) ≠ 2 := by decide +kernel
  have htransposed : call.IsTransposed (1, 2) := (hscores 0.5 _ hfirst).2.1 htwo
  have hpartial : ¬ call.IsTransposed (3, 4) := fun h => hless ((hscores 0.5 _ hsecond).2.2 h)
  exact ⟨hsized, hfirst, hsecond, htransposed, htwo, (heligible _).2 ⟨hpair, htransposed⟩, (hexact _ hpair).1 htwo,
    hpartial, hless, fun h => hpartial ((heligible _).1 h).2, fun h => hless ((hexact _ hpair').2 h)⟩

end CallOrder
