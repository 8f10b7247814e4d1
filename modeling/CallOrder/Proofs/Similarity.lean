import CallOrder.Proofs.Evidence

/-! The similarity of sets whose sizes are exact numbers. It is the fraction itself, rounded once, and the fractions of
such sizes keep so far from 0 and from 1 that no rounding leads to either. -/
namespace CallOrder
open Binary64

/-- From 0 to 1, and if neither then apart from both by what is still a number of its own there. -/
structure IsApart (q : ℚ) : Prop where
  zero_or : q = 0 ∨ 2^(-51 : ℤ) ≤ q
  one_or : q = 1 ∨ q ≤ 1 - 2^(-51 : ℤ)

namespace IsApart
variable {q : ℚ} {i u : ℕ}

theorem nonneg (h : IsApart q) : 0 ≤ q := by
  rcases h.zero_or with hzero | hlow
  · exact hzero.ge
  · exact le_trans (by norm_num) hlow

theorem le_one (h : IsApart q) : q ≤ 1 := by
  rcases h.one_or with hone | hhigh
  · exact hone.le
  · exact hhigh.trans (by norm_num)

/-- Of a fraction the numerator is a whole number, and so is what it lacks of the denominator. -/
theorem ratio (hiu : i ≤ u) (hu : 0 < u) (hlim : u < 2^51) : IsApart (i / u : ℚ) := by
  have hpos : (0 : ℚ) < u := by exact_mod_cast hu
  have hpart : (2 : ℚ)^(-51 : ℤ) ≤ 1 / u := by
    have hle : (u : ℚ) ≤ 2^(51 : ℤ) := by exact_mod_cast hlim.le
    rw [zpow_neg, one_div]
    exact inv_anti₀ hpos hle
  constructor
  · rcases Nat.eq_zero_or_pos i with rfl | hi
    · left
      rw [Nat.cast_zero, zero_div]
    · right
      have hone : (1 : ℚ) ≤ i := by exact_mod_cast hi
      exact hpart.trans (div_le_div_of_nonneg_right hone hpos.le)
  · rcases hiu.eq_or_lt with rfl | hlt
    · left
      exact div_self hpos.ne'
    · right
      have hless : (i : ℚ) ≤ u - 1 := by
        have : ((i + 1 : ℕ) : ℚ) ≤ u := by exact_mod_cast hlt
        push_cast at this
        linarith
      calc (i / u : ℚ) ≤ (u - 1) / u := div_le_div_of_nonneg_right hless hpos.le
        _ = 1 - 1 / u := by rw [sub_div, div_self hpos.ne']
        _ ≤ 1 - 2^(-51 : ℤ) := by linarith

theorem nearest_low : nearest (2^(-51 : ℤ)) = 2^(-51 : ℤ) := by
  have h := nearest_eq_self (k := 1) (e := -51) (by norm_num) (by norm_num)
  rwa [Int.cast_one, one_mul] at h

private theorem nearest_high : nearest (1 - 2^(-51 : ℤ)) = 1 - 2^(-51 : ℤ) := by
  have hvalue : (1 - 2^(-51 : ℤ) : ℚ) = ((2^51 - 1 : ℤ) : ℚ) * 2^(-51 : ℤ) := by norm_num
  rw [hvalue]
  exact nearest_eq_self (by norm_num) (by norm_num)

theorem nearest (h : IsApart q) : IsApart (nearest q) := by
  constructor
  · rcases h.zero_or with rfl | hlow
    · left
      exact nearest_zero
    · right
      rw [← nearest_low]
      exact nearest_mono hlow
  · rcases h.one_or with rfl | hhigh
    · left
      exact nearest_one
    · right
      rw [← nearest_high]
      exact nearest_mono hhigh

theorem nearest_eq_zero_iff (h : IsApart q) : Binary64.nearest q = 0 ↔ q = 0 := by
  constructor
  · intro hzero
    rcases h.zero_or with hq | hlow
    · exact hq
    · have hmono := nearest_mono hlow
      rw [nearest_low, hzero] at hmono
      norm_num at hmono
  · rintro rfl
    exact nearest_zero

theorem nearest_eq_one_iff (h : IsApart q) : Binary64.nearest q = 1 ↔ q = 1 := by
  constructor
  · intro hone
    rcases h.one_or with hq | hhigh
    · exact hq
    · have hmono := nearest_mono hhigh
      rw [nearest_high, hone] at hmono
      norm_num at hmono
  · rintro rfl
    exact nearest_one

end IsApart

/-- Counts that are numbers themselves make a quotient that is rounded only once. -/
theorem quotient_isRounded {i u : ℕ} (hiu : i ≤ u) (hu : 0 < u) (hlim : u < 2^53) :
    IsRounded (Float.ofNat i / Float.ofNat u) (i / u) := by
  have hi := ofNat_isWhole (hiu.trans_lt hlim)
  have hd := ofNat_isWhole hlim
  have hpos : (0 : ℚ) < u := by exact_mod_cast hu
  have hle : (i / u : ℚ) ≤ 1 := div_le_one_of_le₀ (by exact_mod_cast hiu) hpos.le
  have hr := div_rounded hi.finite hd.finite
  rw [hi.toRational_eq, hd.toRational_eq, Int.cast_natCast, Int.cast_natCast] at hr
  apply hr hpos.ne'
  rw [abs_of_nonneg (by positivity)]
  refine hle.trans_lt ?_
  exact_mod_cast natCast_lt_limit (n := 1) (by norm_num)

namespace MorphemeSet
variable {s t : MorphemeSet}

theorem mem_members {m : String} : m ∈ s.members ↔ m ∈ s := List.mem_toFinset

theorem members_injective : Function.Injective members := by
  intro s t h
  apply ext_members
  intro m
  rw [← mem_members, h, mem_members]

theorem nonempty_members (h : s.isEmpty = false) : s.members.Nonempty := by
  rw [← Finset.card_pos, card_members]
  exact card_pos h

/-- The count by which the similarity divides is that of all members there are, and there are some. -/
theorem union_pos (h : s.isEmpty = false) : 0 < (s.members ∪ t.members).card :=
  Finset.card_pos.2 ((nonempty_members h).mono Finset.subset_union_left)

theorem similarity_eq_div (hs : s.isEmpty = false) (ht : t.isEmpty = false) :
    s.similarity t =
      Float.ofNat (s.members ∩ t.members).card / Float.ofNat (s.members ∪ t.members).card := by
  rw [card_inter, card_union, similarity, hs, ht]
  rfl

theorem exactSimilarity_eq_zero_iff : s.exactSimilarity t = 0 ↔ ∀ m ∈ s, m ∉ t := by
  constructor
  · intro hzero m hs ht
    have hinter : 0 < (s.members ∩ t.members).card :=
      Finset.card_pos.2 ⟨m, Finset.mem_inter.2 ⟨mem_members.2 hs, mem_members.2 ht⟩⟩
    have hunion : 0 < (s.members ∪ t.members).card :=
      Finset.card_pos.2 ⟨m, Finset.mem_union_left _ (mem_members.2 hs)⟩
    have hpos : 0 < s.exactSimilarity t := div_pos (by exact_mod_cast hinter) (by exact_mod_cast hunion)
    exact hpos.ne' hzero
  · intro h
    have hinter : s.members ∩ t.members = ∅ := by
      apply Finset.eq_empty_of_forall_notMem
      intro m hm
      rw [Finset.mem_inter, mem_members, mem_members] at hm
      exact h m hm.1 hm.2
    rw [exactSimilarity, hinter, Finset.card_empty, Nat.cast_zero, zero_div]

/-- Only a set that shares all members that there are is the same, so the counts tell whether two sets are equal. -/
theorem exactSimilarity_eq_one_iff : s.exactSimilarity t = 1 ↔ s = t ∧ s.isEmpty = false := by
  constructor
  · intro hone
    have hunion : ((s.members ∪ t.members).card : ℚ) ≠ 0 := by
      intro hzero
      rw [exactSimilarity, hzero, div_zero] at hone
      exact zero_ne_one hone
    have hcard : (s.members ∩ t.members).card = (s.members ∪ t.members).card := by
      have := (div_eq_one_iff_eq hunion).1 hone
      exact_mod_cast this
    have hsame : s.members ∩ t.members = s.members ∪ t.members :=
      Finset.eq_of_subset_of_card_le (Finset.inter_subset_left.trans Finset.subset_union_left) hcard.ge
    have heq : s = t := by
      apply members_injective
      apply Finset.Subset.antisymm
      · exact Finset.subset_union_left.trans (hsame ▸ Finset.inter_subset_right)
      · exact Finset.subset_union_right.trans (hsame ▸ Finset.inter_subset_left)
    refine ⟨heq, ?_⟩
    rw [Bool.eq_false_iff]
    intro hempty
    apply hunion
    have hnone : s.members = ∅ := by
      apply Finset.eq_empty_of_forall_notMem
      intro m hm
      exact isEmpty_iff.1 hempty m (mem_members.1 hm)
    rw [← heq, hnone, Finset.union_self, Finset.card_empty, Nat.cast_zero]
  · rintro ⟨rfl, hs⟩
    exact exactSimilarity_self (nonempty_members hs)

section Sized
variable (hs : s.card < 2^50) (ht : t.card < 2^50)
include hs ht

private theorem union_lt : (s.members ∪ t.members).card < 2^51 := by
  rw [card_union]
  omega

theorem exactSimilarity_isApart : IsApart (s.exactSimilarity t) := by
  rcases Nat.eq_zero_or_pos (s.members ∪ t.members).card with hzero | hpos
  · rw [exactSimilarity, hzero, Nat.cast_zero, div_zero]
    exact ⟨.inl rfl, .inr (by norm_num)⟩
  · exact IsApart.ratio (Finset.card_le_card (Finset.inter_subset_left.trans Finset.subset_union_left)) hpos
      (union_lt hs ht)

/-- The similarity is the fraction, rounded once. -/
theorem similarity_isRounded : IsRounded (s.similarity t) (s.exactSimilarity t) := by
  by_cases hempty : s.isEmpty = true ∨ t.isEmpty = true
  · have hzero : s.exactSimilarity t = 0 := by
      rw [exactSimilarity_eq_zero_iff]
      intro m hm hm'
      rcases hempty with h | h
      · exact isEmpty_iff.1 h m hm
      · exact isEmpty_iff.1 h m hm'
    rw [hzero, similarity, if_pos (by rwa [Bool.or_eq_true])]
    exact ⟨isWhole_zero.finite, by rw [toRational_zero, nearest_zero]⟩
  · rw [not_or, Bool.not_eq_true, Bool.not_eq_true] at hempty
    rw [similarity_eq_div hempty.1 hempty.2]
    have hlim := union_lt hs ht
    exact quotient_isRounded (Finset.card_le_card (Finset.inter_subset_left.trans Finset.subset_union_left))
      (union_pos hempty.1) (by omega)

theorem toRational_similarity_isApart : IsApart (toRational (s.similarity t)) := by
  rw [(similarity_isRounded hs ht).toRational_eq]
  exact (exactSimilarity_isApart hs ht).nearest

theorem toRational_similarity_eq_zero_iff : toRational (s.similarity t) = 0 ↔ ∀ m ∈ s, m ∉ t := by
  rw [(similarity_isRounded hs ht).toRational_eq, (exactSimilarity_isApart hs ht).nearest_eq_zero_iff,
    exactSimilarity_eq_zero_iff]

theorem toRational_similarity_eq_one_iff : toRational (s.similarity t) = 1 ↔ s = t ∧ s.isEmpty = false := by
  rw [(similarity_isRounded hs ht).toRational_eq, (exactSimilarity_isApart hs ht).nearest_eq_one_iff,
    exactSimilarity_eq_one_iff]

theorem similarity_eq_zero_iff : s.similarity t = 0 ↔ ∀ m ∈ s, m ∉ t := by
  constructor
  · intro hzero
    rw [← toRational_similarity_eq_zero_iff hs ht, hzero, toRational_zero]
  · intro h
    by_cases hempty : (s.isEmpty || t.isEmpty) = true
    · rw [similarity, if_pos hempty]
    · rw [Bool.or_eq_true, not_or, Bool.not_eq_true, Bool.not_eq_true] at hempty
      have hinter : (s.members ∩ t.members).card = 0 := by
        have hexact := exactSimilarity_eq_zero_iff.2 h
        rw [exactSimilarity, div_eq_zero_iff, Nat.cast_eq_zero, Nat.cast_eq_zero] at hexact
        exact hexact.resolve_right (union_pos hempty.1).ne'
      have hd := ofNat_isWhole ((union_lt hs ht).trans (by norm_num))
      rw [similarity_eq_div hempty.1 hempty.2, hinter]
      apply zero_div_of_pos hd.finite
      rw [hd.toRational_eq]
      exact_mod_cast union_pos hempty.1

theorem similarity_eq_one_iff : s.similarity t = 1 ↔ s = t ∧ s.isEmpty = false := by
  rw [← toRational_similarity_eq_one_iff hs ht]
  constructor
  · intro hone
    rw [hone, isWhole_one.toRational_eq, Int.cast_one]
  · intro hone
    have hwhole : IsWhole (s.similarity t) 1 := ⟨(similarity_isRounded hs ht).finite, by rw [hone, Int.cast_one]⟩
    exact hwhole.eq isWhole_one one_ne_zero

/-- Between sets that share some members but not all, the similarity is neither of the bounds. -/
theorem similarity_between (hshared : ∃ m ∈ s, m ∈ t) (hne : s ≠ t) : 0 < s.similarity t ∧ s.similarity t < 1 := by
  obtain ⟨m, hm, hm'⟩ := hshared
  have hnan := (similarity_isRounded hs ht).finite.isNaN
  have hapart := toRational_similarity_isApart hs ht
  have hzero : toRational (s.similarity t) ≠ 0 := fun h =>
    (toRational_similarity_eq_zero_iff hs ht).1 h m hm hm'
  have hone : toRational (s.similarity t) ≠ 1 := fun h => hne ((toRational_similarity_eq_one_iff hs ht).1 h).1
  constructor
  · refine lt_iff.2 ⟨isWhole_zero.finite.isNaN, hnan, ?_⟩
    rw [toRational_zero]
    exact lt_of_le_of_ne hapart.nonneg hzero.symm
  · refine lt_iff.2 ⟨hnan, isWhole_one.finite.isNaN, ?_⟩
    rw [isWhole_one.toRational_eq, Int.cast_one]
    exact lt_of_le_of_ne hapart.le_one hone

end Sized

end MorphemeSet

/-- Of sets whose sizes are exact numbers the similarity is the same both ways, lies between 0 and 1, and is the number
of shared members by the number of all, rounded once: 0 if nothing is shared, 1 if the sets are the same and not empty,
and in between for all others. The number of all members is counted without running below zero or out of a machine word,
and is not zero where it divides. -/
theorem similarity_is_rounded_fraction (s t : MorphemeSet) (hs : s.card < 2^50) (ht : t.card < 2^50) :
    s.similarity t = t.similarity s ∧
    0 ≤ s.similarity t ∧ s.similarity t ≤ 1 ∧
    (s.similarity t = 0 ↔ ∀ m ∈ s, m ∉ t) ∧
    (s.similarity t = 1 ↔ s = t ∧ s.isEmpty = false) ∧
    ((∃ m ∈ s, m ∈ t) → s ≠ t → 0 < s.similarity t ∧ s.similarity t < 1) ∧
    IsRounded (s.similarity t) ((s.members ∩ t.members).card / (s.members ∪ t.members).card) ∧
    s.sharedCount t ≤ s.card + t.card ∧ s.card + t.card < UInt64.size ∧
    s.card + t.card - s.sharedCount t = (s.members ∪ t.members).card ∧
    (s.isEmpty = false → t.isEmpty = false → s.card + t.card - s.sharedCount t ≠ 0) := by
  have hrounded := MorphemeSet.similarity_isRounded hs ht
  have hapart := MorphemeSet.toRational_similarity_isApart hs ht
  have hshared := s.sharedCount_le_left t
  refine ⟨s.similarity_comm t, ?_, ?_, MorphemeSet.similarity_eq_zero_iff hs ht, MorphemeSet.similarity_eq_one_iff hs ht,
    MorphemeSet.similarity_between hs ht, hrounded, by omega, ?_, (s.card_union t).symm, fun hempty _ => ?_⟩
  · refine le_iff.2 ⟨isWhole_zero.finite.isNaN, hrounded.finite.isNaN, ?_⟩
    rw [toRational_zero]
    exact hapart.nonneg
  · refine le_iff.2 ⟨hrounded.finite.isNaN, isWhole_one.finite.isNaN, ?_⟩
    rw [isWhole_one.toRational_eq, Int.cast_one]
    exact hapart.le_one
  · have hsize : UInt64.size = 2^64 := rfl
    omega
  · rw [← MorphemeSet.card_union]
    exact (MorphemeSet.union_pos hempty).ne'

theorem similarity_is_rounded_fraction_third :
    let s := MorphemeSet.ofList ["start", "index"]
    let t := MorphemeSet.ofList ["end", "index"]
    s.card < 2^50 ∧ t.card < 2^50 ∧ s.isEmpty = false ∧ t.isEmpty = false ∧ (∃ m ∈ s, m ∈ t) ∧ s ≠ t ∧
      s.similarity t = t.similarity s ∧ s.similarity t ≠ 0 ∧ s.similarity t ≠ 1 ∧ s.similarity s = 1 ∧
      0 < s.similarity t ∧ s.similarity t < 1 ∧ IsRounded (s.similarity t) (1 / 3) ∧
      s.card + t.card - s.sharedCount t ≠ 0 := by
  intro s t
  have hs : s.card < 2^50 := by decide +kernel
  have ht : t.card < 2^50 := by decide +kernel
  have hnamed : s.isEmpty = false := by decide +kernel
  have hnamed' : t.isEmpty = false := by decide +kernel
  have hshared : ∃ m ∈ s, m ∈ t := ⟨"index", MorphemeSet.mem_ofList.2 (by simp), MorphemeSet.mem_ofList.2 (by simp)⟩
  have hne : s ≠ t := by decide +kernel
  obtain ⟨hcomm, -, -, hzero, hone, hbetween, hrounded, -, -, -, hcount⟩ := similarity_is_rounded_fraction s t hs ht
  obtain ⟨-, -, -, -, hself, -⟩ := similarity_is_rounded_fraction s s hs hs
  obtain ⟨m, hm, hm'⟩ := hshared
  have hinter : (s.members ∩ t.members).card = 1 := by decide +kernel
  have hunion : (s.members ∪ t.members).card = 3 := by decide +kernel
  rw [hinter, hunion] at hrounded
  exact ⟨hs, ht, hnamed, hnamed', ⟨m, hm, hm'⟩, hne, hcomm, fun h => hzero.1 h m hm hm', fun h => hne (hone.1 h).1,
    hself.2 ⟨rfl, hnamed⟩, (hbetween ⟨m, hm, hm'⟩ hne).1, (hbetween ⟨m, hm, hm'⟩ hne).2, by exact_mod_cast hrounded,
    hcount hnamed hnamed'⟩

end CallOrder
