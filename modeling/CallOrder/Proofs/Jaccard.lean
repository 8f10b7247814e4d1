import CallOrder.Proofs.Binary64.Bounds
import CallOrder.Similarity

/-! The Jaccard similarity as a fraction: its triangle inequality, and how close the number that is
computed for it comes. -/
namespace CallOrder
open Binary64

namespace MorphemeSet

def members (s : MorphemeSet) : Finset String := s.toList.toFinset

/-- The number of shared members, of those that there are together. Two empty sets make 0. -/
def exactSimilarity (s t : MorphemeSet) : ℚ := (s.members ∩ t.members).card / (s.members ∪ t.members).card

private theorem nodup_toList (s : MorphemeSet) : s.toList.Nodup := by
  refine s.ascending.imp fun {x y} h heq => ?_
  rw [heq] at h
  exact String.lt_irrefl _ h

theorem card_members (s : MorphemeSet) : s.members.card = s.card :=
  List.toFinset_card_of_nodup s.nodup_toList

theorem card_inter (s t : MorphemeSet) : (s.members ∩ t.members).card = s.sharedCount t := by
  have hn : (s.toList.filter fun m => t.toList.contains m).Nodup := s.nodup_toList.filter _
  rw [sharedCount, List.countP_eq_length_filter, ← List.toFinset_card_of_nodup hn]
  congr 1
  ext m
  simp [members]

theorem sharedCount_le_left (s t : MorphemeSet) : s.sharedCount t ≤ s.card := List.countP_le_length

theorem sharedCount_le_right (s t : MorphemeSet) : s.sharedCount t ≤ t.card := by
  rw [← card_inter, ← card_members t]
  exact Finset.card_le_card Finset.inter_subset_right

theorem sharedCount_comm (s t : MorphemeSet) : s.sharedCount t = t.sharedCount s := by
  rw [← card_inter, ← card_inter, Finset.inter_comm]

/-- A set is as similar to another as that is to it. -/
theorem similarity_comm (s t : MorphemeSet) : s.similarity t = t.similarity s := by
  rw [similarity, similarity, Bool.or_comm, sharedCount_comm, Nat.add_comm]

theorem card_pos {s : MorphemeSet} (h : s.isEmpty = false) : 0 < s.card :=
  List.length_pos_iff.2 (List.isEmpty_eq_false_iff.1 h)

theorem card_union (s t : MorphemeSet) : (s.members ∪ t.members).card = s.card + t.card - s.sharedCount t := by
  rw [Finset.card_union, card_members, card_members, card_inter]

theorem exactSimilarity_nonneg (s t : MorphemeSet) : 0 ≤ s.exactSimilarity t := by
  unfold exactSimilarity
  positivity

theorem exactSimilarity_self {s : MorphemeSet} (h : s.members.Nonempty) : s.exactSimilarity s = 1 := by
  rw [exactSimilarity, Finset.inter_self, Finset.union_self]
  exact div_self (by exact_mod_cast h.card_pos.ne')

theorem exactSimilarity_of_empty {s : MorphemeSet} (h : s.members = ∅) (t : MorphemeSet) :
    s.exactSimilarity t = 0 ∧ t.exactSimilarity s = 0 := by
  simp [exactSimilarity, h]

end MorphemeSet

/-- A fraction up to 1 does not fall when the same is added above and below. -/
private theorem div_le_add_div {i u n : ℚ} (hi : 0 ≤ i) (hiu : i ≤ u) (hun : u ≤ n) (hn : 0 < n) :
    i / u ≤ (i + (n - u)) / n := by
  rcases (hi.trans hiu).eq_or_lt with hu | hu
  · rw [← hu, div_zero]
    exact div_nonneg (by linarith) hn.le
  · rw [div_le_div_iff₀ hu hn]
    nlinarith

private theorem card_add_card_le (A X B : Finset String) :
    (A ∩ X).card + (A \ (X ∪ B)).card + ((X ∩ B).card + (B \ (A ∪ X)).card) ≤ (A ∪ B).card + (A ∩ B ∩ X).card := by
  have hA : (A ∩ X).card + (A \ (X ∪ B)).card = (A \ B).card + (A ∩ B ∩ X).card := by
    have hin : (A ∩ X).card = ((A ∩ X) \ B).card + (A ∩ B ∩ X).card := by
      rw [← Finset.card_sdiff_add_card_inter (A ∩ X) B, Finset.inter_right_comm]
    have hout : (A \ B).card = (A \ (X ∪ B)).card + ((A ∩ X) \ B).card := by
      have hsdiff : (A \ B) \ X = A \ (X ∪ B) := by grind
      have hinter : (A \ B) ∩ X = (A ∩ X) \ B := by grind
      rw [← Finset.card_sdiff_add_card_inter (A \ B) X, hsdiff, hinter]
    omega
  have hB : (X ∩ B).card + (B \ (A ∪ X)).card ≤ B.card := by
    rw [← Finset.card_inter_add_card_sdiff B X, Finset.inter_comm X B]
    refine Nat.add_le_add_left (Finset.card_le_card ?_) _
    exact Finset.sdiff_subset_sdiff subset_rfl Finset.subset_union_right
  have hAB : (A \ B).card + B.card = (A ∪ B).card := Finset.card_sdiff_add_card A B
  omega

private theorem card_inter_div_le (A X B : Finset String) (hn : 0 < (A ∪ B ∪ X).card) :
    ((A ∩ X).card / (A ∪ X).card : ℚ) ≤ ((A ∩ X).card + (B \ (A ∪ X)).card) / (A ∪ B ∪ X).card := by
  have hU : (A ∪ B ∪ X).card = (B \ (A ∪ X)).card + (A ∪ X).card := by
    rw [Finset.card_sdiff_add_card]
    congr 1
    grind
  have hle : (A ∩ X).card ≤ (A ∪ X).card := Finset.card_le_card (by grind)
  have hq : ((A ∪ B ∪ X).card : ℚ) = (B \ (A ∪ X)).card + (A ∪ X).card := by exact_mod_cast hU
  have h := div_le_add_div (n := (A ∪ B ∪ X).card) (Nat.cast_nonneg _) (Nat.cast_le.2 hle) (by
    rw [hq]
    exact le_add_of_nonneg_left (Nat.cast_nonneg _)) (by exact_mod_cast hn)
  rwa [show ((A ∪ B ∪ X).card : ℚ) - (A ∪ X).card = (B \ (A ∪ X)).card by rw [hq]; ring] at h

private theorem card_triple_div_le (A X B : Finset String) :
    ((A ∩ B ∩ X).card / (A ∪ B ∪ X).card : ℚ) ≤ (A ∩ B).card / (A ∪ B).card := by
  rcases Nat.eq_zero_or_pos (A ∪ B).card with h | h
  · have hz : (A ∩ B ∩ X).card = 0 := by
      rw [Finset.card_eq_zero] at h ⊢
      grind
    rw [hz, h]
    simp
  · have hinter : (A ∩ B ∩ X).card ≤ (A ∩ B).card := Finset.card_le_card Finset.inter_subset_left
    have hunion : (A ∪ B).card ≤ (A ∪ B ∪ X).card := Finset.card_le_card Finset.subset_union_left
    exact div_le_div₀ (Nat.cast_nonneg _) (by exact_mod_cast hinter) (by exact_mod_cast h) (by exact_mod_cast hunion)

/-- Two sets are at least as alike as a third one that both resemble makes them. -/
theorem MorphemeSet.exactSimilarity_triangle (s x t : MorphemeSet) :
    s.exactSimilarity x + x.exactSimilarity t ≤ 1 + s.exactSimilarity t := by
  obtain ⟨A, hA⟩ : ∃ A, A = s.members := ⟨_, rfl⟩
  obtain ⟨X, hX⟩ : ∃ X, X = x.members := ⟨_, rfl⟩
  obtain ⟨B, hB⟩ : ∃ B, B = t.members := ⟨_, rfl⟩
  simp only [exactSimilarity, ← hA, ← hX, ← hB]
  rcases Nat.eq_zero_or_pos (A ∪ B ∪ X).card with hn | hn
  · have hx : X = ∅ := by
      rw [Finset.card_eq_zero] at hn
      grind
    rw [hx]
    simp only [Finset.inter_empty, Finset.empty_inter, Finset.card_empty, Nat.cast_zero, zero_div, add_zero]
    positivity
  -- Both fractions are brought over the union of all three sets, where their numerators can be counted.
  · have hleft := card_inter_div_le A X B hn
    have hright := card_inter_div_le B X A (by rwa [Finset.union_comm B A])
    have hcount : ((A ∩ X).card + (A \ (X ∪ B)).card + ((X ∩ B).card + (B \ (A ∪ X)).card) : ℚ) ≤
        (A ∪ B).card + (A ∩ B ∩ X).card := by exact_mod_cast card_add_card_le A X B
    have hunion : ((A ∪ B).card : ℚ) ≤ (A ∪ B ∪ X).card := by
      exact_mod_cast Finset.card_le_card Finset.subset_union_left
    have hpos : (0 : ℚ) < (A ∪ B ∪ X).card := by exact_mod_cast hn
    rw [Finset.union_comm B A, Finset.inter_comm B X, Finset.union_comm B X] at hright
    calc
      _ ≤ ((A ∩ X).card + (B \ (A ∪ X)).card : ℚ) / (A ∪ B ∪ X).card +
          ((X ∩ B).card + (A \ (X ∪ B)).card) / (A ∪ B ∪ X).card := add_le_add hleft hright
      _ ≤ ((A ∪ B ∪ X).card + (A ∩ B ∩ X).card) / (A ∪ B ∪ X).card := by
        rw [← add_div]
        exact div_le_div_of_nonneg_right (by linarith) hpos.le
      _ = 1 + (A ∩ B ∩ X).card / (A ∪ B ∪ X).card := by rw [add_div, div_self hpos.ne']
      _ ≤ _ := by linarith [card_triple_div_le A X B]

/-- A number within bounds that came out of exact arithmetic on a rational: it stays near. -/
structure Approximates (x : Float) (q : ℚ) (bound : ℕ) (error : ℚ) : Prop extends IsWithin x bound where
  near : |toRational x - q| ≤ error

/-- The quotient of two sizes, as the arithmetic computes it. -/
private theorem quotient_approximates {i u : ℕ} (hiu : i ≤ u) (hu : 0 < u) (hlim : u < 2^65) :
    Approximates (Float.ofNat i / Float.ofNat u) (i / u) 1 (2^(-51 : ℤ)) := by
  obtain ⟨hq, h0, h1⟩ := quotient_rounded (ofNat_rounded (natCast_lt_limit (hiu.trans_lt hlim)))
    (ofNat_rounded (natCast_lt_limit hlim)) hiu hu
  have hround : |nearest (nearest i / nearest u) - nearest i / nearest u| ≤ (2 : ℚ)^(-53 : ℤ) := by
    have h := abs_nearest_sub_le (x := nearest i / nearest u) (n := 0) (by rwa [abs_of_nonneg h0, zpow_zero])
      (by norm_num)
    simpa using h
  have hle : (i / u : ℚ) ≤ 1 := div_le_one_of_le₀ (by exact_mod_cast hiu) (Nat.cast_nonneg u)
  have hratio := abs_div_sub_div_le (Nat.cast_nonneg i) (by exact_mod_cast hu)
    (by positivity) (by norm_num) (abs_nearest_natCast_sub_le i) (abs_nearest_natCast_sub_le u)
  refine ⟨hq.isWithin h0 (by exact_mod_cast h1) (by norm_num), ?_⟩
  rw [hq.toRational_eq]
  calc
    _ ≤ |nearest (nearest i / nearest u) - nearest i / nearest u| + |nearest i / nearest u - (i / u : ℚ)| :=
      abs_sub_le _ _ _
    _ ≤ 2^(-53 : ℤ) + 3 * 2^(-53 : ℤ) :=
      add_le_add hround (hratio.trans (mul_le_of_le_one_right (by positivity) hle))
    _ = 2^(-51 : ℤ) := by norm_num

theorem toRational_zero : toRational 0 = 0 := by rw [isWhole_zero.toRational_eq, Int.cast_zero]

theorem zero_isWithin (n : ℕ) : IsWithin 0 n :=
  ⟨isWhole_zero.finite, toRational_zero.ge, by rw [toRational_zero]; positivity⟩

private theorem zero_approximates : Approximates 0 0 1 (2^(-51 : ℤ)) := by
  refine ⟨zero_isWithin 1, ?_⟩
  rw [toRational_zero, sub_zero, abs_zero]
  positivity

/-- The computed similarity of two sets, as long as their sizes are machine words. -/
theorem MorphemeSet.similarity_approximates {s t : MorphemeSet} (hs : s.card < 2^64) (ht : t.card < 2^64) :
    Approximates (s.similarity t) (s.exactSimilarity t) 1 (2^(-51 : ℤ)) := by
  have hshared := s.sharedCount_le_left t
  have hshared' := s.sharedCount_le_right t
  rw [exactSimilarity, card_inter, card_union, similarity]
  split
  · rename_i h
    have hzero : s.sharedCount t = 0 := by
      rw [Bool.or_eq_true, isEmpty, isEmpty, List.isEmpty_iff, List.isEmpty_iff] at h
      rcases h with h | h
      · exact Nat.eq_zero_of_le_zero (hshared.trans (by rw [card, h]; rfl))
      · exact Nat.eq_zero_of_le_zero (hshared'.trans (by rw [card, h]; rfl))
    rw [hzero, Nat.cast_zero, zero_div]
    exact zero_approximates
  · rename_i h
    rw [Bool.or_eq_true, not_or, Bool.not_eq_true] at h
    have hpos := card_pos h.1
    exact quotient_approximates (by omega) (by omega) (by omega)

/-- Sets without a common member are not similar at all. -/
theorem MorphemeSet.similarity_of_disjoint {s t : MorphemeSet} (h : ∀ m ∈ s, m ∉ t) : IsWhole (s.similarity t) 0 := by
  have hshared : s.sharedCount t = 0 := by
    rw [sharedCount, List.countP_eq_zero]
    intro m hm
    rw [List.contains_iff_mem]
    exact h m hm
  rw [similarity, hshared]
  split
  · exact isWhole_zero
  · rename_i hne
    rw [Bool.or_eq_true, not_or, Bool.not_eq_true] at hne
    have hpos := card_pos hne.1
    exact zero_div_isWhole (by omega)

theorem Approximates.add_rounded {x y : Float} {p q e f : ℚ} (hx : Approximates x p 1 e) (hy : Approximates y q 1 f) :
    IsRounded (x + y) (toRational x + toRational y) :=
  hx.toIsWithin.add_rounded hy.toIsWithin (by norm_num)

/-- A sum of two numbers up to 1. -/
theorem Approximates.add {x y : Float} {p q e f : ℚ} (hx : Approximates x p 1 e) (hy : Approximates y q 1 f) :
    Approximates (x + y) (p + q) 2 (e + f + 2^(-52 : ℤ)) := by
  have h0 : 0 ≤ toRational x + toRational y := add_nonneg hx.nonneg hy.nonneg
  have h2 : toRational x + toRational y ≤ 2 := by
    have hxle := hx.le
    have hyle := hy.le
    push_cast at hxle hyle
    linarith
  have hround := abs_nearest_sub_le (x := toRational x + toRational y) (n := 1)
    (by rwa [abs_of_nonneg h0, zpow_one]) (by norm_num)
  refine ⟨hx.toIsWithin.add hy.toIsWithin (by norm_num), ?_⟩
  rw [(hx.add_rounded hy).toRational_eq]
  have hxp := abs_le.1 hx.near
  have hyq := abs_le.1 hy.near
  have hr' := abs_le.1 hround
  norm_num at hr' ⊢
  exact abs_le.2 ⟨by linarith, by linarith⟩

/-- A difference of two numbers up to 2. -/
theorem Approximates.sub {x y : Float} {p q e f : ℚ} (hx : Approximates x p 2 e) (hy : Approximates y q 2 f) :
    IsRounded (x - y) (toRational x - toRational y) ∧ |toRational (x - y) - (p - q)| ≤ e + f + 2^(-52 : ℤ) := by
  have hr := (hx.toIsWithin.sub hy.toIsWithin (by norm_num) (by norm_num)).1
  have habs : |toRational x - toRational y| ≤ 2 := by
    have hxle := hx.le
    have hyle := hy.le
    push_cast at hxle hyle
    exact abs_le.2 ⟨by linarith [hx.nonneg], by linarith [hy.nonneg]⟩
  have hround := abs_nearest_sub_le (x := toRational x - toRational y) (n := 1) (by rwa [zpow_one]) (by norm_num)
  refine ⟨hr, ?_⟩
  rw [hr.toRational_eq]
  have hxp := abs_le.1 hx.near
  have hyq := abs_le.1 hy.near
  have hr' := abs_le.1 hround
  norm_num at hr' ⊢
  exact abs_le.2 ⟨by linarith, by linarith⟩

end CallOrder
