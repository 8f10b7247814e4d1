import CallOrder.Proofs.Alignment
import CallOrder.Proofs.Jaccard

/-! Calls that pass the parameters' own names in another order. When the names have nothing in common, exactly
the positions that the order exchanges in pairs are reported. -/
namespace CallOrder
open Binary64

namespace MorphemeSet
variable {s : MorphemeSet}

/-- A set with members is wholly similar to itself. -/
theorem similarity_self (h : s.isEmpty = false) (hs : s.card < 2^64) : IsWhole (s.similarity s) 1 := by
  have hpos := card_pos h
  have hshared : s.sharedCount s = s.card := by rw [← card_inter, Finset.inter_self, card_members]
  have hsame : s.similarity s = Float.ofNat s.card / Float.ofNat s.card := by
    rw [similarity, h, hshared, if_neg (by decide)]
    dsimp only
    rw [Nat.add_sub_cancel]
  have hone : nearest s.card ≠ 0 := by
    have hmono := nearest_mono (show (1 : ℚ) ≤ s.card by exact_mod_cast hpos)
    rw [nearest_one] at hmono
    linarith
  have hr := ofNat_rounded (natCast_lt_limit (n := s.card) (by omega))
  have hq := (quotient_rounded hr hr le_rfl hpos).1
  rw [div_self hone] at hq
  rw [hsame]
  exact IsRounded.isWhole (by exact_mod_cast hq) (by norm_num)

end MorphemeSet

/-- The pairs of positions that a permutation exchanges, ascending. -/
def Pair.exchanged {n : ℕ} (σ : Equiv.Perm (Fin n)) : List (Pair n) :=
  (all n).filter fun p => σ p.first = p.second ∧ σ p.second = p.first

namespace Pair
variable {n : ℕ} {σ : Equiv.Perm (Fin n)} {p q : Pair n}

theorem mem_exchanged : p ∈ exchanged σ ↔ σ p.first = p.second ∧ σ p.second = p.first := by
  rw [exchanged, List.mem_filter, decide_eq_true_iff]
  exact and_iff_right (mem_all p)

theorem exchanged_ascending (σ : Equiv.Perm (Fin n)) : ((exchanged σ).map positions).Pairwise Precedes :=
  ((all_ascending n).sublist ((List.filter_sublist).map positions))

/-- A position is exchanged with one other at most. -/
theorem exchanged_unique (hp : p ∈ exchanged σ) (hq : q ∈ exchanged σ) (h : Meets q.positions p.positions) : q = p := by
  rw [mem_exchanged] at hp hq
  obtain ⟨hp₁, hp₂⟩ := hp
  obtain ⟨hq₁, hq₂⟩ := hq
  simp only [Meets, positions, Nat.add_right_cancel_iff, Fin.val_inj] at h
  rcases h with h | h | h | h
  · exact Pair.ext h (by rw [← hp₁, ← hq₁, h])
  · have hlt := q.first_lt_second
    rw [← hq₁, h, hp₂] at hlt
    exact absurd p.first_lt_second hlt.not_gt
  · have hlt := q.first_lt_second
    rw [← hq₂, h, hp₁] at hlt
    exact absurd p.first_lt_second hlt.not_gt
  · exact Pair.ext (by rw [← hp₂, ← hq₂, h]) h

end Pair

/-- The arguments are the parameters in the order of a permutation, and no two parameters have anything in
common. -/
structure Alignment.IsPermuted {n : ℕ} (a : Alignment) (sets : Fin n → MorphemeSet) (σ : Equiv.Perm (Fin n)) : Prop where
  parameters : a.parameters = List.ofFn sets
  arguments : a.arguments = List.ofFn (sets ∘ σ)
  named : ∀ i, (sets i).isEmpty = false
  apart : ∀ i j, i ≠ j → ∀ m ∈ sets i, m ∉ sets j
  sized : ∀ i, (sets i).card < 2^64

namespace Alignment.IsPermuted
variable {n : ℕ} {a : Alignment} {sets : Fin n → MorphemeSet} {σ : Equiv.Perm (Fin n)}

theorem range (h : a.IsPermuted sets σ) : a.range = n := by
  rw [Alignment.range, h.parameters, h.arguments, List.length_ofFn, List.length_ofFn, Nat.min_self]

theorem parameter (h : a.IsPermuted sets σ) (i : Fin n) : a.parameter (i + 1) = sets i := by
  simp [Alignment.parameter, h.parameters]

theorem argument (h : a.IsPermuted sets σ) (i : Fin n) : a.argument (i + 1) = sets (σ i) := by
  simp [Alignment.argument, h.arguments]

theorem score (h : a.IsPermuted sets σ) (i j : Fin n) :
    IsWhole (a.score (i + 1) (j + 1)) (if i = σ j then 1 else 0) := by
  rw [Alignment.score, h.parameter, h.argument]
  split
  · rename_i heq
    rw [← heq]
    exact MorphemeSet.similarity_self (h.named i) (h.sized i)
  · rename_i hne
    exact MorphemeSet.similarity_of_disjoint (h.apart i _ hne)

/-- The margin counts the two places where the arguments belong, less the arguments that stand where they belong. -/
theorem margin (h : a.IsPermuted sets σ) (p : Pair n) :
    IsWhole (a.margin p.positions)
      (((if p.first = σ p.second then 1 else 0) + (if p.second = σ p.first then 1 else 0)) -
        ((if p.first = σ p.first then 1 else 0) + (if p.second = σ p.second then 1 else 0))) := by
  refine ((h.score _ _).add (h.score _ _) ?_).sub ((h.score _ _).add (h.score _ _) ?_) ?_
  · split_ifs <;> norm_num
  · split_ifs <;> norm_num
  · split_ifs <;> norm_num

theorem margin_of_exchanged (h : a.IsPermuted sets σ) {p : Pair n} (hp : p ∈ Pair.exchanged σ) :
    a.margin p.positions = 2 := by
  obtain ⟨h₁, h₂⟩ := Pair.mem_exchanged.1 hp
  have hne := p.first_lt_second.ne
  have hm := h.margin p
  rw [h₁, h₂, if_pos rfl, if_pos rfl, if_neg hne, if_neg hne.symm] at hm
  exact hm.eq isWhole_two (by norm_num)

/-- A margin above 1 takes both places where the arguments belong. -/
theorem exchanged_of_one_lt (h : a.IsPermuted sets σ) {p : Pair n} (hp : 1 < a.margin p.positions) :
    p ∈ Pair.exchanged σ := by
  have hm := h.margin p
  have hlt := (lt_iff.1 hp).2.2
  rw [isWhole_one.toRational_eq, hm.toRational_eq, Int.cast_lt] at hlt
  rw [Pair.mem_exchanged]
  by_cases h₁ : p.first = σ p.second
  · by_cases h₂ : p.second = σ p.first
    · exact ⟨h₂.symm, h₁.symm⟩
    · rw [if_pos h₁, if_neg h₂] at hlt
      split_ifs at hlt <;> omega
  · rw [if_neg h₁] at hlt
    split_ifs at hlt <;> omega

theorem isEligible_iff (h : a.IsPermuted sets σ) {t : Float} (hlow : 1 < t) (hhigh : t ≤ 2) (b : ℕ × ℕ) :
    a.IsEligible t b ↔ b ∈ (Pair.exchanged σ).map Pair.positions := by
  rw [List.mem_map]
  constructor
  · intro hb
    obtain ⟨p, rfl⟩ := (isPair_iff h.range.symm).1 hb.toIsPair
    have hone := lt_iff.1 hlow
    have hgains := le_iff.1 hb.gains
    exact ⟨p, h.exchanged_of_one_lt (lt_iff.2 ⟨hone.1, hgains.2.1, hone.2.2.trans_le hgains.2.2⟩), rfl⟩
  · rintro ⟨p, hp, rfl⟩
    refine ⟨(isPair_iff h.range.symm).2 ⟨p, rfl⟩, fun hzero => ?_, ?_⟩
    · have hs := h.score p.first p.second
      rw [if_pos (Pair.mem_exchanged.1 hp).2.symm] at hs
      have hvalue := (beq_iff.1 hzero.1).2.2
      rw [toRational_zero, Pair.positions, hs.toRational_eq] at hvalue
      norm_num at hvalue
    · rw [h.margin_of_exchanged hp]
      exact hhigh

/-- No exchanged pair stands in the way of another, so each is selected. -/
theorem selected_eq (h : a.IsPermuted sets σ) {t : Float} (hlow : 1 < t) (hhigh : t ≤ 2) :
    a.selected t = (Pair.exchanged σ).map Pair.positions := by
  refine (selected_ascending t).eq_of_mem_iff (Pair.exchanged_ascending σ) fun b => ?_
  have hstable := selected_stable (a := a) t
  constructor
  · intro hb
    exact (h.isEligible_iff hlow hhigh b).1 (hstable.eligible_of_chosen hb)
  · intro hb
    refine (hstable b).2 ⟨(h.isEligible_iff hlow hhigh b).2 hb, fun c hc hcb hmeets => ?_⟩
    obtain ⟨p, hp, rfl⟩ := List.mem_map.1 hb
    obtain ⟨q, hq, rfl⟩ := List.mem_map.1 ((h.isEligible_iff hlow hhigh c).1 (hstable.eligible_of_chosen hc))
    rw [Pair.exchanged_unique hp hq hmeets] at hcb
    exact irrefl (r := a.Outranks) _ hcb

theorem swapAt_of_exchanged (h : a.IsPermuted sets σ) {p : Pair n} (hp : p ∈ Pair.exchanged σ) :
    a.swapAt p.positions = ⟨p.first + 1, p.second + 1, sets p.second, sets p.first, 2⟩ := by
  obtain ⟨h₁, h₂⟩ := Pair.mem_exchanged.1 hp
  have hmargin := h.margin_of_exchanged hp
  have hfirst := h.argument p.first
  have hsecond := h.argument p.second
  rw [h₁] at hfirst
  rw [h₂] at hsecond
  simp only [swapAt, hmargin]
  simp only [Pair.positions, hfirst, hsecond]

end Alignment.IsPermuted

/-- When a call passes the names of the parameters in another order, and the names have nothing in common, exactly
the positions that are exchanged in pairs are reported, each with the full margin. The sizes of the sets are machine
words. -/
theorem permuted_arguments_reported (signature : Signature) (site : CallSite) (policy : MorphemePolicy)
    (names : List String) (σ : Equiv.Perm (Fin names.length)) (t : Float)
    (hnames : signature.parameters = some names)
    (hnamed : ∀ i, (policy.morphemes (names.get i)).isEmpty = false)
    (hapart : ∀ i j, i ≠ j → ∀ m ∈ policy.morphemes (names.get i), m ∉ policy.morphemes (names.get j))
    (hsized : ∀ i, (policy.morphemes (names.get i)).card < 2^64)
    (hpermuted : site.arguments.map (fun argument => argument.morphemes policy) =
      List.ofFn fun k => policy.morphemes (names.get (σ k)))
    (hlow : 1 < t) (hhigh : t ≤ 2) :
    let found := search signature site t policy
    found.swaps = (Pair.exchanged σ).map (fun p =>
      ⟨p.first + 1, p.second + 1, policy.morphemes (names.get p.second), policy.morphemes (names.get p.first), 2⟩) ∧
    found.positions.Pairwise Precedes ∧
    ∀ k, σ k = k ∨ σ (σ k) ≠ k → ∀ swap ∈ found.swaps, swap.touches (k + 1) = false := by
  intro found
  have h : (signature.align site policy).IsPermuted (fun k => policy.morphemes (names.get k)) σ := by
    refine ⟨?_, hpermuted, hnamed, hapart, hsized⟩
    calc
      (signature.parameters.getD []).map policy.morphemes = (List.ofFn names.get).map policy.morphemes := by
        rw [hnames, Option.getD_some, List.ofFn_get]
      _ = _ := List.map_ofFn
  have hswaps : found.swaps = (Pair.exchanged σ).map (fun p =>
      ⟨p.first + 1, p.second + 1, policy.morphemes (names.get p.second), policy.morphemes (names.get p.first), 2⟩) := by
    rw [search_swaps, h.selected_eq hlow hhigh, List.map_map]
    exact List.map_congr_left fun p hp => h.swapAt_of_exchanged hp
  have hpositions : found.positions = (Pair.exchanged σ).map Pair.positions := by
    rw [Findings.positions, hswaps, List.map_map]
    rfl
  refine ⟨hswaps, hpositions ▸ Pair.exchanged_ascending σ, fun k hk swap hswap => ?_⟩
  rw [hswaps] at hswap
  obtain ⟨p, hp, rfl⟩ := List.mem_map.1 hswap
  obtain ⟨h₁, h₂⟩ := Pair.mem_exchanged.1 hp
  have hne := p.first_lt_second.ne
  rw [Bool.eq_false_iff, ne_eq, Swap.touches, Bool.or_eq_true, beq_iff_eq, beq_iff_eq, Nat.add_right_cancel_iff,
    Nat.add_right_cancel_iff, Fin.val_inj, Fin.val_inj]
  rintro (rfl | rfl)
  · rw [h₁, h₂] at hk
    exact hk.elim hne.symm (fun h => h rfl)
  · rw [h₂, h₁] at hk
    exact hk.elim hne (fun h => h rfl)

theorem permuted_arguments_reported_six :
    let names := ["width", "height", "depth", "alpha", "beta", "gamma"]
    let signature : Signature := { parameters := some names }
    let site := CallSite.ofNames ["height", "theWidth", "DEPTH", "beta", "gamma_2", "alpha"]
    let policy : MorphemePolicy := {}
    let σ : Equiv.Perm (Fin names.length) := (Equiv.swap 0 1 * Equiv.swap 3 4 * Equiv.swap 4 5 : Equiv.Perm (Fin 6))
    let found := search signature site 1.2 policy
    signature.parameters = some names ∧
    (∀ i, (policy.morphemes (names.get i)).isEmpty = false) ∧
    (∀ i j, i ≠ j → ∀ m ∈ policy.morphemes (names.get i), m ∉ policy.morphemes (names.get j)) ∧
    (∀ i, (policy.morphemes (names.get i)).card < 2^64) ∧
    site.arguments.map (fun argument => argument.morphemes policy) =
      (List.ofFn fun k => policy.morphemes (names.get (σ k))) ∧
    (1 : Float) < 1.2 ∧ (1.2 : Float) ≤ 2 ∧
    found.swaps = (Pair.exchanged σ).map (fun p =>
      ⟨p.first + 1, p.second + 1, policy.morphemes (names.get p.second), policy.morphemes (names.get p.first), 2⟩) ∧
    (Pair.exchanged σ).map Pair.positions = [(1, 2)] ∧
    ∀ swap ∈ found.swaps, swap.touches 3 = false ∧ swap.touches 4 = false := by
  intro names signature site policy σ found
  have hnamed : ∀ i, (policy.morphemes (names.get i)).isEmpty = false := by decide +kernel
  have hapart : ∀ i j, i ≠ j → ∀ m ∈ policy.morphemes (names.get i), m ∉ policy.morphemes (names.get j) := by
    change ∀ i j, i ≠ j → ∀ m ∈ (policy.morphemes (names.get i)).toList, m ∉ (policy.morphemes (names.get j)).toList
    decide +kernel
  have hsized : ∀ i, (policy.morphemes (names.get i)).card < 2^64 := by decide +kernel
  have hpermuted : site.arguments.map (fun argument => argument.morphemes policy) =
      List.ofFn fun k => policy.morphemes (names.get (σ k)) := by decide +kernel
  have hlow : (1 : Float) < 1.2 := by decide +kernel
  have hhigh : (1.2 : Float) ≤ 2 := by decide +kernel
  obtain ⟨hswaps, -, huntouched⟩ :=
    permuted_arguments_reported signature site policy names σ 1.2 rfl hnamed hapart hsized hpermuted hlow hhigh
  refine ⟨rfl, hnamed, hapart, hsized, hpermuted, hlow, hhigh, hswaps, by decide +kernel, fun swap hswap => ⟨?_, ?_⟩⟩
  · exact huntouched (2 : Fin 6) (by decide) swap hswap
  · exact huntouched (3 : Fin 6) (by decide) swap hswap

end CallOrder
