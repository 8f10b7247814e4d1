import CallOrder.Proofs.Alignment
import CallOrder.Proofs.Jaccard

/-! Calls that fall into two groups of positions. When the parameters of neither group have anything in common with
the arguments of the other, no pair across the groups is related, so each group is searched as if the other were not
there. -/
namespace CallOrder
open Binary64

/-- The same swap, so many positions further on. -/
def Swap.shift (n : ℕ) (swap : Swap) : Swap := { swap with first := swap.first + n, second := swap.second + n }

namespace Alignment

/-- One call with the positions of two, those of the second behind those of the first. -/
def append (a b : Alignment) : Alignment := ⟨a.parameters ++ b.parameters, a.arguments ++ b.arguments⟩

/-- A pair of positions, so many positions further on. -/
def shiftPair (n : ℕ) (p : ℕ × ℕ) : ℕ × ℕ := (p.1 + n, p.2 + n)

/-- Two calls of which the first passes an argument for each parameter, and of which neither has a parameter that
shares a morpheme with an argument of the other. -/
structure AreIndependent (a b : Alignment) : Prop where
  full : a.parameters.length = a.arguments.length
  apart : ∀ s ∈ a.parameters, ∀ t ∈ b.arguments, ∀ m ∈ s, m ∉ t
  apart_back : ∀ s ∈ b.parameters, ∀ t ∈ a.arguments, ∀ m ∈ s, m ∉ t

private theorem getD_apart {sets others : List MorphemeSet} (h : ∀ s ∈ sets, ∀ t ∈ others, ∀ m ∈ s, m ∉ t) (i j : ℕ) :
    ∀ m ∈ sets.getD i ∅, m ∉ others.getD j ∅ := by
  rw [List.getD_eq_getElem?_getD, List.getD_eq_getElem?_getD]
  cases hi : sets[i]? with
  | none => exact fun m hm => absurd hm List.not_mem_nil
  | some s =>
    cases hj : others[j]? with
    | none => exact fun m _ => List.not_mem_nil
    | some t => exact h s (List.mem_of_getElem? hi) t (List.mem_of_getElem? hj)

namespace AreIndependent
variable {a b : Alignment} {i j : ℕ} {p q : ℕ × ℕ} {t : Float}

theorem length_parameters (h : a.AreIndependent b) : a.parameters.length = a.range := by
  rw [range, h.full, Nat.min_self]

theorem length_arguments (h : a.AreIndependent b) : a.arguments.length = a.range := by
  rw [range, h.full, Nat.min_self]

theorem range_append (h : a.AreIndependent b) : (a.append b).range = a.range + b.range := by
  have hp := h.length_parameters
  have ha := h.length_arguments
  simp only [range, append, List.length_append] at hp ha ⊢
  omega

theorem parameter_left (h : a.AreIndependent b) (hi : 1 ≤ i) (hle : i ≤ a.range) :
    (a.append b).parameter i = a.parameter i :=
  List.getD_append _ _ _ _ (by rw [h.length_parameters]; omega)

theorem argument_left (h : a.AreIndependent b) (hi : 1 ≤ i) (hle : i ≤ a.range) :
    (a.append b).argument i = a.argument i :=
  List.getD_append _ _ _ _ (by rw [h.length_arguments]; omega)

theorem parameter_right (h : a.AreIndependent b) (hi : 1 ≤ i) :
    (a.append b).parameter (i + a.range) = b.parameter i := by
  rw [parameter, append, List.getD_append_right _ _ _ _ (by rw [h.length_parameters]; omega), h.length_parameters,
    show i + a.range - 1 - a.range = i - 1 by omega, parameter]

theorem argument_right (h : a.AreIndependent b) (hi : 1 ≤ i) :
    (a.append b).argument (i + a.range) = b.argument i := by
  rw [argument, append, List.getD_append_right _ _ _ _ (by rw [h.length_arguments]; omega), h.length_arguments,
    show i + a.range - 1 - a.range = i - 1 by omega, argument]

/-- Across the groups nothing is similar. -/
theorem score_across (h : a.AreIndependent b) (hi : 1 ≤ i) (hle : i ≤ a.range) (hj : 1 ≤ j) :
    IsWhole ((a.append b).score i (j + a.range)) 0 ∧ IsWhole ((a.append b).score (j + a.range) i) 0 := by
  constructor
  · rw [score, h.parameter_left hi hle, h.argument_right hj]
    exact MorphemeSet.similarity_of_disjoint (getD_apart h.apart _ _)
  · rw [score, h.parameter_right hj, h.argument_left hi hle]
    exact MorphemeSet.similarity_of_disjoint (getD_apart h.apart_back _ _)

theorem score_left (h : a.AreIndependent b) (hi : 1 ≤ i) (hi' : i ≤ a.range) (hj : 1 ≤ j) (hj' : j ≤ a.range) :
    (a.append b).score i j = a.score i j := by
  rw [score, h.parameter_left hi hi', h.argument_left hj hj', score]

theorem score_right (h : a.AreIndependent b) (hi : 1 ≤ i) (hj : 1 ≤ j) :
    (a.append b).score (i + a.range) (j + a.range) = b.score i j := by
  rw [score, h.parameter_right hi, h.argument_right hj, score]

theorem margin_left (h : a.AreIndependent b) (hp : a.IsPair p) : (a.append b).margin p = a.margin p := by
  obtain ⟨h₁, hlt, h₂⟩ := hp
  rw [margin, margin, h.score_left h₁ (by omega) (by omega) h₂, h.score_left (by omega) h₂ h₁ (by omega),
    h.score_left h₁ (by omega) h₁ (by omega), h.score_left (by omega) h₂ (by omega) h₂]

theorem margin_right (h : a.AreIndependent b) (hp : b.IsPair p) :
    (a.append b).margin (shiftPair a.range p) = b.margin p := by
  have h₁ := hp.pos
  have h₂ : 1 ≤ p.2 := h₁.trans hp.lt.le
  simp only [margin, shiftPair]
  rw [h.score_right h₁ h₂, h.score_right h₂ h₁, h.score_right h₁ h₁, h.score_right h₂ h₂]

/-- A pair of the whole call belongs to the first group, to the second, or crosses from one to the other. -/
theorem isPair_append (h : a.AreIndependent b) (hp : (a.append b).IsPair p) :
    a.IsPair p ∨ (∃ q, b.IsPair q ∧ shiftPair a.range q = p) ∨ p.1 ≤ a.range ∧ a.range < p.2 := by
  obtain ⟨h₁, hlt, h₂⟩ := hp
  rw [h.range_append] at h₂
  by_cases hfirst : a.range < p.1
  · refine .inr (.inl ⟨(p.1 - a.range, p.2 - a.range), ⟨?_, ?_, ?_⟩, Prod.ext ?_ ?_⟩) <;>
      simp only [shiftPair] <;> omega
  · by_cases hsecond : a.range < p.2
    · exact .inr (.inr ⟨by omega, hsecond⟩)
    · exact .inl ⟨h₁, hlt, by omega⟩

theorem isEligible_left (h : a.AreIndependent b) (hp : a.IsPair p) :
    (a.append b).IsEligible t p ↔ a.IsEligible t p := by
  have hmargin := h.margin_left hp
  obtain ⟨h₁, hlt, h₂⟩ := hp
  have hforth := h.score_left h₁ (by omega) (by omega) h₂
  have hback := h.score_left (by omega) h₂ h₁ (by omega)
  constructor
  · rintro ⟨-, hrelated, hgains⟩
    rw [hforth, hback] at hrelated
    exact ⟨⟨h₁, hlt, h₂⟩, hrelated, hmargin ▸ hgains⟩
  · rintro ⟨-, hrelated, hgains⟩
    refine ⟨⟨h₁, hlt, h₂.trans (h.range_append ▸ Nat.le_add_right _ _)⟩, ?_, hmargin.symm ▸ hgains⟩
    rwa [hforth, hback]

theorem isEligible_right (h : a.AreIndependent b) (hp : b.IsPair p) :
    (a.append b).IsEligible t (shiftPair a.range p) ↔ b.IsEligible t p := by
  have hmargin := h.margin_right hp
  obtain ⟨h₁, hlt, h₂⟩ := hp
  have hforth := h.score_right h₁ (h₁.trans hlt.le)
  have hback := h.score_right (h₁.trans hlt.le) h₁
  constructor
  · rintro ⟨-, hrelated, hgains⟩
    simp only [shiftPair] at hrelated
    rw [hforth, hback] at hrelated
    exact ⟨⟨h₁, hlt, h₂⟩, hrelated, hmargin ▸ hgains⟩
  · rintro ⟨-, hrelated, hgains⟩
    refine ⟨⟨?_, ?_, ?_⟩, ?_, hmargin.symm ▸ hgains⟩
    · exact Nat.le_add_right_of_le h₁
    · exact Nat.add_lt_add_right hlt _
    · rw [h.range_append]
      exact (Nat.add_le_add_right h₂ _).trans_eq (Nat.add_comm _ _)
    · simp only [shiftPair]
      rwa [hforth, hback]

/-- No pair that crosses from one group to the other is related. -/
theorem not_isEligible_across (h : a.AreIndependent b) (hle : p.1 ≤ a.range) (hlt : a.range < p.2) :
    ¬ (a.append b).IsEligible t p := by
  rintro ⟨hp, hrelated, -⟩
  obtain ⟨j, hj, hj'⟩ : ∃ j, 1 ≤ j ∧ j + a.range = p.2 := ⟨p.2 - a.range, by omega, by omega⟩
  obtain ⟨hforth, hback⟩ := h.score_across hp.pos hle hj
  rw [hj'] at hforth hback
  refine hrelated ⟨beq_iff.2 ⟨hforth.finite.isNaN, isWhole_zero.finite.isNaN, ?_⟩,
    beq_iff.2 ⟨hback.finite.isNaN, isWhole_zero.finite.isNaN, ?_⟩⟩
  · rw [hforth.toRational_eq, toRational_zero, Int.cast_zero]
  · rw [hback.toRational_eq, toRational_zero, Int.cast_zero]

/-- The pairs that may be reported are those of each group. -/
theorem isEligible_append (h : a.AreIndependent b) :
    (a.append b).IsEligible t p ↔ a.IsEligible t p ∨ ∃ q, b.IsEligible t q ∧ shiftPair a.range q = p := by
  constructor
  · intro hp
    rcases h.isPair_append hp.toIsPair with ha | ⟨q, hq, rfl⟩ | ⟨hle, hlt⟩
    · exact .inl ((h.isEligible_left ha).1 hp)
    · exact .inr ⟨q, (h.isEligible_right hq).1 hp, rfl⟩
    · exact absurd hp (h.not_isEligible_across hle hlt)
  · rintro (hp | ⟨q, hq, rfl⟩)
    · exact (h.isEligible_left hp.toIsPair).2 hp
    · exact (h.isEligible_right hq.toIsPair).2 hq

private theorem precedes_shiftPair (n : ℕ) : Precedes (shiftPair n p) (shiftPair n q) ↔ Precedes p q := by
  simp only [Precedes, shiftPair]
  omega

private theorem stable_left (h : a.AreIndependent b) (t : Float) :
    IsStable (a.IsEligible t) (a.append b).Outranks Meets (· ∈ a.selected t) :=
  (selected_stable t).congr (fun _ => Iff.rfl) fun p q hp hq _ => by
    rw [Outranks, Outranks, h.margin_left hp.toIsPair, h.margin_left hq.toIsPair]

private theorem stable_right (h : a.AreIndependent b) (t : Float) :
    IsStable (fun p => ∃ q, b.IsEligible t q ∧ shiftPair a.range q = p) (a.append b).Outranks Meets
      (∃ q, q ∈ b.selected t ∧ shiftPair a.range q = ·) := by
  refine (selected_stable t).map (fun _ => Iff.rfl) (fun p q hp hq => ?_) fun p q => ?_
  · rw [Outranks, Outranks, h.margin_right hp.toIsPair, h.margin_right hq.toIsPair, precedes_shiftPair]
  · simp only [Meets, shiftPair]
    omega

/-- What is selected of the whole call is what is selected of each group. -/
theorem selected_append (h : a.AreIndependent b) (t : Float) :
    (a.append b).selected t = a.selected t ++ (b.selected t).map (shiftPair a.range) := by
  -- No pair of the first group meets one of the second.
  have hboth := (h.stable_left t).union (h.stable_right t) fun p q hp hq => by
    obtain ⟨r, hr, hrq⟩ := hq
    have h₁ := hp.le
    have h₂ := hp.lt
    have h₃ := hr.pos
    have h₄ := hr.lt
    subst hrq
    simp only [Meets, shiftPair]
    omega
  simp only [← h.isEligible_append] at hboth
  refine (selected_ascending t).eq_of_mem_iff ?_ fun p => ?_
  · refine List.pairwise_append.2 ⟨selected_ascending t, ?_, fun p hp q hq => ?_⟩
    · exact List.pairwise_map.2 ((selected_ascending t).imp (precedes_shiftPair _).2)
    · obtain ⟨r, hr, rfl⟩ := List.mem_map.1 hq
      have hp' := (selected_stable t).eligible_of_chosen hp
      have hr' := (selected_stable t).eligible_of_chosen hr
      have h₁ := hp'.lt
      have h₂ := hp'.le
      have h₃ := hr'.pos
      exact .inl (by simp only [shiftPair]; omega)
  · rw [List.mem_append, List.mem_map]
    exact (selected_stable t).unique (finite_eligible t) hboth p

theorem swapAt_left (h : a.AreIndependent b) (hp : a.IsPair p) : (a.append b).swapAt p = a.swapAt p := by
  have hmargin := h.margin_left hp
  obtain ⟨h₁, hlt, h₂⟩ := hp
  rw [swapAt, swapAt, hmargin, h.argument_left h₁ (by omega), h.argument_left (by omega) h₂]

theorem swapAt_right (h : a.AreIndependent b) (hp : b.IsPair p) :
    (a.append b).swapAt (shiftPair a.range p) = (b.swapAt p).shift a.range := by
  have hmargin := h.margin_right hp
  have hfirst := h.argument_right hp.pos
  have hsecond := h.argument_right (hp.pos.trans hp.lt.le)
  rw [swapAt, hmargin]
  simp only [shiftPair, hfirst, hsecond]
  rfl

/-- The swaps of the whole call are those of each group. -/
theorem swaps_append (h : a.AreIndependent b) (t : Float) :
    ((a.append b).selected t).map (a.append b).swapAt =
      (a.selected t).map a.swapAt ++ ((b.selected t).map b.swapAt).map (Swap.shift a.range) := by
  have hleft : (a.selected t).map (a.append b).swapAt = (a.selected t).map a.swapAt :=
    List.map_congr_left fun p hp => h.swapAt_left ((selected_stable t).eligible_of_chosen hp).toIsPair
  have hright : (b.selected t).map (fun p => (a.append b).swapAt (shiftPair a.range p)) =
      (b.selected t).map fun p => (b.swapAt p).shift a.range :=
    List.map_congr_left fun p hp => h.swapAt_right ((selected_stable t).eligible_of_chosen hp).toIsPair
  rw [h.selected_append, List.map_append, List.map_map, List.map_map, hleft]
  exact congrArg _ hright

end AreIndependent

end Alignment

/-- When neither of two groups of positions has a parameter that shares a morpheme with an argument of the other, what
is found in both together is what is found in the first, and then what is found in the second, so many positions
further on. -/
theorem independent_groups_searched_apart (signature : Signature) (policy : MorphemePolicy) (t : Float)
    (names others : List String) (arguments rest : List Argument) (hfull : names.length = arguments.length)
    (hapart : ∀ name ∈ names, ∀ argument ∈ rest, ∀ m ∈ policy.morphemes name, m ∉ argument.morphemes policy)
    (hback : ∀ name ∈ others, ∀ argument ∈ arguments, ∀ m ∈ policy.morphemes name, m ∉ argument.morphemes policy) :
    (search { signature with parameters := some (names ++ others) } ⟨arguments ++ rest⟩ t policy).swaps =
      (search { signature with parameters := some names } ⟨arguments⟩ t policy).swaps ++
      (search { signature with parameters := some others } ⟨rest⟩ t policy).swaps.map (Swap.shift names.length) := by
  have h : (Alignment.mk (names.map policy.morphemes) (arguments.map fun argument => argument.morphemes policy)).AreIndependent
      ⟨others.map policy.morphemes, rest.map fun argument => argument.morphemes policy⟩ := by
    refine ⟨by simpa using hfull, ?_, ?_⟩
    · simpa only [List.forall_mem_map] using hapart
    · simpa only [List.forall_mem_map] using hback
  have hswaps := h.swaps_append t
  have hrange : min (names.map policy.morphemes).length
      (arguments.map fun argument => argument.morphemes policy).length = names.length := by
    rw [List.length_map, List.length_map, hfull, Nat.min_self]
  simp only [Alignment.append, ← List.map_append] at hswaps
  rw [Alignment.range, hrange] at hswaps
  simp only [search_swaps, Signature.align, Option.getD_some]
  exact hswaps

theorem independent_groups_searched_apart_five :
    let names := ["width", "height"]
    let others := ["sourcePath", "target_path", "mode"]
    let arguments := [Argument.named "height", ⟨["rect", "width"]⟩]
    let rest := [Argument.named "target", .named "source", .named "mode", .named "extra"]
    let policy : MorphemePolicy := {}
    let found := search { parameters := some (names ++ others) } ⟨arguments ++ rest⟩ 0.5 policy
    names.length = arguments.length ∧
    (∀ name ∈ names, ∀ argument ∈ rest, ∀ m ∈ policy.morphemes name, m ∉ argument.morphemes policy) ∧
    (∀ name ∈ others, ∀ argument ∈ arguments, ∀ m ∈ policy.morphemes name, m ∉ argument.morphemes policy) ∧
    found.swaps =
      (search { parameters := some names } ⟨arguments⟩ 0.5 policy).swaps ++
      (search { parameters := some others } ⟨rest⟩ 0.5 policy).swaps.map (Swap.shift 2) ∧
    found.positions = [(1, 2), (3, 4)] := by
  intro names others arguments rest policy found
  have hapart : ∀ name ∈ names, ∀ argument ∈ rest, ∀ m ∈ policy.morphemes name, m ∉ argument.morphemes policy := by
    change ∀ name ∈ names, ∀ argument ∈ rest,
      ∀ m ∈ (policy.morphemes name).toList, m ∉ (argument.morphemes policy).toList
    decide +kernel
  have hback : ∀ name ∈ others, ∀ argument ∈ arguments, ∀ m ∈ policy.morphemes name, m ∉ argument.morphemes policy := by
    change ∀ name ∈ others, ∀ argument ∈ arguments,
      ∀ m ∈ (policy.morphemes name).toList, m ∉ (argument.morphemes policy).toList
    decide +kernel
  exact ⟨rfl, hapart, hback,
    independent_groups_searched_apart {} policy 0.5 names others arguments rest rfl hapart hback, by decide +kernel⟩

end CallOrder
