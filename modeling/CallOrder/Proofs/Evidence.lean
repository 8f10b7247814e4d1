import CallOrder.Proofs.Components

/-! What a finding above the margin 1 rests on. One crossed score alone is at most 1, so both arguments of such a
finding share a morpheme with the parameter in whose place they would stand. -/
namespace CallOrder
open Binary64

namespace MorphemeSet
variable {s t : MorphemeSet}

/-- Sets that are similar at all have a member in common. -/
theorem exists_mem_of_similarity (h : 0 < toRational (s.similarity t)) : ∃ m ∈ s, m ∈ t := by
  by_contra hnone
  push Not at hnone
  have hzero := similarity_of_disjoint hnone
  rw [hzero.toRational_eq, Int.cast_zero] at h
  exact lt_irrefl _ h

theorem isEmpty_iff : s.isEmpty = true ↔ ∀ m, m ∉ s := List.isEmpty_iff.trans List.eq_nil_iff_forall_not_mem

end MorphemeSet

/-- A sum of two numbers up to 1 is above 1 only if both are above 0. -/
private theorem pos_of_one_lt_add {x y : Float} (hx : IsWithin x (1 : ℕ)) (hy : IsWithin y (1 : ℕ))
    (h : 1 < toRational (x + y)) : 0 < toRational x ∧ 0 < toRational y := by
  have hrounded := hx.add_rounded hy (by norm_num)
  have hsum : 1 < toRational x + toRational y := by
    by_contra hle
    have hmono := nearest_mono (not_lt.1 hle)
    rw [nearest_one, ← hrounded.toRational_eq] at hmono
    exact absurd h hmono.not_gt
  have hxle := hx.le
  have hyle := hy.le
  push_cast at hxle hyle
  constructor
  · linarith
  · linarith

namespace Alignment
variable {a : Alignment} {t : Float} {p : ℕ × ℕ}

/-- Each of two arguments shares a morpheme with the parameter in the other's place. -/
structure HasEvidence (a : Alignment) (p : ℕ × ℕ) : Prop where
  first : ∃ m ∈ a.argument p.1, m ∈ a.parameter p.2
  second : ∃ m ∈ a.argument p.2, m ∈ a.parameter p.1

theorem IsEligible.le_crossed (h : a.IsEligible t p) : t ≤ a.score p.1 p.2 + a.score p.2 p.1 := by
  obtain ⟨ht, -, hgains⟩ := le_iff.1 h.gains
  obtain ⟨-, hcrossed, hle⟩ := le_iff.1 (margin_le_crossed h.isNaN)
  exact le_iff.2 ⟨ht, hcrossed, hgains.trans hle⟩

theorem IsEligible.hasEvidence (h : a.IsEligible t p) (ht : 1 < t) : a.HasEvidence p := by
  obtain ⟨hfirst, hsecond⟩ := not_isNaN_of_add (le_iff.1 h.le_crossed).2.1
  have hone : 1 < toRational (a.score p.1 p.2 + a.score p.2 p.1) := by
    have hlt := (lt_iff.1 ht).2.2
    rw [isWhole_one.toRational_eq, Int.cast_one] at hlt
    exact hlt.trans_le (le_iff.1 h.le_crossed).2.2
  obtain ⟨hforth, hback⟩ := pos_of_one_lt_add (score_isWithin hfirst) (score_isWithin hsecond) hone
  obtain ⟨m, hparameter, hargument⟩ := MorphemeSet.exists_mem_of_similarity hforth
  obtain ⟨m', hparameter', hargument'⟩ := MorphemeSet.exists_mem_of_similarity hback
  exact ⟨⟨m', hargument', hparameter'⟩, ⟨m, hargument, hparameter⟩⟩

/-- No argument and no parameter is silent where there is evidence. -/
theorem HasEvidence.exists_mem (h : a.HasEvidence p) {i : ℕ} (hi : p.1 = i ∨ p.2 = i) :
    (∃ m, m ∈ a.argument i) ∧ ∃ m, m ∈ a.parameter i := by
  obtain ⟨⟨m, hargument, hparameter⟩, ⟨m', hargument', hparameter'⟩⟩ := h
  rcases hi with rfl | rfl
  · exact ⟨⟨m, hargument⟩, ⟨m', hparameter'⟩⟩
  · exact ⟨⟨m', hargument'⟩, ⟨m, hparameter⟩⟩

theorem HasEvidence.touches_eq_false (h : a.HasEvidence p) {i : ℕ}
    (hi : (a.argument i).isEmpty = true ∨ (a.parameter i).isEmpty = true) : (a.swapAt p).touches i = false := by
  rw [Bool.eq_false_iff]
  intro htouches
  rw [Swap.touches, Bool.or_eq_true, beq_iff_eq, beq_iff_eq] at htouches
  obtain ⟨⟨m, hargument⟩, ⟨m', hparameter⟩⟩ := h.exists_mem htouches
  rcases hi with hi | hi
  · exact MorphemeSet.isEmpty_iff.1 hi m hargument
  · exact MorphemeSet.isEmpty_iff.1 hi m' hparameter

end Alignment

/-- A name of which the policy keeps no token, as when it is empty or made of stop tokens and numbers. -/
def MorphemePolicy.Ignores (policy : MorphemePolicy) (name : String) : Prop :=
  ∀ token ∈ Identifier.tokens name, policy.keeps token = false

section Ignored
variable {policy : MorphemePolicy} {signature : Signature} {site : CallSite}

theorem MorphemePolicy.Ignores.isEmpty {name : String} (h : policy.Ignores name) :
    (policy.morphemes name).isEmpty = true := by
  rw [MorphemeSet.isEmpty_iff]
  intro m hm
  obtain ⟨htoken, hkeeps⟩ := MorphemePolicy.mem_morphemes.1 hm
  exact absurd (hkeeps.symm.trans (h m htoken)) (by decide)

/-- An argument without components, such as a literal, is one of these. -/
theorem Argument.isEmpty_of_ignored {argument : Argument} (h : ∀ name ∈ argument.components, policy.Ignores name) :
    (argument.morphemes policy).isEmpty = true := by
  rw [MorphemeSet.isEmpty_iff]
  intro m hm
  obtain ⟨name, hname, hm⟩ := MorphemePolicy.mem_morphemesOfAll.1 hm
  exact MorphemeSet.isEmpty_iff.1 (h name hname).isEmpty m hm

theorem Signature.align_parameter {names : List String} {name : String} {i : ℕ} (h : signature.parameters = some names)
    (hi : names[i]? = some name) : (signature.align site policy).parameter (i + 1) = policy.morphemes name := by
  simp [align, Alignment.parameter, h, hi]

theorem Signature.align_argument {argument : Argument} {i : ℕ} (hi : site.arguments[i]? = some argument) :
    (signature.align site policy).argument (i + 1) = argument.morphemes policy := by
  simp [align, Alignment.argument, hi]

end Ignored

/-- Above the margin 1, and so at the default threshold, both arguments of a finding share a morpheme with the parameter
in whose place they would stand, and the crossed scores reach the threshold by themselves. No finding names a position
whose argument or parameter has no morphemes. -/
theorem findings_have_evidence_on_both_sides (signature : Signature) (site : CallSite) (policy : MorphemePolicy) :
    let call := signature.align site policy
    (1 : Float) < ({} : Settings).threshold ∧
    ∀ t : Float, 1 < t → ∀ swap ∈ (search signature site t policy).swaps,
      call.HasEvidence (swap.first, swap.second) ∧
      t ≤ call.score swap.first swap.second + call.score swap.second swap.first ∧
      (∀ i, (call.argument i).isEmpty = true ∨ (call.parameter i).isEmpty = true → swap.touches i = false) ∧
      (∀ i argument, site.arguments[i]? = some argument → (∀ name ∈ argument.components, policy.Ignores name) →
        swap.touches (i + 1) = false) ∧
      ∀ i names name, signature.parameters = some names → names[i]? = some name → policy.Ignores name →
        swap.touches (i + 1) = false := by
  intro call
  refine ⟨by decide +kernel, ?_⟩
  intro t ht swap hswap
  obtain ⟨p, hp, rfl⟩ := mem_search_swaps.1 hswap
  have heligible := Alignment.selected_eligible hp
  have hevidence := heligible.hasEvidence ht
  refine ⟨hevidence, heligible.le_crossed, ?_, ?_, ?_⟩
  · intro i
    apply hevidence.touches_eq_false
  · intro i argument hi hignored
    apply hevidence.touches_eq_false
    left
    rw [Signature.align_argument hi]
    exact Argument.isEmpty_of_ignored hignored
  · intro i names name hnames hi hignored
    apply hevidence.touches_eq_false
    right
    rw [Signature.align_parameter hnames hi]
    exact hignored.isEmpty

/-- Two arguments in each other's place, an argument whose parameter says nothing, and a literal. The third argument would
match the fourth parameter, which is enough for a finding at the margin 1, but not above it. -/
theorem findings_have_evidence_on_both_sides_clip :
    let policy : MorphemePolicy := {}
    let signature : Signature := { parameters := some ["width", "height", "the", "mode_2"] }
    let site : CallSite := ⟨[⟨["box", "size", "height"]⟩, .named "width", .named "mode", ⟨[]⟩]⟩
    let call := signature.align site policy
    let swap := call.swapAt (1, 2)
    (1 : Float) < 1.2 ∧ swap ∈ (search signature site 1.2 policy).swaps ∧ call.HasEvidence (1, 2) ∧
      1.2 ≤ call.score 1 2 + call.score 2 1 ∧
      (call.parameter 3).isEmpty = true ∧ swap.touches 3 = false ∧
      site.arguments[3]? = some ⟨[]⟩ ∧ swap.touches 4 = false ∧
      signature.parameters = some ["width", "height", "the", "mode_2"] ∧ policy.Ignores "the" ∧
      swap.touches (2 + 1) = false ∧
      (search signature site 1 policy).positions = [(1, 2), (3, 4)] := by
  intro policy signature site call swap
  have hlow : (1 : Float) < 1.2 := by decide +kernel
  have hreported : (1, 2) ∈ (search signature site 1.2 policy).positions := by decide +kernel
  rw [search_positions] at hreported
  have hswap : swap ∈ (search signature site 1.2 policy).swaps := mem_search_swaps.2 ⟨_, hreported, rfl⟩
  have hempty : (call.parameter 3).isEmpty = true := by decide +kernel
  have hignored : policy.Ignores "the" := by
    unfold MorphemePolicy.Ignores
    decide +kernel
  obtain ⟨-, hevidence⟩ := findings_have_evidence_on_both_sides signature site policy
  obtain ⟨hshared, hcrossed, hsilent, hargument, hparameter⟩ := hevidence 1.2 hlow swap hswap
  exact ⟨hlow, hswap, hshared, hcrossed, hempty, hsilent 3 (.inr hempty), rfl,
    hargument 3 ⟨[]⟩ rfl (by simp), rfl, hignored, hparameter 2 _ "the" rfl rfl hignored, by decide +kernel⟩

end CallOrder
