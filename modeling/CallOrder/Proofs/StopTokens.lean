import CallOrder.Proofs.Components
import CallOrder.Proofs.Lowercase

/-! Stop tokens. A token is in lowercase, but a stop token is compared with it up to the case of ASCII letters only; so
a stop token with another capital drops less than its lowercase form. -/
namespace CallOrder

namespace Text
open Identifier
variable {c : Char} {text : List Char}

def lowercased (name : String) : String := String.ofList (lowercase name.toList)

def asciiLowercased (name : String) : String := String.ofList (name.toList.map asciiLower)

private theorem asciiLower_eq_self_or (c : Char) : asciiLower c = c ∨ c.toNat < 128 := by
  rw [asciiLower]
  split
  · rename_i h
    have hle : c.val ≤ 'Z'.val := of_decide_eq_true (Bool.and_eq_true_iff.1 h).2
    exact .inr (lt_of_le_of_lt (UInt32.le_iff_toNat_le.1 hle) (by decide))
  · exact .inl rfl

private theorem lowersTo_asciiLower (hc : c.toNat < 128) : LowersTo c (asciiLower c) :=
  of_ascii (p := fun c => c ≠ 'Σ' ∧ lowercaseChar c = [asciiLower c]) (by decide +kernel) hc

theorem asciiLower_of_settled (h : LowersTo c c) : asciiLower c = c := by
  rcases asciiLower_eq_self_or c with heq | hc
  · exact heq
  · exact (List.singleton_inj.1 (h.2.symm.trans (lowersTo_asciiLower hc).2)).symm

/-- Nothing that lowercase depends on tells the two cases of an ASCII letter apart. -/
private theorem asciiLower_alike (c : Char) :
    (asciiLower c = 'Σ' ↔ c = 'Σ') ∧ lowercaseChar (asciiLower c) = lowercaseChar c ∧
      isCased (asciiLower c) = isCased c ∧ isCaseIgnorable (asciiLower c) = isCaseIgnorable c := by
  rcases asciiLower_eq_self_or c with heq | hc
  · rw [heq]
    exact ⟨Iff.rfl, rfl, rfl, rfl⟩
  · exact of_ascii (p := fun c => (asciiLower c = 'Σ' ↔ c = 'Σ') ∧ lowercaseChar (asciiLower c) = lowercaseChar c ∧
      isCased (asciiLower c) = isCased c ∧ isCaseIgnorable (asciiLower c) = isCaseIgnorable c) (by decide +kernel) hc

private theorem startsCased_map_asciiLower (text : List Char) :
    startsCased (text.map asciiLower) = startsCased text := by
  induction text with
  | nil => rfl
  | cons c rest ih =>
    obtain ⟨-, -, hcased, hignorable⟩ := asciiLower_alike c
    rw [List.map_cons, startsCased, startsCased, hignorable, hcased, ih]

theorem lowercase_map_asciiLower (text : List Char) : lowercase (text.map asciiLower) = lowercase text := by
  suffices hafter : ∀ before, lowercaseAfter (before.map asciiLower) (text.map asciiLower) = lowercaseAfter before text
    from hafter []
  induction text with
  | nil => exact fun _ => rfl
  | cons c rest ih =>
    intro before
    obtain ⟨hsigma, hform, -, -⟩ := asciiLower_alike c
    have hrest := ih (c :: before)
    rw [List.map_cons] at hrest
    rw [List.map_cons, lowercaseAfter, lowercaseAfter, hrest, lowercaseBetween, lowercaseBetween,
      startsCased_map_asciiLower, startsCased_map_asciiLower, hform]
    simp only [hsigma]

theorem lowercase_of_ascii (h : ∀ c ∈ text, c.toNat < 128) : lowercase text = text.map asciiLower :=
  lowercase_of_lowersTo (List.forall₂_map_right_iff.2 (List.forall₂_same.2 fun c hc => lowersTo_asciiLower (h c hc)))

end Text

namespace MorphemePolicy
variable {policy : MorphemePolicy} {m name stop : String}

/-- The policy with its stop tokens in lowercase. -/
def lowered (policy : MorphemePolicy) : MorphemePolicy :=
  { policy with stopTokens := policy.stopTokens.map Text.lowercased }

/-- What a token needs, stop tokens apart. -/
structure Admits (policy : MorphemePolicy) (token : String) : Prop where
  length : policy.minTokenLength.toNat ≤ token.toList.length
  isNotNumeric : policy.keepNumericTokens = true ∨ ∃ c ∈ token.toList, Text.isNumeric c = false

theorem keeps_iff : policy.keeps m = true ↔
    policy.Admits m ∧ ∀ stop ∈ policy.stopTokens, stop.toList.map Text.asciiLower ≠ m.toList.map Text.asciiLower := by
  have hadmits : policy.Admits m ↔ policy.minTokenLength.toNat ≤ m.toList.length ∧
      (policy.keepNumericTokens = true ∨ ∃ c ∈ m.toList, Text.isNumeric c = false) :=
    ⟨fun h => ⟨h.1, h.2⟩, fun h => ⟨h.1, h.2⟩⟩
  rw [hadmits, keeps]
  simp [Text.sameButAsciiCase, and_assoc]

theorem settled_of_mem_tokens (h : m ∈ Identifier.tokens name) : ∀ c ∈ m.toList, Identifier.LowersTo c c := by
  obtain ⟨piece, -, rfl⟩ := List.mem_map.1 h
  rw [String.toList_ofList]
  exact fun _ => Identifier.lowersTo_of_mem_lowercase

private theorem map_asciiLower_of_settled (h : ∀ c ∈ m.toList, Identifier.LowersTo c c) :
    m.toList.map Text.asciiLower = m.toList :=
  (List.map_congr_left fun c hc => Text.asciiLower_of_settled (h c hc)).trans (List.map_id _)

theorem mem_morphemes_iff : m ∈ policy.morphemes name ↔
    m ∈ Identifier.tokens name ∧ policy.Admits m ∧ ∀ stop ∈ policy.stopTokens, Text.asciiLowercased stop ≠ m := by
  rw [mem_morphemes, keeps_iff]
  refine and_congr_right fun hm => and_congr_right fun _ => forall₂_congr fun stop _ => not_congr ?_
  rw [map_asciiLower_of_settled (settled_of_mem_tokens hm), Text.asciiLowercased, ← String.toList_inj,
    String.toList_ofList]

private theorem asciiLowercased_lowercased (stop : String) :
    Text.asciiLowercased (Text.lowercased stop) = Text.lowercased stop := by
  rw [Text.asciiLowercased, map_asciiLower_of_settled, String.ofList_toList]
  rw [Text.lowercased, String.toList_ofList]
  exact fun _ => Identifier.lowersTo_of_mem_lowercase

/-- What a stop token matches, its lowercase form matches too. -/
private theorem lowercased_of_asciiLowercased (hm : m ∈ Identifier.tokens name) (h : Text.asciiLowercased stop = m) :
    Text.lowercased stop = m := by
  have hsettled := settled_of_mem_tokens hm
  rw [← h, Text.asciiLowercased, String.toList_ofList] at hsettled
  rw [← h, Text.lowercased, Text.asciiLowercased, ← Text.lowercase_map_asciiLower,
    Identifier.lowercase_of_settled hsettled]

theorem mem_morphemes_lowered : m ∈ policy.lowered.morphemes name ↔
    m ∈ policy.morphemes name ∧ ∀ stop ∈ policy.stopTokens, Text.lowercased stop ≠ m := by
  have hadmits : policy.lowered.Admits m ↔ policy.Admits m := ⟨fun h => ⟨h.1, h.2⟩, fun h => ⟨h.1, h.2⟩⟩
  rw [mem_morphemes_iff, mem_morphemes_iff, hadmits, lowered]
  simp only [List.forall_mem_map, asciiLowercased_lowercased]
  constructor
  · rintro ⟨hm, hadmits, hstop⟩
    exact ⟨⟨hm, hadmits, fun stop hs h => hstop stop hs (lowercased_of_asciiLowercased hm h)⟩, hstop⟩
  · rintro ⟨⟨hm, hadmits, -⟩, hstop⟩
    exact ⟨hm, hadmits, hstop⟩

theorem morphemes_lowered_eq_iff : policy.lowered.morphemes name = policy.morphemes name ↔
    ∀ m ∈ policy.morphemes name, ∀ stop ∈ policy.stopTokens, Text.lowercased stop ≠ m := by
  constructor
  · intro h m hm
    rw [← h, mem_morphemes_lowered] at hm
    exact hm.2
  · exact fun h => MorphemeSet.ext_members fun m => mem_morphemes_lowered.trans (and_iff_left_of_imp (h m))

end MorphemePolicy

/-- A stop token drops the tokens that are the same but for the case of ASCII letters. If its lowercase form is another
text, it drops none; so the policy with the lowercase forms keeps fewer morphemes of a name, unless none of them is such
a form. Stop tokens in ASCII drop what their lowercase forms drop. -/
theorem stop_tokens_ignore_ascii_case (policy : MorphemePolicy) (name : String) :
    (∀ m, m ∈ policy.morphemes name ↔
      m ∈ Identifier.tokens name ∧ policy.Admits m ∧ ∀ stop ∈ policy.stopTokens, Text.asciiLowercased stop ≠ m) ∧
    (∀ m, m ∈ policy.lowered.morphemes name ↔
      m ∈ policy.morphemes name ∧ ∀ stop ∈ policy.stopTokens, Text.lowercased stop ≠ m) ∧
    (policy.lowered.morphemes name = policy.morphemes name ↔
      ∀ m ∈ policy.morphemes name, ∀ stop ∈ policy.stopTokens, Text.lowercased stop ≠ m) ∧
    ((∀ stop ∈ policy.stopTokens, Text.lowercased stop = Text.asciiLowercased stop) →
      policy.lowered.morphemes name = policy.morphemes name) ∧
    ∀ stop, (Text.asciiLowercased stop ∈ Identifier.tokens name → Text.lowercased stop = Text.asciiLowercased stop) ∧
      ((∀ c ∈ stop.toList, c.toNat < 128) → Text.lowercased stop = Text.asciiLowercased stop) := by
  refine ⟨fun m => MorphemePolicy.mem_morphemes_iff, fun m => MorphemePolicy.mem_morphemes_lowered,
    MorphemePolicy.morphemes_lowered_eq_iff, fun hsame => ?_, fun stop => ⟨fun hm => ?_, fun hascii => ?_⟩⟩
  · refine MorphemePolicy.morphemes_lowered_eq_iff.2 fun m hm stop hstop => ?_
    rw [hsame stop hstop]
    exact (MorphemePolicy.mem_morphemes_iff.1 hm).2.2 stop hstop
  · exact MorphemePolicy.lowercased_of_asciiLowercased hm rfl
  · rw [Text.lowercased, Text.lowercase_of_ascii hascii, Text.asciiLowercased]

/-- An accented capital among the stop tokens does not drop the small letter. -/
theorem stop_tokens_keep_accented_case :
    ¬ ((∀ (policy : MorphemePolicy) (name : String), policy.lowered.morphemes name = policy.morphemes name) ∨
      ∀ (policy : MorphemePolicy) (name : String), ∀ m ∈ policy.morphemes name, ∀ stop ∈ policy.stopTokens,
        Text.lowercased stop ≠ m) := by
  have hmem : "é" ∈ MorphemePolicy.morphemes { stopTokens := ["É"] } "é" := by
    change "é" ∈ (MorphemePolicy.morphemes { stopTokens := ["É"] } "é").toList
    decide +kernel
  have hstop : ¬ ∀ stop ∈ ["É"], Text.lowercased stop ≠ "é" := by decide +kernel
  rintro (h | h)
  · rw [← h, MorphemePolicy.mem_morphemes_lowered] at hmem
    exact hstop hmem.2
  · exact hstop (h _ _ _ hmem)

end CallOrder
