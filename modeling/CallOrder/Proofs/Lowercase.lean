import CallOrder.Proofs.Segmentation
import Mathlib.Data.List.Forall2

/-! Lowercase forms. The form of a character changes no more in lowercase, is a number if the character is one, and is
a capital only if the character has no other form; so a text in lowercase stays as it is. -/
namespace CallOrder.Text

section Spans
variable {low high distance n m : ℕ}

/-- Whether one of the spans holds all numbers from `low` to `high`. -/
def spansCover (low high : ℕ) : List (ℕ × ℕ) → Bool
  | [] => false
  | (first, last) :: rest => first.ble low && (high.ble last || spansCover low high rest)

/-- Whether no span holds a number from `low` to `high`. -/
def spansMiss (low high : ℕ) : List (ℕ × ℕ) → Bool
  | [] => true
  | (first, last) :: rest => high.blt first || last.blt low && spansMiss low high rest

/-- Whether numbers at a fixed distance are all even or all odd. -/
def isOfOneParity (low high distance : ℕ) : Bool := distance % 2 == 0 || low == high

/-- Whether no span holds one of the numbers from `low` to `high` at a fixed distance. A span may lie among them if one
side has even numbers only and the other odd ones. -/
def stridedSpansMiss (low high distance : ℕ) : List (ℕ × ℕ × ℕ) → Bool
  | [] => true
  | (first, last, distance') :: rest => high.blt first ||
    (last.blt low || isOfOneParity low high distance && isOfOneParity first last distance' && low % 2 != first % 2) &&
      stridedSpansMiss low high distance rest

theorem inSpans_of_cover {spans : List (ℕ × ℕ)} (h : spansCover low high spans = true) (hlow : low ≤ n)
    (hhigh : n ≤ high) : inSpans spans n = true := by
  induction spans with
  | nil => cases h
  | cons span rest ih =>
    obtain ⟨first, last⟩ := span
    simp only [spansCover, Bool.and_eq_true, Bool.or_eq_true, Nat.ble_eq] at h
    rw [inSpans, if_neg (by omega), Bool.or_eq_true, decide_eq_true_eq]
    exact h.2.imp hhigh.trans ih

theorem inSpans_of_miss {spans : List (ℕ × ℕ)} (h : spansMiss low high spans = true) (hlow : low ≤ n)
    (hhigh : n ≤ high) : inSpans spans n = false := by
  induction spans with
  | nil => rfl
  | cons span rest ih =>
    obtain ⟨first, last⟩ := span
    simp only [spansMiss, Bool.and_eq_true, Bool.or_eq_true, Nat.blt_eq] at h
    rw [inSpans]
    rcases h with h | ⟨h, hrest⟩
    · rw [if_pos (by omega)]
    · rw [ih hrest, decide_eq_false (by omega)]
      exact ite_self _

private theorem parity_eq (h : isOfOneParity low high distance = true) (hlow : low ≤ n) (hhigh : n ≤ high)
    (hn : (n - low) % distance = 0) : n % 2 = low % 2 := by
  simp only [isOfOneParity, Bool.or_eq_true, beq_iff_eq] at h
  rcases h with h | h
  · have heven : 2 ∣ n - low := Nat.dvd_trans (Nat.dvd_of_mod_eq_zero h) (Nat.dvd_of_mod_eq_zero hn)
    omega
  · omega

theorem inStridedSpans_of_miss {spans : List (ℕ × ℕ × ℕ)} (h : stridedSpansMiss low high distance spans = true)
    (hlow : low ≤ n) (hhigh : n ≤ high) (hn : (n - low) % distance = 0) : inStridedSpans spans n = false := by
  induction spans with
  | nil => rfl
  | cons span rest ih =>
    obtain ⟨first, last, distance'⟩ := span
    simp only [stridedSpansMiss, Bool.and_eq_true, Bool.or_eq_true, Nat.blt_eq, bne_iff_ne] at h
    rw [inStridedSpans]
    split
    · rfl
    · obtain ⟨happart, hrest⟩ := h.resolve_left (by omega)
      rw [ih hrest, Bool.or_false, Bool.and_eq_false_iff, decide_eq_false_iff_not, beq_eq_false_iff_ne]
      by_contra! hmem
      rcases happart with hbefore | ⟨⟨hparity, hparity'⟩, hne⟩
      · omega
      · exact hne ((parity_eq hparity hlow hhigh hn).symm.trans (parity_eq hparity' (by omega) hmem.1 hmem.2))

theorem exists_of_inStridedSpans {spans : List (ℕ × ℕ × ℕ)} (h : inStridedSpans spans n = true) :
    ∃ span ∈ spans, span.1 ≤ n ∧ n ≤ span.2.1 := by
  induction spans with
  | nil => cases h
  | cons span rest ih =>
    obtain ⟨first, last, distance⟩ := span
    rw [inStridedSpans] at h
    split at h
    · cases h
    · rw [Bool.or_eq_true, Bool.and_eq_true, decide_eq_true_eq] at h
      rcases h with ⟨hlast, -⟩ | h
      · exact ⟨_, List.mem_cons_self, by omega, hlast⟩
      · obtain ⟨span, hspan, hn⟩ := ih h
        exact ⟨span, List.mem_cons_of_mem _ hspan, hn⟩

theorem exists_of_spanImage? {spans : List (ℕ × ℕ × ℕ × ℕ)} (h : spanImage? spans n = some m) :
    ∃ span ∈ spans, span.1 ≤ n ∧ n ≤ span.2.1 ∧ (n - span.1) % span.2.2.1 = 0 ∧ m = span.2.2.2 + (n - span.1) := by
  induction spans with
  | nil => cases h
  | cons span rest ih =>
    obtain ⟨first, last, distance, image⟩ := span
    rw [spanImage?] at h
    split at h
    · cases h
    · split at h
      · rename_i hn
        rw [Bool.and_eq_true, decide_eq_true_eq, beq_iff_eq] at hn
        exact ⟨_, List.mem_cons_self, by omega, hn.1, hn.2, (Option.some.inj h).symm⟩
      · obtain ⟨span, hspan, hn⟩ := ih h
        exact ⟨span, List.mem_cons_of_mem _ hspan, hn⟩

/-- The numbers that mapped spans have an image for. -/
def domain (spans : List (ℕ × ℕ × ℕ × ℕ)) : List (ℕ × ℕ × ℕ) := spans.map fun span => (span.1, span.2.1, span.2.2.1)

theorem spanImage?_eq_none {spans : List (ℕ × ℕ × ℕ × ℕ)} (h : inStridedSpans (domain spans) n = false) :
    spanImage? spans n = none := by
  induction spans with
  | nil => rfl
  | cons span rest ih =>
    obtain ⟨first, last, distance, image⟩ := span
    rw [domain, List.map_cons, inStridedSpans] at h
    rw [spanImage?]
    split
    · rfl
    · rename_i hn
      rw [if_neg hn, Bool.or_eq_false_iff] at h
      rw [h.1, if_neg (by decide)]
      exact ih h.2

end Spans

section Table
variable {n m : ℕ}

/-- What the lowercase forms of a span have in common: they are characters and letters, numbers if the span has numbers,
no capitals, and have no lowercase form of their own. -/
structure MapsToLowercase (first last distance image : ℕ) : Prop where
  isValid : image + (last - first) < 0xD800 ∨ 0xDFFF < image ∧ image + (last - first) < 0x110000
  alphabetic : spansCover image (image + (last - first)) alphabeticSpans = true
  numeric : spansMiss first last numericSpans = true ∧ spansMiss image (image + (last - first)) numericSpans = true ∨
    spansCover first last numericSpans = true ∧ spansCover image (image + (last - first)) numericSpans = true
  uppercase : stridedSpansMiss image (image + (last - first)) distance uppercaseSpans = true
  settled : stridedSpansMiss image (image + (last - first)) distance (domain lowercaseSpans) = true

instance (first last distance image : ℕ) : Decidable (MapsToLowercase first last distance image) :=
  decidable_of_iff (_ ∧ _ ∧ _ ∧ _ ∧ _)
    ⟨fun ⟨h₁, h₂, h₃, h₄, h₅⟩ => ⟨h₁, h₂, h₃, h₄, h₅⟩, fun h => ⟨h.1, h.2, h.3, h.4, h.5⟩⟩

private theorem lowercaseSpans_sound :
    ∀ span ∈ lowercaseSpans, MapsToLowercase span.1 span.2.1 span.2.2.1 span.2.2.2 := by
  -- a check of each span; one of each character in it would be ten times as long
  decide +kernel

/-- What the table says of the form of a number. -/
structure IsLowercaseForm (n m : ℕ) : Prop where
  isValidChar : m.isValidChar
  alphabetic : inSpans alphabeticSpans m = true
  numeric_eq : inSpans numericSpans m = inSpans numericSpans n
  uppercase : inStridedSpans uppercaseSpans m = false
  settled : spanImage? lowercaseSpans m = none

theorem isLowercaseForm_of_spanImage? (h : spanImage? lowercaseSpans n = some m) : IsLowercaseForm n m := by
  obtain ⟨⟨first, last, distance, image⟩, hspan, hlow, hhigh, hdistance, rfl⟩ := exists_of_spanImage? h
  obtain ⟨hvalid, halphabetic, hnumeric, huppercase, hsettled⟩ := lowercaseSpans_sound _ hspan
  dsimp only at *
  have hlow' : image ≤ image + (n - first) := by omega
  have hhigh' : image + (n - first) ≤ image + (last - first) := by omega
  have hdistance' : (image + (n - first) - image) % distance = 0 := by rwa [Nat.add_sub_cancel_left]
  refine ⟨?_, inSpans_of_cover halphabetic hlow' hhigh', ?_, inStridedSpans_of_miss huppercase hlow' hhigh' hdistance',
    spanImage?_eq_none (inStridedSpans_of_miss hsettled hlow' hhigh' hdistance')⟩
  · rw [Nat.isValidChar]
    omega
  · rcases hnumeric with ⟨h, h'⟩ | ⟨h, h'⟩
    · rw [inSpans_of_miss h hlow hhigh, inSpans_of_miss h' hlow' hhigh']
    · rw [inSpans_of_cover h hlow hhigh, inSpans_of_cover h' hlow' hhigh']

/-- The only capitals that are numbers are Roman numerals, from U+2160 on; each has a small form. -/
theorem exists_spanImage?_of_numeral (hcapital : inStridedSpans uppercaseSpans n = true)
    (hnumeric : inSpans numericSpans n = true) : ∃ m, spanImage? lowercaseSpans n = some m := by
  have hspans : ∀ span ∈ uppercaseSpans,
      spansMiss span.1 span.2.1 numericSpans = true ∨ span.1 = 0x2160 ∧ span.2.1 = 0x216F := by decide +kernel
  have hforms : ∀ k < 16, (spanImage? lowercaseSpans (0x2160 + k)).isSome = true := by decide +kernel
  obtain ⟨span, hspan, hlow, hhigh⟩ := exists_of_inStridedSpans hcapital
  rcases hspans span hspan with hmiss | ⟨hfirst, hlast⟩
  · rw [inSpans_of_miss hmiss hlow hhigh] at hnumeric
    cases hnumeric
  · have hform := hforms (n - 0x2160) (by omega)
    rw [show 0x2160 + (n - 0x2160) = n by omega] at hform
    exact Option.isSome_iff_exists.1 hform

end Table
end CallOrder.Text

namespace CallOrder.Identifier

/-- Characters of which the second is the lowercase form of the first wherever it stands. -/
def LowersTo (c d : Char) : Prop := c ≠ 'Σ' ∧ Text.lowercaseChar c = [d]

theorem lowercase_of_lowersTo {written word : List Char} (h : List.Forall₂ LowersTo written word) :
    Text.lowercase written = word := by
  have hafter : ∀ before, Text.lowercaseAfter before written = word := by
    induction h with
    | nil => exact fun _ => rfl
    | cons hc _ ih =>
      intro before
      rw [Text.lowercaseAfter, Text.lowercaseBetween, if_neg hc.1, hc.2, ih]
      rfl
  exact hafter []

instance (c : Char) : Decidable (IsCapital c) := inferInstanceAs (Decidable (Text.isUppercase c = true))

/-- A capital without a lowercase form. -/
def IsRigid (c : Char) : Prop := IsCapital c ∧ Text.lowercaseChar c = [c]

/-- What the lowercase form `d` of a character `c` keeps of it. -/
structure LowersAs (c d : Char) : Prop where
  settled : LowersTo d d
  isDigit_iff : IsDigit d ↔ Text.isNumeric c = true
  isCapital_iff : IsCapital d ↔ IsRigid c
  solid : ¬ Separates c → ¬ Separates d

section Characters
variable {c d : Char} {m : ℕ}

theorem of_ascii {p : Char → Prop} (h : ∀ n < 128, p (Char.ofNat n)) (hc : c.toNat < 128) : p c := by
  have hp := h c.toNat hc
  rwa [Char.ofNat_toNat] at hp

private theorem toNat_ofNat (h : m.isValidChar) : (Char.ofNat m).toNat = m := by
  rw [Char.ofNat, dif_pos h]
  rfl

private theorem lowercaseChar_of_some (hc : c ≠ 'İ') (h : Text.spanImage? Text.lowercaseSpans c.toNat = some m) :
    Text.lowercaseChar c = [Char.ofNat m] := by
  rw [Text.lowercaseChar, if_neg hc, h]

private theorem lowercaseChar_of_none (hc : c ≠ 'İ') (h : Text.spanImage? Text.lowercaseSpans c.toNat = none) :
    Text.lowercaseChar c = [c] := by
  rw [Text.lowercaseChar, if_neg hc, h]

private theorem lowersTo_self (hcapital : ¬ IsCapital c) (h : Text.spanImage? Text.lowercaseSpans c.toNat = none) :
    LowersTo c c := by
  refine ⟨?_, lowercaseChar_of_none ?_ h⟩
  · rintro rfl
    exact hcapital (by decide +kernel)
  · rintro rfl
    exact hcapital (by decide +kernel)

/-- A character that is not in the table stays as it is. -/
private theorem lowersAs_self (hsettled : LowersTo c c) (h : Text.spanImage? Text.lowercaseSpans c.toNat = none) :
    LowersAs c c := by
  refine ⟨hsettled, ⟨And.left, fun hnumeric => ⟨hnumeric, fun hcapital => ?_⟩⟩,
    ⟨fun hcapital => ⟨hcapital, hsettled.2⟩, And.left⟩, id⟩
  obtain ⟨m, hm⟩ := Text.exists_spanImage?_of_numeral hcapital hnumeric
  cases h.symm.trans hm

private theorem lowersAs_image (hc : c ≠ 'İ') (h : Text.spanImage? Text.lowercaseSpans c.toNat = some m) :
    LowersAs c (Char.ofNat m) := by
  have hform := Text.isLowercaseForm_of_spanImage? h
  have htoNat : (Char.ofNat m).toNat = m := toNat_ofNat hform.isValidChar
  have hcapital : ¬ IsCapital (Char.ofNat m) := by
    rw [IsCapital, Text.isUppercase, htoNat, hform.uppercase]
    exact Bool.false_ne_true
  have hnumeric : Text.isNumeric (Char.ofNat m) = Text.isNumeric c := by
    rw [Text.isNumeric, htoNat, hform.numeric_eq, Text.isNumeric]
  have hrigid : ¬ IsRigid c := fun hrigid => by
    have heq : Char.ofNat m = c := List.singleton_inj.1 ((lowercaseChar_of_some hc h).symm.trans hrigid.2)
    rw [← heq, htoNat, hform.settled] at h
    cases h
  have hsettled : Text.spanImage? Text.lowercaseSpans (Char.ofNat m).toNat = none := by
    rw [htoNat, hform.settled]
  refine ⟨lowersTo_self hcapital hsettled, ?_, iff_of_false hcapital hrigid, fun _ hsep => ?_⟩
  · rw [IsDigit, hnumeric]
    exact and_iff_left hcapital
  · by_cases hd : Text.isNumeric (Char.ofNat m) = true
    · exact hsep.2 ⟨hd, hcapital⟩
    · refine hsep.1 (.inr ⟨?_, hd, hcapital⟩)
      rw [Text.isAlphabetic, htoNat, hform.alphabetic]

private theorem lowersAs_finalSigma : LowersAs 'Σ' 'ς' := by
  have hcapital : ¬ IsCapital 'ς' := by decide +kernel
  have hrigid : ¬ IsRigid 'Σ' := fun h => absurd h.2 (by decide +kernel)
  refine ⟨lowersTo_self hcapital (by decide +kernel), iff_of_false ?_ ?_, iff_of_false hcapital hrigid,
    fun _ => by decide +kernel⟩
  · exact fun h => absurd h.1 (by decide +kernel)
  · decide +kernel

/-- Every character but the dotted capital I has one character as its lowercase form, whatever stands around it. -/
theorem exists_lowersAs (hc : c ≠ 'İ') (before after : List Char) :
    ∃ d, Text.lowercaseBetween before c after = [d] ∧ LowersAs c d := by
  have hform : ∃ d, Text.lowercaseChar c = [d] ∧ LowersAs c d := by
    cases h : Text.spanImage? Text.lowercaseSpans c.toNat with
    | some m => exact ⟨_, lowercaseChar_of_some hc h, lowersAs_image hc h⟩
    | none =>
      have hsettled : LowersTo c c := ⟨?_, lowercaseChar_of_none hc h⟩
      · exact ⟨c, hsettled.2, lowersAs_self hsettled h⟩
      · rintro rfl
        exact absurd h (by decide +kernel)
  -- the capital sigma has two forms, of which the table holds the one within a word
  by_cases hsigma : c = 'Σ'
  · subst hsigma
    obtain ⟨d, hd, hlowers⟩ := hform
    have hd' : d = 'σ' := List.singleton_inj.1 (hd.symm.trans (by decide +kernel))
    rw [Text.lowercaseBetween, if_pos rfl]
    split
    · exact ⟨_, rfl, lowersAs_finalSigma⟩
    · exact ⟨_, rfl, hd' ▸ hlowers⟩
  · rw [Text.lowercaseBetween, if_neg hsigma]
    exact hform

private theorem lowercaseBetween_dotted (before after : List Char) :
    Text.lowercaseBetween before 'İ' after = ['i', '\u0307'] := by
  rw [Text.lowercaseBetween, if_neg (by decide), Text.lowercaseChar, if_pos rfl]

end Characters

section Texts
variable {text : List Char} {d : Char}

/-- Without a dotted capital I, the lowercase form of a text is that of its characters one by one. -/
theorem lowercase_lowersAs (h : 'İ' ∉ text) : List.Forall₂ LowersAs text (Text.lowercase text) := by
  suffices hafter : ∀ before, List.Forall₂ LowersAs text (Text.lowercaseAfter before text) from hafter []
  induction text with
  | nil => exact fun _ => .nil
  | cons c rest ih =>
    intro before
    rw [List.mem_cons, not_or] at h
    obtain ⟨d, hd, hlowers⟩ := exists_lowersAs (Ne.symm h.1) before rest
    rw [Text.lowercaseAfter, hd]
    exact .cons hlowers (ih h.2 _)

theorem lowersTo_of_mem_lowercase (h : d ∈ Text.lowercase text) : LowersTo d d := by
  suffices hafter : ∀ before, d ∈ Text.lowercaseAfter before text → LowersTo d d from hafter [] h
  clear h
  induction text with
  | nil => exact fun _ h => absurd h List.not_mem_nil
  | cons c rest ih =>
    intro before h
    rw [Text.lowercaseAfter, List.mem_append] at h
    rcases h with h | h
    · by_cases hc : c = 'İ'
      · subst hc
        rw [lowercaseBetween_dotted, List.mem_cons, List.mem_singleton] at h
        rcases h with rfl | rfl
        · exact lowersTo_self (by decide +kernel) (by decide +kernel)
        · exact lowersTo_self (by decide +kernel) (by decide +kernel)
      · obtain ⟨e, he, hlowers⟩ := exists_lowersAs hc before rest
        rw [he, List.mem_singleton] at h
        exact h ▸ hlowers.settled
    · exact ih _ h

theorem dot_mem_lowercase (h : 'İ' ∈ text) : '\u0307' ∈ Text.lowercase text := by
  suffices hafter : ∀ before, '\u0307' ∈ Text.lowercaseAfter before text from hafter []
  induction text with
  | nil => cases h
  | cons c rest ih =>
    intro before
    rw [Text.lowercaseAfter, List.mem_append]
    rcases List.mem_cons.1 h with rfl | h
    · left
      rw [lowercaseBetween_dotted]
      decide
    · exact .inr (ih h _)

theorem lowercase_of_settled (h : ∀ c ∈ text, LowersTo c c) : Text.lowercase text = text :=
  lowercase_of_lowersTo (List.forall₂_same.2 h)

theorem lowercase_lowercase (text : List Char) : Text.lowercase (Text.lowercase text) = Text.lowercase text :=
  lowercase_of_settled fun _ => lowersTo_of_mem_lowercase

end Texts

end CallOrder.Identifier
