import CallOrder.Decimal.Notation
import CallOrder.Decimal.Reading
import Mathlib.Algebra.Order.Field.Power
import Mathlib.Algebra.Order.Field.Rat
import Mathlib.Data.List.TakeWhile
import Mathlib.Tactic.Ring

/-! Spellings of decimals: digits, a point between digits, an exponent. What a notation writes is the spelling of a
decimal, and the digits and the exponent of the spelling say which one. -/
namespace CallOrder.Decimal

/-- One or more digits. -/
structure IsDigits (text : List Char) : Prop where
  ne_nil : text ≠ []
  all : ∀ c ∈ text, isDigit c = true

private theorem isDigit_eq (c : Char) : isDigit c = c.isDigit := by
  simp [isDigit, Char.isDigit, Char.le_def]

theorem valueOfDigits_eq (digits : List Char) : valueOfDigits digits = Nat.ofDigitChars 10 digits 0 :=
  Nat.ofDigitChars_eq_foldl.symm

theorem digitsOf_isDigits (n : ℕ) : IsDigits (digitsOf n) :=
  ⟨Nat.toDigits_ne_nil, fun c hc => by
    rw [isDigit_eq]
    exact Nat.isDigit_of_mem_toDigits (by norm_num) le_rfl hc⟩

@[simp]
theorem valueOfDigits_digitsOf (n : ℕ) : valueOfDigits (digitsOf n) = n := by
  rw [valueOfDigits_eq]
  exact Nat.ofDigitChars_ten_toDigits

theorem valueOfDigits_append_zeros (digits : List Char) (count : ℕ) :
    valueOfDigits (digits ++ List.replicate count '0') = valueOfDigits digits * 10^count := by
  rw [valueOfDigits_eq, valueOfDigits_eq, Nat.ofDigitChars_append, Nat.ofDigitChars_replicate_zero, Nat.mul_comm]

theorem valueOfDigits_zeros_append (digits : List Char) (count : ℕ) :
    valueOfDigits (List.replicate count '0' ++ digits) = valueOfDigits digits := by
  rw [valueOfDigits_eq, valueOfDigits_eq, Nat.ofDigitChars_append, Nat.ofDigitChars_replicate_zero, Nat.mul_zero]

section Digits
variable {digits rest : List Char}

theorem takeWhile_digits (hdigits : ∀ c ∈ digits, isDigit c = true)
    (hrest : ∀ c ∈ rest.head?, isDigit c = false) :
    (digits ++ rest).takeWhile isDigit = digits := by
  rw [List.takeWhile_append_of_pos hdigits]
  cases rest with
  | nil => simp
  | cons c rest => simp [hrest c rfl]

theorem dropWhile_digits (hdigits : ∀ c ∈ digits, isDigit c = true)
    (hrest : ∀ c ∈ rest.head?, isDigit c = false) :
    (digits ++ rest).dropWhile isDigit = rest := by
  rw [List.dropWhile_append_of_pos hdigits]
  cases rest with
  | nil => rfl
  | cons c rest => simp [hrest c rfl]

end Digits

/-- No number but zero begins with a zero. -/
theorem head?_digitsOf {n : ℕ} (h : (digitsOf n).head? = some '0') : digitsOf n = ['0'] := by
  induction n using Nat.strongRecOn with
  | _ n ih =>
    rw [digitsOf, Nat.toDigits_eq_if (by norm_num)] at h ⊢
    split at h
    · rename_i hlt
      rw [if_pos hlt]
      simpa using h
    -- A number of several digits would begin with the zero of a smaller one, which is a zero then.
    · rename_i hle
      have hdiv : digitsOf (n / 10) = ['0'] := by
        refine ih (n / 10) (by omega) ?_
        rwa [List.head?_append, List.head?_eq_some_head Nat.toDigits_ne_nil, Option.some_or,
          ← List.head?_eq_some_head Nat.toDigits_ne_nil] at h
      have hzero : n / 10 = 0 := by
        rw [← valueOfDigits_digitsOf (n / 10), hdiv]
        rfl
      omega

/-- The parts of a decimal as it is spelled. -/
structure Spelling where
  whole : List Char
  /-- The digits behind the point, if there is one. -/
  fraction : Option (List Char)
  /-- The sign of the exponent, and its digits. -/
  exponent : Option (Bool × List Char)

/-- The texts of an exponent, with or without a sign if it is not negative. -/
inductive SpellsExponent : Option (Bool × List Char) → List Char → Prop where
  | none : SpellsExponent none []
  | negative {digits : List Char} (h : IsDigits digits) : SpellsExponent (some (true, digits)) ('e' :: '-' :: digits)
  | plus {digits : List Char} (h : IsDigits digits) : SpellsExponent (some (false, digits)) ('e' :: '+' :: digits)
  | bare {digits : List Char} (h : IsDigits digits) : SpellsExponent (some (false, digits)) ('e' :: digits)

namespace Spelling

def pointed (spelling : Spelling) : List Char :=
  match spelling.fraction with
  | none => []
  | some digits => '.' :: digits

/-- The text of a spelling: digits stand on both sides of the point, and no needless zero in front. -/
structure IsText (spelling : Spelling) (text : List Char) : Prop where
  whole_digits : IsDigits spelling.whole
  leading : spelling.whole.head? = some '0' → spelling.whole = ['0']
  fraction_digits : ∀ digits, spelling.fraction = some digits → IsDigits digits
  text_eq : ∃ tail, SpellsExponent spelling.exponent tail ∧ text = spelling.whole ++ spelling.pointed ++ tail

/-- All digits but those of the exponent, as one number. -/
def significand (spelling : Spelling) : ℕ := valueOfDigits (spelling.whole ++ spelling.fraction.getD [])

def exponentValue (spelling : Spelling) : ℤ :=
  match spelling.exponent with
  | none => 0
  | some (negative, digits) => if negative then -(valueOfDigits digits : ℤ) else valueOfDigits digits

/-- The exponent that goes with the significand. -/
def scale (spelling : Spelling) : ℤ := spelling.exponentValue - (spelling.fraction.getD []).length

/-- The decimal that is spelled. -/
def value (spelling : Spelling) : ℚ := spelling.significand * 10^spelling.scale

private theorem readExponent?_spelled {spelling : Spelling} {tail : List Char} (h : SpellsExponent spelling.exponent tail) :
    readExponent? tail = some spelling.exponentValue := by
  obtain ⟨whole, fraction, exponent⟩ := spelling
  have hdigits : ∀ {digits : List Char}, IsDigits digits → (digits.isEmpty || !digits.all isDigit) = false := by
    intro digits hdigits
    simpa [hdigits.ne_nil] using hdigits.all
  cases h with
  | none => rfl
  | negative h => simp [readExponent?, hdigits h, exponentValue]
  | plus h => simp [readExponent?, hdigits h, exponentValue]
  | @bare digits h =>
    have hsign : ∀ d, digits ≠ '-' :: d ∧ digits ≠ '+' :: d := by
      refine fun d => ⟨?_, ?_⟩ <;>
      · rintro rfl
        exact absurd (h.all _ List.mem_cons_self) (by decide)
    rw [readExponent?]
    · simp [hdigits h, exponentValue]
    · exact fun d => (hsign d).1
    · exact fun d => (hsign d).2

private theorem head?_spelled {exponent : Option (Bool × List Char)} {tail : List Char} (h : SpellsExponent exponent tail) :
    ∀ c ∈ tail.head?, isDigit c = false ∧ c ≠ '.' := by
  cases h <;> simp [isDigit]

/-- What is read where a spelling stands. -/
theorem IsText.read? {spelling : Spelling} {text : List Char} (h : spelling.IsText text) :
    Literal.read? text = some ⟨spelling.whole, spelling.fraction.getD [], spelling.exponentValue⟩ := by
  obtain ⟨tail, htail, rfl⟩ := h.text_eq
  have hexponent := readExponent?_spelled htail
  have hend := head?_spelled htail
  have hwhole : spelling.whole.isEmpty = false := by simp [h.whole_digits.ne_nil]
  rw [Literal.read?, List.append_assoc]
  cases hfraction : spelling.fraction with
  | none =>
    have hpointed : spelling.pointed = [] := by rw [pointed, hfraction]
    have hnone : ∀ c ∈ tail.head?, isDigit c = false := fun c hc => (hend c hc).1
    have hpoint : ∀ rest, tail ≠ '.' :: rest := by
      rintro rest rfl
      exact (hend '.' rfl).2 rfl
    rw [hpointed, List.nil_append, takeWhile_digits h.whole_digits.all hnone, dropWhile_digits h.whole_digits.all hnone]
    split
    · rename_i heq
      split at heq
      · rename_i rest
        exact absurd rfl (hpoint rest)
      · cases heq
        simp [hwhole, hexponent]
  | some digits =>
    have hdigits := h.fraction_digits digits hfraction
    have hpointed : spelling.pointed = '.' :: digits := by rw [pointed, hfraction]
    have hnone : ∀ c ∈ tail.head?, isDigit c = false := fun c hc => (hend c hc).1
    have hpoint : ∀ c ∈ ('.' :: (digits ++ tail)).head?, isDigit c = false := by
      rintro _ ⟨⟩
      rfl
    rw [hpointed, List.cons_append, takeWhile_digits h.whole_digits.all hpoint, dropWhile_digits h.whole_digits.all hpoint]
    simp [hwhole, takeWhile_digits hdigits.all hnone, dropWhile_digits hdigits.all hnone, hexponent]

/-- A spelling with a point or an exponent is not that of a whole number. -/
def IsReal (spelling : Spelling) : Prop := spelling.fraction.isSome ∨ spelling.exponent.isSome

end Spelling

def Scaled.value (d : Scaled) : ℚ := d.digits * 10^d.exponent

/-- The digits in front of the point, and those behind it. -/
theorem placePoint_eq (n places : ℕ) (hplaces : 0 < places) :
    ∃ whole fraction, placePoint (digitsOf n) places = whole ++ '.' :: fraction ∧ IsDigits whole ∧ IsDigits fraction ∧
      (whole.head? = some '0' → whole = ['0']) ∧ fraction.length = places ∧ valueOfDigits (whole ++ fraction) = n := by
  obtain ⟨zeros, hzeros⟩ : ∃ zeros, zeros = places + 1 - (digitsOf n).length := ⟨_, rfl⟩
  obtain ⟨padded, hpadded⟩ : ∃ padded, padded = List.replicate zeros '0' ++ digitsOf n := ⟨_, rfl⟩
  have hlength : padded.length = zeros + (digitsOf n).length := by simp [hpadded]
  have hdigits : ∀ c ∈ padded, isDigit c = true := by
    intro c hc
    rw [hpadded, List.mem_append] at hc
    rcases hc with hc | hc
    · rw [List.eq_of_mem_replicate hc]
      rfl
    · exact (digitsOf_isDigits n).all c hc
  have hpos : 0 < (digitsOf n).length := List.length_pos_iff.2 (digitsOf_isDigits n).ne_nil
  refine ⟨padded.take (padded.length - places), padded.drop (padded.length - places), ?_, ⟨?_, ?_⟩, ⟨?_, ?_⟩, ?_, ?_, ?_⟩
  · rw [placePoint, ← hzeros, ← hpadded]
  · exact List.ne_nil_of_length_pos (by rw [List.length_take]; omega)
  · exact fun c hc => hdigits c (List.mem_of_mem_take hc)
  · exact List.ne_nil_of_length_pos (by rw [List.length_drop]; omega)
  · exact fun c hc => hdigits c (List.mem_of_mem_drop hc)
  -- A zero in front was put there, and then it is the only digit before the point; or the number is zero.
  · intro hhead
    have hone : padded.length - places = 1 := by
      rcases Nat.eq_zero_or_pos zeros with h0 | h0
      · rw [List.head?_take, if_neg (by omega), hpadded, h0, List.replicate_zero, List.nil_append] at hhead
        have hzero : (digitsOf n).length = 1 := by rw [head?_digitsOf hhead]; rfl
        omega
      · omega
    rw [hone] at hhead ⊢
    cases h : padded with
    | nil => simp [h] at hhead
    | cons c rest => simpa [h] using hhead
  · rw [List.length_drop]
    omega
  · rw [List.take_append_drop, hpadded, valueOfDigits_zeros_append, valueOfDigits_digitsOf]

/-- A notation in which a number that is not whole can be told from a whole one. -/
structure Notation.IsExplicit (style : Notation) : Prop where
  wholeSuffix : style.wholeSuffix = ['.', '0']
  plus : style.plus = [] ∨ style.plus = ['+']

private theorem spellsExponent_of {plus : List Char} (hplus : plus = [] ∨ plus = ['+']) (lead : ℤ) :
    ∃ exponent, SpellsExponent (some exponent) ('e' :: (if lead < 0 then [] else plus) ++ spellInt lead) ∧
      (if exponent.1 then -(valueOfDigits exponent.2 : ℤ) else valueOfDigits exponent.2) = lead := by
  cases lead with
  | ofNat n =>
    refine ⟨(false, digitsOf n), ?_, by simp⟩
    rw [if_neg (show ¬ Int.ofNat n < 0 from (Int.natCast_nonneg n).not_gt)]
    rcases hplus with rfl | rfl
    · exact .bare (digitsOf_isDigits n)
    · exact .plus (digitsOf_isDigits n)
  | negSucc n =>
    refine ⟨(true, digitsOf (n + 1)), ?_, by simp [Int.negSucc_eq]⟩
    rw [if_pos (Int.negSucc_lt_zero n)]
    exact .negative (digitsOf_isDigits _)

/-- The exponent of the leading digit of a decimal. -/
def Scaled.lead (d : Scaled) : ℤ := d.exponent + ((digitsOf d.digits).length - 1)

/-- A text that spells a decimal in a notation. Either the significand is that of the decimal, or the decimal is a whole
number that is written out, with a zero behind the point. -/
structure Notation.Spells (style : Notation) (d : Scaled) (spelling : Spelling) (text : List Char) : Prop where
  isText : spelling.IsText text
  isReal : spelling.IsReal
  value_eq : spelling.value = d.value
  significand : spelling.significand = d.digits ∨ style.isPositional d.lead = true ∧ 0 ≤ d.exponent ∧
    spelling.significand = d.digits * 10^(d.exponent.toNat + 1)
  exponent : spelling.exponent = none ∨ style.isPositional d.lead = false ∧ spelling.exponentValue = d.lead

section Written
variable {style : Notation} {d : Scaled}

/-- A decimal with places after the point. -/
private theorem Notation.spells_places (hneg : d.exponent < 0) :
    ∃ spelling : Spelling, style.Spells d spelling (placePoint (digitsOf d.digits) (-d.exponent).toNat) := by
  obtain ⟨whole, fraction, htext, hwhole, hfraction, hleading, hlength, hvalue⟩ :=
    placePoint_eq d.digits (-d.exponent).toNat (by omega)
  refine ⟨⟨whole, some fraction, none⟩, ⟨hwhole, hleading, ?_, [], .none, ?_⟩, .inl rfl, ?_, .inl hvalue, .inl rfl⟩
  · rintro _ ⟨⟩
    exact hfraction
  · simp [Spelling.pointed, htext]
  · simp only [Spelling.value, Spelling.significand, Spelling.scale, Spelling.exponentValue, Option.getD_some,
      hvalue, hlength, Scaled.value]
    congr 2
    omega

private theorem Notation.isDigits_zeros_after (d : Scaled) :
    IsDigits (digitsOf d.digits ++ List.replicate d.exponent.toNat '0') := by
  refine ⟨by simp [(digitsOf_isDigits d.digits).ne_nil], fun c hc => ?_⟩
  rcases List.mem_append.1 hc with hc | hc
  · exact (digitsOf_isDigits d.digits).all c hc
  · rw [List.eq_of_mem_replicate hc]
    rfl

/-- Only zero begins with a zero, and zero has no further ones. -/
private theorem Notation.head?_zeros_after (hzero : d.digits = 0 → d.exponent = 0)
    (hhead : (digitsOf d.digits ++ List.replicate d.exponent.toNat '0').head? = some '0') :
    digitsOf d.digits ++ List.replicate d.exponent.toNat '0' = ['0'] := by
  have hdigits := (digitsOf_isDigits d.digits).ne_nil
  rw [List.head?_append, List.head?_eq_some_head hdigits, Option.some_or, ← List.head?_eq_some_head hdigits] at hhead
  have honly := head?_digitsOf hhead
  have hdzero : d.digits = 0 := by
    rw [← valueOfDigits_digitsOf d.digits, honly]
    rfl
  simp [honly, hzero hdzero]

/-- A whole decimal, written out, with a zero behind the point. -/
private theorem Notation.spells_wholeNumber (hpositional : style.isPositional d.lead = true) (hnonneg : 0 ≤ d.exponent)
    (hzero : d.digits = 0 → d.exponent = 0) : ∃ spelling : Spelling,
    style.Spells d spelling (digitsOf d.digits ++ List.replicate d.exponent.toNat '0' ++ ['.', '0']) := by
  have hsignificand : valueOfDigits (digitsOf d.digits ++ List.replicate d.exponent.toNat '0' ++ ['0']) =
      d.digits * 10^(d.exponent.toNat + 1) := by
    rw [List.append_assoc, show ['0'] = List.replicate 1 '0' from rfl, List.replicate_append_replicate,
      valueOfDigits_append_zeros, valueOfDigits_digitsOf]
  refine ⟨⟨digitsOf d.digits ++ List.replicate d.exponent.toNat '0', some ['0'], none⟩,
    ⟨isDigits_zeros_after d, head?_zeros_after hzero, ?_, [], .none, ?_⟩, .inl rfl, ?_,
    .inr ⟨hpositional, hnonneg, hsignificand⟩, .inl rfl⟩
  · rintro _ ⟨⟩
    exact ⟨by simp, List.forall_mem_singleton.2 rfl⟩
  · simp [Spelling.pointed]
  · have hexponent : d.exponent = (d.exponent.toNat : ℤ) := by omega
    simp only [Spelling.value, Spelling.significand, Spelling.scale, Spelling.exponentValue, Option.getD_some,
      hsignificand, Scaled.value]
    rw [hexponent, Int.toNat_natCast, zpow_natCast, List.length_singleton, Nat.cast_one, zero_sub, zpow_neg_one]
    push_cast
    ring

section Exponent
variable {exponent : Bool × List Char} {tail : List Char} (hpositional : style.isPositional d.lead = false)
  (hexponent : SpellsExponent (some exponent) tail)
  (hvalue : (if exponent.1 then -(valueOfDigits exponent.2 : ℤ) else valueOfDigits exponent.2) = d.lead)

include hpositional hexponent hvalue

private theorem Notation.spells_digit (hone : (digitsOf d.digits).length = 1) :
    ∃ spelling : Spelling, style.Spells d spelling (digitsOf d.digits ++ tail) := by
  refine ⟨⟨digitsOf d.digits, none, some exponent⟩,
    ⟨digitsOf_isDigits d.digits, head?_digitsOf, ?_, _, hexponent, ?_⟩, .inr rfl, ?_, .inl ?_,
    .inr ⟨hpositional, hvalue⟩⟩
  · rintro _ ⟨⟩
  · simp [Spelling.pointed]
  · simp only [Spelling.value, Spelling.significand, Spelling.scale, Spelling.exponentValue, Option.getD_none, hvalue,
      List.append_nil, valueOfDigits_digitsOf, List.length_nil, Scaled.value, Scaled.lead, hone]
    congr 2
    omega
  · simp [Spelling.significand]

private theorem Notation.spells_digits (hmany : 1 < (digitsOf d.digits).length) : ∃ spelling : Spelling,
    style.Spells d spelling (placePoint (digitsOf d.digits) ((digitsOf d.digits).length - 1) ++ tail) := by
  obtain ⟨whole, fraction, htext, hwhole, hfraction, hleading, hlength, hsignificand⟩ :=
    placePoint_eq d.digits ((digitsOf d.digits).length - 1) (by omega)
  refine ⟨⟨whole, some fraction, some exponent⟩, ⟨hwhole, hleading, ?_, _, hexponent, ?_⟩, .inl rfl, ?_,
    .inl hsignificand, .inr ⟨hpositional, hvalue⟩⟩
  · rintro _ ⟨⟩
    exact hfraction
  · simp [Spelling.pointed, htext]
  · simp only [Spelling.value, Spelling.significand, Spelling.scale, Spelling.exponentValue, Option.getD_some, hvalue,
      hsignificand, hlength, Scaled.value, Scaled.lead]
    congr 2
    omega

end Exponent

/-- What an explicit notation writes for a decimal is a spelling of it. -/
theorem Notation.spells_spellScaled (hstyle : style.IsExplicit) (hzero : d.digits = 0 → d.exponent = 0) :
    ∃ spelling : Spelling, style.Spells d spelling (style.spellScaled d) := by
  have hpos : 0 < (digitsOf d.digits).length := List.length_pos_iff.2 (digitsOf_isDigits d.digits).ne_nil
  unfold spellScaled
  dsimp only
  rw [← Scaled.lead]
  split
  · rename_i hpositional
    split
    · exact spells_places ‹_›
    · rw [hstyle.wholeSuffix]
      exact spells_wholeNumber hpositional (by omega) hzero
  · rename_i hpositional
    rw [Bool.not_eq_true] at hpositional
    obtain ⟨exponent, hexponent, hvalue⟩ := spellsExponent_of hstyle.plus d.lead
    rw [List.append_assoc]
    split
    · exact spells_digit hpositional hexponent hvalue ‹_›
    · exact spells_digits hpositional hexponent hvalue (by omega)

end Written

end CallOrder.Decimal
