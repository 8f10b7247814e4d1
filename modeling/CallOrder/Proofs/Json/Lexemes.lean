import CallOrder.Json.Token
import CallOrder.Proofs.Decimal.Spelling

/-! The texts of strings and of numbers in JSON. What is read of one that is complete is read of its own text, whatever
stands behind it; so a text falls into the texts of its tokens. -/
namespace CallOrder.Json

namespace Quoted

/-- A text that is read as this string to its closing quotation mark. -/
structure IsSpelling (quoted : Quoted) (text : List Char) : Prop where
  closed : quoted.ending = .closed
  reads : ∀ rest, read (text ++ rest) = (quoted, rest)

private theorem read_char {c : Char} (hquote : c ≠ '"') (hback : c ≠ '\\') (hcontrol : ¬ c.toNat < 0x20) (rest : List Char) :
    read (c :: rest) = ((read rest).1.add (.char c), (read rest).2) := by
  rw [read.eq_def]
  split <;> simp_all

private theorem read_shortEscape {c e : Char} (hunit : c ≠ 'u') (h : shortEscape? c = some e) (rest : List Char) :
    read ('\\' :: c :: rest) = ((read rest).1.add (.char e), (read rest).2) := by
  rw [read]
  · rw [h]
  · intro a b c d rest hc
    exact absurd hc hunit
  · intro hc
    exact absurd hc hunit

/-- What is read of a closed string does not depend on what stands behind it. -/
theorem exists_isSpelling (text : List Char) (h : (read text).1.ending = .closed) :
    ∃ used, text = used ++ (read text).2 ∧ (read text).1.IsSpelling used := by
  fun_induction read text with
  | case1 | case3 => cases h
  | case2 rest => exact ⟨['"'], rfl, h, fun _ => rfl⟩
  | case4 a b c d rest n hunit quoted after hread ih =>
    rw [hread] at ih
    obtain ⟨used, htext, hclosed, hreads⟩ := ih h
    refine ⟨'\\' :: 'u' :: a :: b :: c :: d :: used, by rw [htext]; rfl, hclosed, ?_⟩
    intro rest'
    simp only [List.cons_append, read, hunit, hreads]
  | case5 a b c d rest | case6 rest =>
    simp only [unitEnd] at h
    split at h <;> cases h
  | case7 c rest hunit hplain e hescape quoted after hread ih =>
    rw [hread] at ih
    obtain ⟨used, htext, hclosed, hreads⟩ := ih h
    refine ⟨'\\' :: c :: used, by rw [htext]; rfl, hclosed, ?_⟩
    intro rest'
    rw [List.cons_append, List.cons_append, read_shortEscape hplain hescape, hreads]
  | case8 | case9 => cases h
  | case10 c rest hquote hlast hunit hcut hescape hcontrol quoted after hread ih =>
    rw [hread] at ih
    obtain ⟨used, htext, hclosed, hreads⟩ := ih h
    have hback : c ≠ '\\' := by
      intro hc
      cases rest with
      | nil => exact hlast hc rfl
      | cons d rest => exact hescape d rest hc rfl
    refine ⟨c :: used, by rw [htext]; rfl, hclosed, ?_⟩
    intro rest'
    rw [List.cons_append, read_char hquote hback hcontrol, hreads]

end Quoted

/-- Whether digits end before this text. -/
def EndsDigits (rest : List Char) : Prop := ∀ c ∈ rest.head?, Decimal.isDigit c = false

/-- Whether a number ends before this text. -/
def EndsNumber (rest : List Char) : Prop :=
  ∀ c ∈ rest.head?, Decimal.isDigit c = false ∧ c ≠ '.' ∧ c ≠ 'e' ∧ c ≠ 'E'

theorem EndsNumber.nil : EndsNumber [] := by simp [EndsNumber]

theorem EndsNumber.cons {c : Char} (rest : List Char) (hdigit : Decimal.isDigit c = false)
    (hc : c ≠ '.' ∧ c ≠ 'e' ∧ c ≠ 'E') : EndsNumber (c :: rest) := by
  rintro _ ⟨⟩
  exact ⟨hdigit, hc⟩

theorem EndsNumber.endsDigits {rest : List Char} (h : EndsNumber rest) : EndsDigits rest := fun c hc => (h c hc).1

theorem endsDigits_dropWhile (text : List Char) : EndsDigits (text.dropWhile Decimal.isDigit) := by
  intro c hc
  have hnot := List.head?_dropWhile_not Decimal.isDigit text
  rw [hc] at hnot
  simpa using hnot

theorem isDigits_takeWhile {text : List Char} (h : text.takeWhile Decimal.isDigit ≠ []) :
    Decimal.IsDigits (text.takeWhile Decimal.isDigit) :=
  ⟨h, fun _ hc => List.mem_takeWhile_imp hc⟩

namespace Numeral

/-- A text that is read as this number, unless what stands behind it goes on with the number. -/
structure IsSpelling (numeral : Numeral) (text : List Char) : Prop where
  complete : numeral.ending = .complete
  reads : ∀ rest, EndsNumber rest → read (text ++ rest) = (numeral, rest)

/-- What stands before the digits of an exponent, and whether the exponent is negative. -/
inductive IsMark : List Char → Bool → Prop where
  | minus {c : Char} (hc : c = 'e' ∨ c = 'E') : IsMark [c, '-'] true
  | plus {c : Char} (hc : c = 'e' ∨ c = 'E') : IsMark [c, '+'] false
  | bare {c : Char} (hc : c = 'e' ∨ c = 'E') : IsMark [c] false

theorem IsMark.head {mark : List Char} {negative : Bool} (h : IsMark mark negative) (rest : List Char) :
    ∀ c ∈ (mark ++ rest).head?, Decimal.isDigit c = false ∧ c ≠ '.' := by
  cases h with
  | minus hc | plus hc | bare hc =>
    rintro _ ⟨⟩
    rcases hc with rfl | rfl <;> exact ⟨rfl, by decide⟩

private theorem missingDigit_ne (text : List Char) : missingDigit text ≠ .complete := by
  rw [missingDigit]
  split <;> exact nofun

section Exponent
variable {numeral : Numeral} {mark digits rest text : List Char} {negative : Bool}

private theorem not_sign_of_isDigits (h : Decimal.IsDigits digits) (more : List Char) :
    digits ++ rest ≠ '-' :: more ∧ digits ++ rest ≠ '+' :: more := by
  obtain ⟨c, digits, rfl⟩ := List.exists_cons_of_ne_nil h.ne_nil
  have hc := h.all c List.mem_cons_self
  constructor
  · intro heq
    rw [(List.cons.inj heq).1] at hc
    exact absurd hc (by decide)
  · intro heq
    rw [(List.cons.inj heq).1] at hc
    exact absurd hc (by decide)

theorem readExponent_mark (hmark : IsMark mark negative) (hdigits : Decimal.IsDigits digits) (hrest : EndsDigits rest) :
    readExponent numeral (mark ++ digits ++ rest) = ({ numeral with exponent := some (negative, digits) }, rest) := by
  have htake := Decimal.takeWhile_digits hdigits.all hrest
  have hdrop := Decimal.dropWhile_digits hdigits.all hrest
  have hne := hdigits.ne_nil
  cases hmark with
  | minus hc | plus hc =>
    simp only [List.cons_append, List.nil_append, readExponent, htake, hdrop]
    split <;> simp_all
  | bare hc =>
    simp only [List.cons_append, List.nil_append]
    rw [readExponent, htake, hdrop]
    · split <;> simp_all
    · exact fun more => (not_sign_of_isDigits hdigits more).1
    · exact fun more => (not_sign_of_isDigits hdigits more).2

theorem readExponent_none (h : EndsNumber rest) : readExponent numeral rest = (numeral, rest) := by
  cases rest with
  | nil => rfl
  | cons c rest =>
    obtain ⟨-, -, he, hE⟩ := h c rfl
    simp [readExponent, he, hE]

/-- An exponent that is read has a mark and digits. -/
private theorem exists_mark (h : (readExponent numeral text).1.ending = .complete) :
    readExponent numeral text = (numeral, text) ∨ ∃ mark negative digits rest, IsMark mark negative ∧
      Decimal.IsDigits digits ∧ EndsDigits rest ∧ text = mark ++ digits ++ rest := by
  rw [readExponent.eq_def] at h ⊢
  split at h
  · exact .inl rfl
  · rename_i c text
    split at h
    · rename_i hc
      rw [Bool.or_eq_true, decide_eq_true_eq, decide_eq_true_eq] at hc
      obtain ⟨mark, negative, more, hmark, htext, hne⟩ : ∃ mark negative more, IsMark mark negative ∧
          c :: text = mark ++ more ∧ more.takeWhile Decimal.isDigit ≠ [] := by
        split at h
        rename_i negative digits hsign
        have hne : digits.takeWhile Decimal.isDigit ≠ [] := by
          intro hnil
          simp only [hnil] at h
          exact missingDigit_ne _ h
        split at hsign
        · cases hsign
          exact ⟨_, _, _, .minus hc, rfl, hne⟩
        · cases hsign
          exact ⟨_, _, _, .plus hc, rfl, hne⟩
        · cases hsign
          exact ⟨_, _, _, .bare hc, rfl, hne⟩
      right
      refine ⟨mark, negative, _, _, hmark, isDigits_takeWhile hne, endsDigits_dropWhile more, ?_⟩
      rw [List.append_assoc, List.takeWhile_append_dropWhile, htext]
    · rename_i hc
      left
      simp only [hc]
      rfl

/-- An exponent, if there is one, is read the same before any text that does not go on with the number. -/
private theorem exists_exponent (h : (readExponent numeral text).1.ending = .complete) (hdigit : EndsDigits text) :
    ∃ tail, text = tail ++ (readExponent numeral text).2 ∧ EndsDigits (readExponent numeral text).2 ∧
      ∀ rest, EndsNumber rest → readExponent numeral (tail ++ rest) = ((readExponent numeral text).1, rest) ∧
        ∀ c ∈ (tail ++ rest).head?, Decimal.isDigit c = false ∧ c ≠ '.' := by
  rcases exists_mark h with hnone | ⟨mark, negative, digits, after, hmark, hdigits, hafter, rfl⟩
  · rw [hnone]
    refine ⟨[], rfl, hdigit, ?_⟩
    intro rest hrest
    exact ⟨readExponent_none hrest, fun c hc => ⟨(hrest c hc).1, (hrest c hc).2.1⟩⟩
  · rw [readExponent_mark hmark hdigits hafter]
    refine ⟨mark ++ digits, rfl, hafter, ?_⟩
    intro rest hrest
    refine ⟨readExponent_mark hmark hdigits hrest.endsDigits, ?_⟩
    rw [List.append_assoc]
    exact hmark.head _

end Exponent

section Tail
variable {numeral : Numeral} {digits rest text : List Char}

theorem readTail_of_ne (h : ∀ c ∈ text.head?, c ≠ '.') : readTail numeral text = readExponent numeral text := by
  rw [readTail.eq_def]
  split
  · exact absurd rfl (h '.' rfl)
  · rfl

theorem readTail_point (numeral : Numeral) (hdigits : Decimal.IsDigits digits) (hrest : EndsDigits rest) :
    readTail numeral ('.' :: (digits ++ rest)) = readExponent { numeral with fraction := some digits } rest := by
  simp only [readTail, Decimal.takeWhile_digits hdigits.all hrest, Decimal.dropWhile_digits hdigits.all hrest]
  split
  · exact absurd rfl hdigits.ne_nil
  · rfl

/-- What may stand behind the whole part of a number: it is read with the number, and is no digit of the whole part. -/
private theorem exists_tail (h : (readTail numeral text).1.ending = .complete) (hdigit : EndsDigits text) :
    ∃ tail, text = tail ++ (readTail numeral text).2 ∧ EndsDigits (readTail numeral text).2 ∧
      ∀ rest, EndsNumber rest → readTail numeral (tail ++ rest) = ((readTail numeral text).1, rest) ∧
        EndsDigits (tail ++ rest) := by
  by_cases hpoint : ∃ more, text = '.' :: more
  · obtain ⟨more, rfl⟩ := hpoint
    have hne : more.takeWhile Decimal.isDigit ≠ [] := by
      intro hnil
      simp only [readTail, hnil] at h
      exact missingDigit_ne _ h
    have hmore := readTail_point numeral (isDigits_takeWhile hne) (endsDigits_dropWhile more)
    rw [List.takeWhile_append_dropWhile] at hmore
    rw [hmore] at h ⊢
    obtain ⟨tail, htext, hends, htail⟩ := exists_exponent h (endsDigits_dropWhile more)
    refine ⟨'.' :: (more.takeWhile Decimal.isDigit ++ tail), ?_, hends, ?_⟩
    · rw [List.cons_append, List.append_assoc, ← htext, List.takeWhile_append_dropWhile]
    · intro rest hrest
      constructor
      · rw [List.cons_append, List.append_assoc,
          readTail_point numeral (isDigits_takeWhile hne) fun c hc => ((htail rest hrest).2 c hc).1]
        exact (htail rest hrest).1
      · rintro _ ⟨⟩
        rfl
  · have hhead : ∀ c ∈ text.head?, c ≠ '.' := by
      rintro c hc rfl
      obtain ⟨more, rfl⟩ := List.head?_eq_some_iff.1 hc
      exact hpoint ⟨more, rfl⟩
    rw [readTail_of_ne hhead] at h ⊢
    obtain ⟨tail, htext, hends, htail⟩ := exists_exponent h hdigit
    refine ⟨tail, htext, hends, ?_⟩
    intro rest hrest
    constructor
    · rw [readTail_of_ne fun c hc => ((htail rest hrest).2 c hc).2]
      exact (htail rest hrest).1
    · exact fun c hc => ((htail rest hrest).2 c hc).1

end Tail

section Digits
variable {digits rest text : List Char}

theorem readDigits_eq (negative : Bool) (hdigits : Decimal.IsDigits digits) (hleading : digits.head? = some '0' → digits = ['0'])
    (hrest : EndsDigits rest) :
    readDigits negative (digits ++ rest) = readTail { negative, whole := digits } rest := by
  simp only [readDigits, Decimal.takeWhile_digits hdigits.all hrest, Decimal.dropWhile_digits hdigits.all hrest]
  split
  · exact absurd rfl hdigits.ne_nil
  · rfl
  · rename_i hmany
    exact absurd (hleading rfl) (by simpa using hmany)
  · rfl

private theorem exists_digits (negative : Bool) (h : (readDigits negative text).1.ending = .complete) :
    ∃ used, text = used ++ (readDigits negative text).2 ∧ EndsDigits (readDigits negative text).2 ∧
      (∃ c more, used = c :: more ∧ Decimal.isDigit c = true) ∧
      ∀ rest, EndsNumber rest → readDigits negative (used ++ rest) = ((readDigits negative text).1, rest) := by
  have hdigits : Decimal.IsDigits (text.takeWhile Decimal.isDigit) := by
    apply isDigits_takeWhile
    intro hnil
    simp only [readDigits, hnil] at h
    exact missingDigit_ne _ h
  have hleading : (text.takeWhile Decimal.isDigit).head? = some '0' → text.takeWhile Decimal.isDigit = ['0'] := by
    intro hzero
    obtain ⟨more, hmore⟩ := List.head?_eq_some_iff.1 hzero
    cases more with
    | nil => exact hmore
    | cons d more =>
      simp only [readDigits, hmore] at h
      cases h
  have hread := readDigits_eq negative hdigits hleading (endsDigits_dropWhile text)
  rw [List.takeWhile_append_dropWhile] at hread
  rw [hread] at h ⊢
  obtain ⟨tail, htext, hends, htail⟩ := exists_tail h (endsDigits_dropWhile text)
  refine ⟨text.takeWhile Decimal.isDigit ++ tail, ?_, hends, ?_, ?_⟩
  · rw [List.append_assoc, ← htext, List.takeWhile_append_dropWhile]
  · obtain ⟨c, more, hcons⟩ := List.exists_cons_of_ne_nil hdigits.ne_nil
    exact ⟨c, more ++ tail, by rw [hcons]; rfl, hdigits.all c (hcons ▸ List.mem_cons_self)⟩
  · intro rest hrest
    rw [List.append_assoc, readDigits_eq negative hdigits hleading (htail rest hrest).2, (htail rest hrest).1]

end Digits

theorem read_of_ne {text : List Char} (h : ¬ ∃ more, text = '-' :: more) : read text = readDigits false text := by
  rw [read]
  intro more heq
  exact h ⟨more, heq⟩

theorem read_digit {c : Char} (hc : Decimal.isDigit c = true) (text : List Char) :
    read (c :: text) = readDigits false (c :: text) := by
  apply read_of_ne
  rintro ⟨more, heq⟩
  rw [(List.cons.inj heq).1] at hc
  exact absurd hc (by decide)

/-- A complete number has a text of its own, which begins with a sign or a digit, and behind which no digit stands. -/
theorem exists_isSpelling (text : List Char) (h : (read text).1.ending = .complete) :
    ∃ c more, text = c :: more ++ (read text).2 ∧ (c = '-' ∨ Decimal.isDigit c = true) ∧ EndsDigits (read text).2 ∧
      (read text).1.IsSpelling (c :: more) := by
  by_cases hminus : ∃ more, text = '-' :: more
  · obtain ⟨more, rfl⟩ := hminus
    obtain ⟨used, htext, hends, -, hreads⟩ := exists_digits true h
    refine ⟨'-', used, ?_, .inl rfl, hends, h, hreads⟩
    rw [List.cons_append, read, ← htext]
  · rw [read_of_ne hminus] at h ⊢
    obtain ⟨used, htext, hends, ⟨c, more, rfl, hc⟩, hreads⟩ := exists_digits false h
    refine ⟨c, more, htext, .inr hc, hends, h, ?_⟩
    intro rest hrest
    rw [List.cons_append, read_digit hc]
    exact hreads rest hrest

theorem IsSpelling.exists_cons {numeral : Numeral} {text : List Char} (h : numeral.IsSpelling text) :
    ∃ c more, text = c :: more ∧ (c = '-' ∨ Decimal.isDigit c = true) := by
  have hread := h.reads [] .nil
  rw [List.append_nil] at hread
  have hcomplete : (read text).1.ending = .complete := by
    rw [hread]
    exact h.complete
  obtain ⟨c, more, htext, hc, -⟩ := exists_isSpelling text hcomplete
  exact ⟨c, _, htext, hc⟩

end Numeral

end CallOrder.Json
