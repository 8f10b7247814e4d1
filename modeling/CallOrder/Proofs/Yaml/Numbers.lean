import CallOrder.Proofs.Binary64.Decimal
import CallOrder.Proofs.Yaml.Printable
import CallOrder.Yaml.Plain

/-! Numbers as plain texts in YAML: whole numbers, and numbers of double precision with infinity among them. -/
namespace CallOrder.Yaml

open Decimal

private def digits : List Char := ['0', '1', '2', '3', '4', '5', '6', '7', '8', '9']

/-- The characters of which numbers consist. -/
def numerals : List Char := digits ++ ['.', '+', '-', 'e', 'i', 'n', 'f']

private theorem mem_digits {c : Char} (h : isDigit c = true) : c ∈ digits := by
  simp only [isDigit, Bool.and_eq_true, decide_eq_true_eq] at h
  have hlow : 48 ≤ c.toNat := h.1
  have hhigh : c.toNat ≤ 57 := h.2
  rw [← Char.ofNat_toNat c]
  generalize c.toNat = n at hlow hhigh
  interval_cases n <;> decide

theorem mem_numerals_of_isDigit {c : Char} (h : isDigit c = true) : c ∈ numerals := List.mem_append_left _ (mem_digits h)

private theorem isPrintable_numeral : ∀ c ∈ numerals, isPrintable c = true := List.all_eq_true.1 rfl

private theorem isLeadingIndicator_numeral {c : Char} (h : c ∈ numerals) : isLeadingIndicator c = false := by
  have hall : numerals.all (fun c => !isLeadingIndicator c) = true := by decide
  simpa using List.all_eq_true.1 hall c h

private theorem numeral_spec : ∀ c ∈ numerals,
    isBreak c = false ∧ isBlank c = false ∧ c ≠ ' ' ∧ c ≠ ':' ∧ c ≠ '#' ∧ c ≠ '?' := by
  simp [numerals, digits, isBreak, isBlank]

private theorem hasIndicatorAfter_numeric {text : List Char} (h : ∀ c ∈ text, c ∈ numerals) (before : Char) :
    hasIndicatorAfter before text = false := by
  induction text generalizing before with
  | nil => rfl
  | cons c text ih =>
    obtain ⟨-, -, -, hcolon, hcomment, -⟩ := numeral_spec c (h c List.mem_cons_self)
    rw [hasIndicatorAfter, ih fun d hd => h d (List.mem_cons_of_mem c hd)]
    simp [isIndicatorAt, hcolon, hcomment]

private theorem hasAtEnd_numeric {text : List Char} (h : ∀ d ∈ text, d ∈ numerals) : hasAtEnd (· = ' ') text = false := by
  have hspace : ∀ d ∈ text, d ≠ ' ' := fun d hd => (numeral_spec d (h d hd)).2.2.1
  rw [hasAtEnd, Bool.or_eq_false_iff]
  constructor
  · cases hd : text.head? with
    | none => rfl
    | some d => simpa using hspace d (List.mem_of_head? hd)
  · cases hd : text.getLast? with
    | none => rfl
    | some d => simpa using hspace d (List.mem_of_getLast? hd)

-- Two dashes could begin a document, and two points could end one.
private theorem hasIndicator_numeric {c : Char} {text : List Char} (h : ∀ d ∈ c :: text, d ∈ numerals)
    (hmark : c = '-' ∨ c = '.' → ∃ d ∈ text.head?, d ≠ c) : hasIndicator (c :: text) = false := by
  obtain ⟨-, -, -, hcolon, -, hquestion⟩ := numeral_spec c (h c List.mem_cons_self)
  have hlead := isLeadingIndicator_numeral (h c List.mem_cons_self)
  cases text with
  | nil =>
    have hdash : c ≠ '-' ∧ c ≠ '.' := by
      refine ⟨?_, ?_⟩ <;>
      · rintro rfl
        obtain ⟨d, hd, -⟩ := hmark (by simp)
        cases hd
    simp [hasIndicator, isIndicatorAt, hasIndicatorAfter, hlead, hquestion, hcolon, hdash, List.isPrefixOf]
  | cons d text =>
    have hafter := hasIndicatorAfter_numeric (fun d hd => h d (List.mem_cons_of_mem c hd)) c
    obtain ⟨hbreak, hblank, -⟩ := numeral_spec d (h d (by simp))
    have hsame : ('-' = c → '-' ≠ d) ∧ ('.' = c → '.' ≠ d) := by
      refine ⟨?_, ?_⟩ <;>
      · rintro rfl rfl
        obtain ⟨e, he, hne⟩ := hmark (by simp)
        cases he
        exact hne rfl
    simpa [hasIndicator, isIndicatorAt, hafter, hlead, startsBlank, hbreak, hblank, List.isPrefixOf] using
      ⟨fun hc hd => absurd hd (hsame.1 hc), fun hc hd => absurd hd (hsame.2 hc)⟩

/-- A number can be written as it is, if a sign or a point in front has another character behind it. -/
theorem canBePlain_numeric {c : Char} {text : List Char} (h : ∀ d ∈ c :: text, d ∈ numerals)
    (hfirst : isDigit c = true ∨ ∃ d ∈ text.head?, d ≠ c) : canBePlain (c :: text) = true := by
  have hprintable : (c :: text).all isPrintable = true := List.all_eq_true.2 fun d hd => isPrintable_numeral d (h d hd)
  have hline : (c :: text).any isBreak = false := List.any_eq_false.2 fun d hd => by simp [(numeral_spec d (h d hd)).1]
  have hmark : c = '-' ∨ c = '.' → ∃ d ∈ text.head?, d ≠ c := by
    intro hc
    refine hfirst.resolve_left fun hdigit => ?_
    rcases hc with rfl | rfl <;> exact absurd hdigit (by decide)
  rw [canBePlain, hprintable, hline, hasAtEnd_numeric h, hasIndicator_numeric h hmark]
  rfl

theorem canBePlain_digitsOf (n : ℕ) : canBePlain (digitsOf n) = true := by
  have hdigits := digitsOf_isDigits n
  cases h : digitsOf n with
  | nil => exact absurd h hdigits.ne_nil
  | cons c text =>
    rw [h] at hdigits
    exact canBePlain_numeric (fun d hd => mem_numerals_of_isDigit (hdigits.all d hd)) (.inl (hdigits.all c List.mem_cons_self))

private theorem digitIn?_ten {c : Char} (h : isDigit c = true) : digitIn? 10 c = some (c.toNat - '0'.toNat) := by
  have hdigit : ('0' ≤ c && c ≤ '9') = true := h
  have hlt : c.toNat - '0'.toNat < 10 := by
    simp only [isDigit, Bool.and_eq_true, decide_eq_true_eq] at h
    have hhigh : c.toNat ≤ 57 := h.2
    have hzero : '0'.toNat = 48 := rfl
    omega
  rw [digitIn?, Text.hexValue?, if_pos hdigit, Option.bind_some, if_pos hlt]

private theorem digitsIn?_ten {digits : List Char} (h : IsDigits digits) : digitsIn? 10 digits = some (valueOfDigits digits) := by
  have hfold : ∀ (digits : List Char) (n : ℕ), (∀ c ∈ digits, isDigit c = true) →
      digits.foldlM (fun n c => (digitIn? 10 c).map (10 * n + ·)) n =
        some (digits.foldl (fun n c => 10 * n + (c.toNat - '0'.toNat)) n) := by
    intro digits
    induction digits with
    | nil => exact fun _ _ => rfl
    | cons c digits ih =>
      intro n h
      obtain ⟨hc, hrest⟩ := List.forall_mem_cons.1 h
      rw [List.foldlM_cons, digitIn?_ten hc, List.foldl_cons]
      exact ih _ hrest
  rw [digitsIn?, if_neg (by simp [h.ne_nil])]
  exact hfold digits 0 h.all

/-- A whole number is read as it was written. -/
theorem unsignedOf?_digitsOf (n : ℕ) : unsignedOf? (digitsOf n) = some n := by
  have hdigits := digitsOf_isDigits n
  have hvalue := digitsIn?_ten hdigits
  rw [valueOfDigits_digitsOf] at hvalue
  have hplus : ∀ rest, digitsOf n ≠ '+' :: rest := fun rest heq => absurd (hdigits.all '+' (by simp [heq])) (by decide)
  have hminus : ∀ rest, digitsOf n ≠ '-' :: rest := fun rest heq => absurd (hdigits.all '-' (by simp [heq])) (by decide)
  have hbased : basedDigits? (digitsOf n) = none := by
    rw [basedDigits?.eq_def]
    split
    · rename_i heq
      exact absurd (hdigits.all 'x' (by simp [heq])) (by decide)
    · rename_i heq
      exact absurd (hdigits.all 'o' (by simp [heq])) (by decide)
    · rename_i heq
      exact absurd (hdigits.all 'b' (by simp [heq])) (by decide)
    · rfl
  have hzero : hasNeedlessZero (digitsOf n) = false := by
    have hsign : dropSign (digitsOf n) = digitsOf n := by
      rw [dropSign.eq_def]
      split
      · rename_i heq
        exact absurd heq (hminus _)
      · rename_i heq
        exact absurd heq (hplus _)
      · rfl
    rw [hasNeedlessZero, hsign]
    split
    · rename_i heq
      rw [head?_digitsOf (by rw [heq]; rfl)] at heq
      cases heq
    · rfl
  rw [unsignedOf?]
  · simp [hbased, hzero, hvalue]
  · exact fun rest heq => hplus rest heq

section Reals
variable {spelling : Spelling} {text : List Char}

private theorem numerals_of_isText (h : spelling.IsText text) : ∀ c ∈ text, c ∈ numerals := by
  obtain ⟨tail, htail, rfl⟩ := h.text_eq
  have hdigits : ∀ {digits : List Char}, IsDigits digits → ∀ c ∈ digits, c ∈ numerals := fun hdigits c hc =>
    mem_numerals_of_isDigit (hdigits.all c hc)
  have hletters : 'e' ∈ numerals ∧ '-' ∈ numerals ∧ '+' ∈ numerals ∧ '.' ∈ numerals := by decide
  intro c hc
  rcases List.mem_append.1 hc with hc | hc
  · rcases List.mem_append.1 hc with hc | hc
    · exact hdigits h.whole_digits c hc
    · cases hfraction : spelling.fraction with
      | none => simp [Spelling.pointed, hfraction] at hc
      | some digits =>
        rw [Spelling.pointed, hfraction] at hc
        rcases List.mem_cons.1 hc with rfl | hc
        · exact hletters.2.2.2
        · exact hdigits (h.fraction_digits digits hfraction) c hc
  · generalize spelling.exponent = exponent at htail
    cases htail with
    | none => cases hc
    | negative hexponent =>
      rcases List.mem_cons.1 hc with rfl | hc
      · exact hletters.1
      rcases List.mem_cons.1 hc with rfl | hc
      · exact hletters.2.1
      · exact hdigits hexponent c hc
    | plus hexponent =>
      rcases List.mem_cons.1 hc with rfl | hc
      · exact hletters.1
      rcases List.mem_cons.1 hc with rfl | hc
      · exact hletters.2.2.1
      · exact hdigits hexponent c hc
    | bare hexponent =>
      rcases List.mem_cons.1 hc with rfl | hc
      · exact hletters.1
      · exact hdigits hexponent c hc

private theorem exists_cons_of_isText (h : spelling.IsText text) : ∃ c rest, text = c :: rest ∧ isDigit c = true := by
  obtain ⟨tail, -, rfl⟩ := h.text_eq
  obtain ⟨c, whole, hwhole⟩ := List.exists_cons_of_ne_nil h.whole_digits.ne_nil
  refine ⟨c, whole ++ spelling.pointed ++ tail, by simp [hwhole], h.whole_digits.all c (by simp [hwhole])⟩

private theorem readUnsigned?_isText (h : spelling.IsText text) :
    readUnsigned? text = some (nearestFloat spelling.significand spelling.scale) := by
  have hword : text.map Char.toLower ≠ "inf".toList ∧ text.map Char.toLower ≠ "infinity".toList ∧
      text.map Char.toLower ≠ "nan".toList := by
    obtain ⟨c, rest, rfl, hdigit⟩ := exists_cons_of_isText h
    have hletter : digits.all (fun d => d.toLower != 'i' && d.toLower != 'n') = true := rfl
    have hc := List.all_eq_true.1 hletter c (mem_digits hdigit)
    rw [Bool.and_eq_true, bne_iff_ne, bne_iff_ne] at hc
    simp [hc]
  rw [readUnsigned?]
  simp only [hword, decide_false, Bool.or_false, Bool.false_eq_true, if_false, h.read?]
  rfl

private theorem realOf?_eq {c : Char} (hplus : c ≠ '+') (hpoint : c ≠ '.') (hminus : c = '-' → ∀ rest, text ≠ '.' :: rest) :
    realOf? (c :: text) = (readFloat? (c :: text)).bind fun x => if x.isFinite then some x else none := by
  have hword : ∀ rest, ¬ (c = '-' ∧ text = '.' :: rest) := fun rest h => hminus h.1 rest h.2
  unfold realOf?
  split
  · rename_i heq
    exact absurd (List.cons.inj heq).1 hplus
  · rename_i heq
    exact absurd (List.cons.inj heq).1 hplus
  · rename_i heq
    exact absurd (List.cons.inj heq).1 hplus
  · simp [hpoint, hword]

/-- A finite number is read from every spelling that is nearest to it. -/
theorem spelled_reads (h : spelling.IsText text) {negative : Bool} {x : Float} (hx : Binary64.IsFinite x)
    (hback : (if negative then -nearestFloat spelling.significand spelling.scale
      else nearestFloat spelling.significand spelling.scale) = x) :
    realOf? ((if negative then ['-'] else []) ++ text) = some x ∧
      ∃ c rest, (if negative then ['-'] else []) ++ text = c :: rest ∧ canBePlain (c :: rest) = true := by
  obtain ⟨c, rest, rfl, hdigit⟩ := exists_cons_of_isText h
  have hchars := numerals_of_isText h
  have hread := readUnsigned?_isText h
  have hfinite := (Binary64.isFinite_iff x).2 hx
  have hsign : c ≠ '+' ∧ c ≠ '.' ∧ c ≠ '-' := by
    refine ⟨?_, ?_, ?_⟩ <;>
    · rintro rfl
      exact absurd hdigit (by decide)
  cases negative with
  | true =>
    rw [if_pos rfl] at hback
    refine ⟨?_, '-', c :: rest, rfl, canBePlain_numeric ?_ (.inr ⟨c, rfl, hsign.2.2⟩)⟩
    · have hreal := realOf?_eq (show '-' ≠ '+' by decide) (by decide) fun _ rest' (heq : c :: rest = '.' :: rest') =>
        hsign.2.1 (List.cons.inj heq).1
      rw [if_pos rfl, List.singleton_append, hreal, readFloat?, hread, Option.map_some, hback, Option.bind_some,
        if_pos hfinite]
    · exact List.forall_mem_cons.2 ⟨by decide, hchars⟩
  | false =>
    rw [if_neg Bool.false_ne_true] at hback
    refine ⟨?_, c, rest, rfl, canBePlain_numeric hchars (.inl hdigit)⟩
    have hreal := @realOf?_eq rest c hsign.1 hsign.2.1 fun hc => absurd hc hsign.2.2
    have hfloat : readFloat? (c :: rest) = readUnsigned? (c :: rest) := by
      rw [readFloat?]
      · exact fun _ heq => hsign.2.2 (List.cons.inj heq).1
      · exact fun _ heq => hsign.1 (List.cons.inj heq).1
    rw [if_neg Bool.false_ne_true, List.nil_append, hreal, hfloat, hread, hback, Option.bind_some, if_pos hfinite]

/-- A finite number in an explicit notation is read as it was written. -/
private theorem finite_reads {style : Notation} (hstyle : style.IsExplicit) {x : Float} (hx : Binary64.IsFinite x) :
    realOf? (style.spellParts (.ofFloat x)) = some x ∧ ∃ c text, style.spellParts (.ofFloat x) = c :: text ∧
      canBePlain (c :: text) = true := by
  obtain ⟨negative, m, e, hparts, -, spelling, text, hspells, hwritten⟩ := Binary64.spells_spellParts hstyle hx
  rw [hwritten]
  exact spelled_reads hspells.isText hx (Binary64.shortest_reads_back style.tie hparts hspells.value_eq)

/-- A number in an explicit notation, infinity among them, is read as it was written. -/
theorem real_reads {style : Notation} (hstyle : style.IsExplicit) (hinfinity : style.infinity = ".inf".toList) {x : Float}
    (hx : x.isNaN = false) : realOf? (style.spellParts (.ofFloat x)) = some x ∧
      ∃ c text, style.spellParts (.ofFloat x) = c :: text ∧ canBePlain (c :: text) = true := by
  by_cases hfinite : Binary64.IsFinite x
  · exact finite_reads hstyle hfinite
  obtain ⟨s, hs⟩ : ∃ s, x.toModel.unpack = .infinity s := by
    change x.toModel.unpack.isNaN = false at hx
    unfold Binary64.IsFinite at hfinite
    cases h : x.toModel.unpack with
    | infinity s => exact ⟨s, rfl⟩
    | notANumber =>
      rw [h] at hx
      cases hx
    | zero s => simp [h, Binary64.IsProper] at hfinite
    | finite s m e hm => simp [h, Binary64.IsProper] at hfinite
  have hone : (1 / 0 : Float).toModel.unpack = .infinity .positive := rfl
  have htext : style.spellParts (.ofFloat x) = (if Binary64.isNegative s then ['-'] else []) ++ ".inf".toList := by
    rw [Binary64.ofFloat_eq, hs, Binary64.partsOf, Notation.spellParts, hinfinity]
  rw [htext]
  cases s with
  | positive =>
    have hinf : 1 / 0 = x := Binary64.eq_of_unpack_eq (hone.trans hs.symm)
    exact ⟨congrArg some hinf, '.', ['i', 'n', 'f'], rfl, by decide⟩
  | negative =>
    have hinf : -(1 / 0) = x := Binary64.eq_of_unpack_eq (by rw [Binary64.unpack_neg, hone, hs]; rfl)
    exact ⟨congrArg some hinf, '-', ['.', 'i', 'n', 'f'], rfl, by decide⟩

end Reals

end CallOrder.Yaml
