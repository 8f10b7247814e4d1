import CallOrder.Proofs.Yaml.Quoted

/-! A text in whatever style is written with characters that YAML allows. -/
namespace CallOrder.Yaml

theorem isAllowed_of_isPrintable {c : Char} (h : isPrintable c = true) : isAllowed c = true := by
  simp only [isPrintable, Bool.or_eq_true, Bool.and_eq_true, decide_eq_true_eq, bne_iff_ne] at h
  rcases h with (rfl | h) | h
  · rfl
  · simp [isAllowed, h]
  · simp [isAllowed, h]

section Characters
variable {text : List Char}

private theorem all_printable (h : ∀ c ∈ text, isPrintable c = true) : text.all isAllowed = true :=
  List.all_eq_true.2 fun c hc => isAllowed_of_isPrintable (h c hc)

private theorem all_spaces (count : ℕ) : (spaces count).all isAllowed = true := by
  simp [spaces, isAllowed]

private theorem all_singleQuotedFrom (indent : ℕ) (h : ∀ c ∈ text, isPrintable c = true) (afterBreak : Bool) :
    (singleQuotedFrom indent afterBreak text).all isAllowed = true := by
  induction text generalizing afterBreak with
  | nil => cases afterBreak <;> simp [singleQuotedFrom, all_spaces, isAllowed]
  | cons c text ih =>
    obtain ⟨hc, hrest⟩ := List.forall_mem_cons.1 h
    have hallowed := isAllowed_of_isPrintable hc
    have hquote : isAllowed '\'' = true := rfl
    have hchar : (if c = '\'' then ['\'', '\''] else [c]).all isAllowed = true := by
      split <;> simp [hquote, hallowed]
    rw [singleQuotedFrom]
    split
    · simp [hallowed, ih hrest]
    · rw [List.all_append, List.all_append, hchar, ih hrest]
      cases afterBreak <;> simp [all_spaces]

private theorem all_literalFrom (indent : ℕ) (h : ∀ c ∈ text, isPrintable c = true) (afterBreak : Bool) :
    (literalFrom indent afterBreak text).all isAllowed = true := by
  induction text generalizing afterBreak with
  | nil => rfl
  | cons c text ih =>
    obtain ⟨hc, hrest⟩ := List.forall_mem_cons.1 h
    have hallowed := isAllowed_of_isPrintable hc
    rw [literalFrom]
    split
    · simp [hallowed, ih hrest]
    · cases afterBreak <;> simp [hallowed, ih hrest, all_spaces]

private theorem all_literalHead (text : List Char) : (literalHead text).all isAllowed = true := by
  have hsigns : ∀ hint ∈ [[], ['2']], ∀ sign ∈ [[], ['+'], ['-']], ('|' :: hint ++ sign).all isAllowed = true := by decide
  refine hsigns _ ?_ _ ?_
  · split <;> simp
  · split
    · simp
    · split
      · simp
      · split
        · simp
        · split <;> simp

private theorem isAllowed_of_hexValue? {c : Char} {n : ℕ} (h : Text.hexValue? c = some n) : isAllowed c = true := by
  have hrange : ∀ low high : Char, ' ' ≤ low → high ≤ '~' → low ≤ c → c ≤ high → isAllowed c = true := by
    intro low high hlow hhigh hlow' hhigh'
    simp [isAllowed, Char.le_trans hlow hlow', Char.le_trans hhigh' hhigh]
  rw [Text.hexValue?] at h
  split at h
  · rename_i hdigit
    rw [Bool.and_eq_true, decide_eq_true_eq, decide_eq_true_eq] at hdigit
    exact hrange '0' '9' (by decide) (by decide) hdigit.1 hdigit.2
  split at h
  · rename_i hlower
    rw [Bool.and_eq_true, decide_eq_true_eq, decide_eq_true_eq] at hlower
    exact hrange 'a' 'f' (by decide) (by decide) hlower.1 hlower.2
  split at h
  · rename_i hupper
    rw [Bool.and_eq_true, decide_eq_true_eq, decide_eq_true_eq] at hupper
    exact hrange 'A' 'F' (by decide) (by decide) hupper.1 hupper.2
  · cases h

private theorem all_hexUpper (width n : ℕ) : (hexUpper width n).all isAllowed = true := by
  have hfold : ∀ (digits : List Char) (m k : ℕ),
      digits.foldlM (fun n c => (Text.hexValue? c).map (16 * n + ·)) m = some k → digits.all isAllowed = true := by
    intro digits
    induction digits with
    | nil => exact fun _ _ _ => rfl
    | cons c digits ih =>
      intro m k h
      cases hc : Text.hexValue? c with
      | none => simp [hc] at h
      | some d =>
        rw [List.foldlM_cons, hc] at h
        rw [List.all_cons, isAllowed_of_hexValue? hc, ih _ k h]
        rfl
  exact hfold _ 0 n (valueOfHex?_hexUpper width n)

private theorem all_doubleQuotedChar (c : Char) : (doubleQuotedChar c).all isAllowed = true := by
  have hescape : isAllowed '\\' = true := rfl
  rcases doubleQuotedChar_cases c with ⟨hself, hprintable, -⟩ | ⟨letter, hshort, -, hletter⟩ | ⟨letter, width, hwidth, -, hhex⟩
  · rw [hself, List.all_cons, isAllowed_of_isPrintable hprintable]
    rfl
  · simp [hshort, hescape, hletter]
  · have hletters : ∀ escape ∈ [('x', 2), ('u', 4), ('U', 8)], isAllowed escape.1 = true := by decide
    simp [hhex, hescape, hletters _ hwidth, all_hexUpper]

theorem all_of_canBePlain (h : canBePlain text = true) : text.all isAllowed = true := by
  simp only [canBePlain, Bool.and_eq_true, List.all_eq_true] at h
  exact all_printable h.1.1.1

/-- What is written for a text is allowed, whatever the text holds. -/
theorem all_writeText (indent : ℕ) (text : List Char) : (writeText indent text).all isAllowed = true := by
  obtain ⟨hline, hsingle, hdouble⟩ : isAllowed '\n' = true ∧ isAllowed '\'' = true ∧ isAllowed '"' = true := by decide
  rcases styleOf_cases text with ⟨hstyle, hplain, -⟩ | ⟨hstyle, hquoted⟩ | ⟨hstyle, hblock⟩ | hstyle <;>
    rw [writeText, hstyle]
  · simp [all_of_canBePlain hplain, hline]
  · simp [all_singleQuotedFrom indent hquoted.printable, hline, hsingle]
  · simp only [canBeBlock, Bool.and_eq_true, List.all_eq_true] at hblock
    simp only [List.all_append, all_literalHead, List.all_cons, hline, all_literalFrom indent hblock.1.1.2, Bool.true_and]
    split <;> simp [hline]
  · have hchars : (text.flatMap doubleQuotedChar).all isAllowed = true := by
      rw [List.all_flatMap]
      exact List.all_eq_true.2 fun c _ => all_doubleQuotedChar c
    simp only [List.cons_append, List.all_cons, List.all_append, hchars, hdouble, hline]
    rfl

end Characters

end CallOrder.Yaml
