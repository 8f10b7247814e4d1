import CallOrder.Proofs.Yaml.Printable

/-! Texts between quotation marks in YAML, which are read as they were written. -/
namespace CallOrder.Yaml

section SingleQuoted
variable {gap : Gap} {mark : Mark} {rest : List Char} {c : Char}

private theorem single_space : readSingleQuoted gap mark (' ' :: rest) =
    readSingleQuoted (gap.addBlank ' ') (mark.forward 1) rest := by
  simp [readSingleQuoted, isBreak, isBlank]

private theorem single_separator (h : IsSeparator c) : readSingleQuoted gap mark (c :: rest) =
    readSingleQuoted (gap.addBreak c) (mark.nextLine c.utf8Size) rest := by
  rcases h with rfl | rfl <;> simp [readSingleQuoted, isBreak]

private theorem single_quote : readSingleQuoted gap mark ('\'' :: '\'' :: rest) =
    (readSingleQuoted {} (mark.forward 2) rest).map (·.prepend (gap.text ++ ['\''])) := by
  simp [readSingleQuoted]

private theorem single_close (hcolumn : 0 < mark.column) (hrest : rest.head? ≠ some '\'') :
    readSingleQuoted gap mark ('\'' :: rest) = some { text := gap.text, cursor := ⟨rest, mark.forward 1⟩ } := by
  rw [readSingleQuoted]
  · simp [isBreak, isBlank, Nat.ne_of_gt hcolumn]
  · simp
  · rintro rest' - rfl
    exact hrest rfl

private theorem single_char (hcolumn : 0 < mark.column) (hbreak : isBreak c = false) (hblank : isBlank c = false)
    (hquote : c ≠ '\'') : readSingleQuoted gap mark (c :: rest) =
      (readSingleQuoted {} (mark.over c) rest).map (·.prepend (gap.text ++ [c])) := by
  have hreturn := ne_return_of_not_isBreak hbreak
  rw [readSingleQuoted]
  · simp [hbreak, hblank, Nat.ne_of_gt hcolumn, hquote]
  · exact fun _ h => absurd h hreturn
  · exact fun _ h => absurd h hquote

private theorem single_spaces (count : ℕ) (hgap : gap.lineBreak.isSome = true) :
    readSingleQuoted gap mark (spaces count ++ rest) = readSingleQuoted gap (mark.forward count) rest := by
  induction count generalizing mark with
  | zero => rfl
  | succ count ih =>
    have hadd : gap.addBlank ' ' = gap := by rw [Gap.addBlank, if_pos hgap]
    rw [spaces_succ, List.cons_append, single_space, hadd, ih, Mark.forward_forward, Nat.add_comm 1]

end SingleQuoted

theorem hasNeighbours_cons {p q : Char → Bool} {c : Char} {rest : List Char} :
    hasNeighbours p q (c :: rest) = false ↔
      (p c = true → ∀ d ∈ rest.head?, q d = false) ∧ hasNeighbours p q rest = false := by
  cases rest with
  | nil => simp [hasNeighbours]
  | cons d rest => cases hp : p c <;> simp [hasNeighbours, hp]

/-- A text that stands between single quotation marks as a whole, or from a character on. -/
structure IsSingleQuoted (text : List Char) : Prop where
  printable : ∀ c ∈ text, isPrintable c = true
  oneLine : '\n' ∉ text
  noSpaceBefore : hasNeighbours (· = ' ') isBreak text = false
  noSpaceAfter : hasNeighbours isBreak (· = ' ') text = false

namespace IsSingleQuoted
variable {c : Char} {text : List Char}

theorem tail (h : IsSingleQuoted (c :: text)) : IsSingleQuoted text where
  printable := fun d hd => h.printable d (List.mem_cons_of_mem c hd)
  oneLine := fun hmem => h.oneLine (List.mem_cons_of_mem c hmem)
  noSpaceBefore := (hasNeighbours_cons.1 h.noSpaceBefore).2
  noSpaceAfter := (hasNeighbours_cons.1 h.noSpaceAfter).2

theorem isSeparator (h : IsSingleQuoted (c :: text)) (hbreak : isBreak c = true) : IsSeparator c := by
  refine (isBreak_of_isPrintable (h.printable c List.mem_cons_self) hbreak).resolve_left ?_
  rintro rfl
  exact h.oneLine List.mem_cons_self

end IsSingleQuoted

/-- The styles in which texts are written, with what makes them fit. -/
theorem styleOf_cases (text : List Char) :
    styleOf text = .plain ∧ canBePlain text = true ∧ text ≠ [] ∨ styleOf text = .singleQuoted ∧ IsSingleQuoted text ∨
      styleOf text = .literal ∧ canBeBlock text = true ∨ styleOf text = .doubleQuoted := by
  rw [styleOf]
  split
  · split
    · rename_i hblock
      exact .inr (.inr (.inl ⟨rfl, hblock⟩))
    · exact .inr (.inr (.inr rfl))
  rename_i hline
  split
  · rename_i hplain
    rw [Bool.and_eq_true] at hplain
    refine .inl ⟨rfl, hplain.1, ?_⟩
    rintro rfl
    exact absurd hplain.2 (by decide)
  split
  · rename_i hsingle
    simp only [canBeSingleQuoted, Bool.and_eq_true, Bool.not_eq_true', List.all_eq_true] at hsingle
    exact .inr (.inl ⟨rfl, hsingle.1.1, by simpa using hline, hsingle.1.2, hsingle.2⟩)
  · exact .inr (.inr (.inr rfl))

section
variable {indent : ℕ} {tail : List Char}

-- A character that is no white space is read in the same way wherever it stands.
private theorem single_written {c : Char} {text : List Char} (h : IsSingleQuoted (c :: text)) (gap : Gap) (mark : Mark)
    (hcolumn : 0 < mark.column) (hbreak : isBreak c = false) (hspace : c ≠ ' ')
    (hrest : ∀ mark : Mark, 0 < mark.column →
      ReadsTo (readSingleQuoted {} mark (singleQuotedFrom indent false text ++ tail)) text tail (mark.line ≤ ·.line)) :
    ReadsTo (readSingleQuoted gap mark
      ((if c = '\'' then ['\'', '\''] else [c]) ++ singleQuotedFrom indent false text ++ tail))
      (gap.text ++ c :: text) tail (mark.line ≤ ·.line) := by
  have hsplit : gap.text ++ c :: text = gap.text ++ [c] ++ text := by simp
  rw [hsplit, List.append_assoc (ite _ _ _)]
  by_cases hquote : c = '\''
  · subst hquote
    rw [if_pos rfl, List.cons_append, List.singleton_append, single_quote]
    exact (hrest (mark.forward 2) (by simp)).prepend _
  · have hblank := not_isBlank_of_isPrintable (h.printable c List.mem_cons_self) hspace
    rw [if_neg hquote, List.singleton_append, single_char hcolumn hbreak hblank hquote]
    exact (hrest (mark.over c) (by simp)).prepend _

/-- Within a line the gap holds the spaces that were passed. -/
private def SingleWithin (indent : ℕ) (tail text : List Char) : Prop :=
  ∀ count mark, 0 < mark.column → (0 < count → ∀ c ∈ text.head?, isBreak c = false) →
    ReadsTo (readSingleQuoted (.ofSpaces count) mark (singleQuotedFrom indent false text ++ tail))
      (List.replicate count ' ' ++ text) tail (mark.line ≤ ·.line)

/-- Between lines the gap holds the separators that were passed. -/
private def SingleBetween (indent : ℕ) (tail text : List Char) : Prop :=
  ∀ first more mark, IsSeparator first → (∀ c ∈ text.head?, c ≠ ' ') →
    ReadsTo (readSingleQuoted (.ofBreaks first more) mark (singleQuotedFrom indent true text ++ tail))
      (first :: more ++ text) tail (mark.line ≤ ·.line)

private theorem single_written_nil (hindent : 0 < indent) (htail : tail.head? ≠ some '\'') :
    SingleWithin indent tail [] ∧ SingleBetween indent tail [] := by
  constructor
  · intro count mark hcolumn _
    refine ⟨mark.forward 1, Nat.le_refl _, ?_⟩
    simp [singleQuotedFrom, single_close hcolumn htail, Gap.ofSpaces_text]
  · intro first more mark hfirst _
    refine ⟨(mark.forward indent).forward 1, Nat.le_refl _, ?_⟩
    rw [singleQuotedFrom, if_pos rfl, List.append_assoc, single_spaces indent rfl, List.singleton_append,
      single_close (by simp; omega) htail, Gap.ofBreaks_text hfirst, List.append_nil]

-- A separator ends the line, or adds an empty one.
private theorem single_written_break {c : Char} {text : List Char} (h : IsSingleQuoted (c :: text))
    (hbreak : isBreak c = true) (hbetween : SingleBetween indent tail text) :
    SingleWithin indent tail (c :: text) ∧ SingleBetween indent tail (c :: text) := by
  have hseparator := h.isSeparator hbreak
  have hnext : ∀ d ∈ text.head?, d ≠ ' ' := fun d hd => by
    simpa using (hasNeighbours_cons.1 h.noSpaceAfter).1 hbreak d hd
  constructor
  · intro count mark hcolumn hcount
    have hzero : count = 0 := by
      by_contra hne
      have := hcount (Nat.pos_of_ne_zero hne) c rfl
      rw [hbreak] at this
      cases this
    rw [hzero, Gap.ofSpaces_zero, singleQuotedFrom, if_pos hbreak, List.cons_append, single_separator hseparator,
      Gap.empty_addBreak hseparator]
    exact (hbetween c [] (mark.nextLine c.utf8Size) hseparator hnext).mono fun _ => Nat.le_of_succ_le
  · intro first more mark hfirst _
    have hshift : first :: more ++ c :: text = first :: (more ++ [c]) ++ text := by simp
    rw [singleQuotedFrom, if_pos hbreak, List.cons_append, single_separator hseparator,
      Gap.ofBreaks_addBreak hseparator, hshift]
    exact (hbetween first (more ++ [c]) (mark.nextLine c.utf8Size) hfirst hnext).mono fun _ => Nat.le_of_succ_le

-- A space within a line is added to the gap, and no line begins with one.
private theorem single_written_char {c : Char} {text : List Char} (hindent : 0 < indent) (h : IsSingleQuoted (c :: text))
    (hbreak : isBreak c = false) (hwithin : SingleWithin indent tail text) :
    SingleWithin indent tail (c :: text) ∧ SingleBetween indent tail (c :: text) := by
  have hnext : ∀ mark : Mark, 0 < mark.column →
      ReadsTo (readSingleQuoted {} mark (singleQuotedFrom indent false text ++ tail)) text tail (mark.line ≤ ·.line) :=
    fun mark hcolumn => hwithin 0 mark hcolumn fun h => absurd h (Nat.lt_irrefl 0)
  constructor
  · intro count mark hcolumn _
    rw [singleQuotedFrom, hbreak, if_neg Bool.false_ne_true, if_neg Bool.false_ne_true, List.nil_append]
    by_cases hspace : c = ' '
    · subst hspace
      have hshift : List.replicate count ' ' ++ ' ' :: text = List.replicate (count + 1) ' ' ++ text := by
        simp [List.replicate_succ']
      rw [if_neg (by decide), List.append_assoc, List.singleton_append, single_space, Gap.ofSpaces_addBlank, hshift]
      exact hwithin (count + 1) (mark.forward 1) (by simp) fun _ d hd => by
        simpa using (hasNeighbours_cons.1 h.noSpaceBefore).1 rfl d hd
    · exact single_written h _ mark hcolumn hbreak hspace hnext
  · intro first more mark hfirst hhead
    have hwritten := single_written h (.ofBreaks first more) (mark.forward indent) (by simp; omega) hbreak (hhead c rfl) hnext
    rw [singleQuotedFrom, hbreak, if_neg Bool.false_ne_true, if_pos rfl, List.append_assoc, List.append_assoc,
      single_spaces indent rfl, ← List.append_assoc]
    rw [Gap.ofBreaks_text hfirst] at hwritten
    exact hwritten

private theorem readSingleQuoted_from (hindent : 0 < indent) (htail : tail.head? ≠ some '\'') {text : List Char}
    (h : IsSingleQuoted text) : SingleWithin indent tail text ∧ SingleBetween indent tail text := by
  induction text with
  | nil => exact single_written_nil hindent htail
  | cons c text ih =>
    obtain ⟨hwithin, hbetween⟩ := ih h.tail
    cases hbreak : isBreak c with
    | true => exact single_written_break h hbreak hbetween
    | false => exact single_written_char hindent h hbreak hwithin

end

/-- A text between single quotation marks is read as it was written, on one line or several. -/
theorem readSingleQuoted_written {indent : ℕ} (hindent : 0 < indent) {text tail : List Char} (h : IsSingleQuoted text)
    (htail : tail.head? ≠ some '\'') {mark : Mark} (hcolumn : 0 < mark.column) :
    ReadsTo (readSingleQuoted {} mark (singleQuotedFrom indent false text ++ tail)) text tail (mark.line ≤ ·.line) :=
  (readSingleQuoted_from hindent htail h).1 0 mark hcolumn fun h => absurd h (Nat.lt_irrefl 0)

private theorem hexValue?_digit : ∀ n : Fin 16, Text.hexValue? (Nat.digitChar n).toUpper = some n.val := by decide

private theorem valueOfHex?_digits (n : ℕ) : valueOfHex? ((Nat.toDigits 16 n).map Char.toUpper) = some n := by
  induction n using Nat.strongRecOn with
  | _ n ih =>
    rw [Nat.toDigits_eq_if (by decide)]
    split
    · rename_i hlt
      simp [valueOfHex?, hexValue?_digit ⟨n, hlt⟩]
    · have hlast : n % 16 < 16 := Nat.mod_lt n (by decide)
      have hfirst := ih (n / 16) (by omega)
      rw [valueOfHex?] at hfirst
      rw [valueOfHex?, List.map_append, List.foldlM_append, hfirst]
      simp [hexValue?_digit ⟨n % 16, hlast⟩, Nat.div_add_mod]

theorem valueOfHex?_hexUpper (width n : ℕ) : valueOfHex? (hexUpper width n) = some n := by
  have hzeros : ∀ count digits, valueOfHex? (List.replicate count '0' ++ digits) = valueOfHex? digits := by
    intro count digits
    induction count with
    | zero => rfl
    | succ count ih => exact ih
  rw [hexUpper, hzeros, valueOfHex?_digits]

private theorem length_hexUpper {width n : ℕ} (hwidth : 0 < width) (hn : n < 16^width) : (hexUpper width n).length = width := by
  have hlength := (Nat.length_toDigits_le_iff (b := 16) (by decide) hwidth).2 hn
  rw [hexUpper, List.length_append, List.length_replicate, List.length_map]
  omega

/-- The characters with a short escape, and the letters of these. -/
private def shortEscapes : List (Char × Char) :=
  [('\x00', '0'), ('\x07', 'a'), ('\x08', 'b'), ('\t', 't'), ('\n', 'n'), ('\x0b', 'v'), ('\x0c', 'f'), ('\r', 'r'),
    ('\x1b', 'e'), ('"', '"'), ('\\', '\\'), ('\u0085', 'N'), ('\u2028', 'L'), ('\u2029', 'P')]

private theorem doubleQuotedChar_short : ∀ escape ∈ shortEscapes,
    doubleQuotedChar escape.1 = ['\\', escape.2] ∧ shortEscape? escape.2 = some escape.1 ∧ isAllowed escape.2 = true := by
  decide

/-- Each character stands for itself, or has a short escape, or is given by its number. -/
theorem doubleQuotedChar_cases (c : Char) :
    doubleQuotedChar c = [c] ∧ isPrintable c = true ∧ isBreak c = false ∧ c ≠ '"' ∧ c ≠ '\\' ∨
      (∃ letter, doubleQuotedChar c = ['\\', letter] ∧ shortEscape? letter = some c ∧ isAllowed letter = true) ∨
      ∃ letter width, (letter, width) ∈ [('x', 2), ('u', 4), ('U', 8)] ∧ c.toNat < 16^width ∧
        doubleQuotedChar c = '\\' :: letter :: hexUpper width c.toNat := by
  by_cases hself : (isPrintable c && !isBreak c && c != '"' && c != '\\') = true
  · refine .inl ⟨by rw [doubleQuotedChar, if_pos hself], ?_⟩
    simpa only [Bool.and_eq_true, Bool.not_eq_true', bne_iff_ne, and_assoc] using hself
  by_cases hshort : c ∈ shortEscapes.map Prod.fst
  · obtain ⟨⟨_, letter⟩, hmem, rfl⟩ := List.mem_map.1 hshort
    exact .inr (.inl ⟨letter, doubleQuotedChar_short _ hmem⟩)
  simp only [shortEscapes, List.map_cons, List.map_nil, List.mem_cons, List.not_mem_nil, or_false, not_or] at hshort
  obtain ⟨h0, h7, h8, h9, ha, hb, hc, hd, h1b, hquote, hescape, h85, h2028, h2029⟩ := hshort
  have hhex : doubleQuotedChar c =
      if c.toNat < 0x100 then '\\' :: 'x' :: hexUpper 2 c.toNat
      else if c.toNat < 0x10000 then '\\' :: 'u' :: hexUpper 4 c.toNat
      else '\\' :: 'U' :: hexUpper 8 c.toNat := by
    rw [doubleQuotedChar, if_neg hself, if_neg h0, if_neg h7, if_neg h8, if_neg h9, if_neg ha, if_neg hb, if_neg hc,
      if_neg hd, if_neg h1b, if_neg (by simp [hquote, hescape]), if_neg h85, if_neg h2028, if_neg h2029]
  right
  right
  rw [hhex]
  split
  · rename_i hbyte
    exact ⟨'x', 2, by simp, hbyte, rfl⟩
  split
  · rename_i hunit
    exact ⟨'u', 4, by simp, hunit, rfl⟩
  · exact ⟨'U', 8, by simp, c.val.toNat_lt, rfl⟩

section DoubleQuoted
variable {gap : Gap} {mark : Mark} {rest : List Char} {c : Char}

private theorem double_space : readDoubleQuoted gap mark (' ' :: rest) =
    readDoubleQuoted (gap.addBlank ' ') (mark.forward 1) rest := by
  simp [readDoubleQuoted, isBreak, isBlank]

private theorem double_close (hcolumn : 0 < mark.column) : readDoubleQuoted gap mark ('"' :: rest) =
    some { text := gap.text, cursor := ⟨rest, mark.forward 1⟩ } := by
  simp [readDoubleQuoted, isBreak, isBlank, Nat.ne_of_gt hcolumn]

private theorem double_char (hcolumn : 0 < mark.column) (hbreak : isBreak c = false) (hblank : isBlank c = false)
    (hquote : c ≠ '"') (hescape : c ≠ '\\') : readDoubleQuoted gap mark (c :: rest) =
      (readDoubleQuoted {} (mark.over c) rest).map (·.prepend (gap.text ++ [c])) := by
  have hreturn := ne_return_of_not_isBreak hbreak
  rw [readDoubleQuoted.eq_def]
  split
  all_goals simp_all [Nat.ne_of_gt hcolumn]

private theorem escaped_eq (read? : Option ScalarRead) (text : List Char) :
    (some c >>= fun e => read? >>= fun read => pure (read.prepend (text ++ [e]))) = read?.map (·.prepend (text ++ [c])) := by
  cases read? with
  | none => rfl
  | some read => rfl

private theorem double_short {letter : Char} (h : shortEscape? letter = some c) :
    readDoubleQuoted gap mark ('\\' :: letter :: rest) =
      (readDoubleQuoted {} (mark.forward 2) rest).map (·.prepend (gap.text ++ [c])) := by
  have hbreak : isBreak letter = false := by
    rw [← Bool.not_eq_true]
    intro hbreak
    simp only [isBreak, Bool.or_eq_true, decide_eq_true_eq] at hbreak
    rcases hbreak with (((rfl | rfl) | rfl) | rfl) | rfl <;> cases h
  have hletter : letter ≠ '\r' ∧ letter ≠ 'x' ∧ letter ≠ 'u' ∧ letter ≠ 'U' := by
    refine ⟨?_, ?_, ?_, ?_⟩ <;> rintro rfl <;> cases h
  obtain ⟨hreturn, hx, hu, hU⟩ := hletter
  rw [readDoubleQuoted]
  · rw [if_neg (Bool.eq_false_iff.1 hbreak), h]
    exact escaped_eq _ _
  · exact fun _ h _ => hreturn h
  · exact fun _ _ _ h _ => hx h
  · exact fun _ _ _ _ _ h _ => hu h
  · exact fun _ _ _ _ _ _ _ _ _ h _ => hU h

private theorem double_hex {letter : Char} {width : ℕ} (hwidth : (letter, width) ∈ [('x', 2), ('u', 4), ('U', 8)])
    (hc : c.toNat < 16^width) : ∃ mark' : Mark, mark'.line = mark.line ∧ 0 < mark'.column ∧
      readDoubleQuoted gap mark ('\\' :: letter :: hexUpper width c.toNat ++ rest) =
        (readDoubleQuoted {} mark' rest).map (·.prepend (gap.text ++ [c])) := by
  have hvalue := valueOfHex?_hexUpper width c.toNat
  have hchar : charOf? c.toNat = some c := by rw [charOf?, if_pos (by exact c.valid), Char.ofNat_toNat]
  simp only [List.mem_cons, List.not_mem_nil, or_false, Prod.mk.injEq] at hwidth
  rcases hwidth with ⟨rfl, rfl⟩ | ⟨rfl, rfl⟩ | ⟨rfl, rfl⟩
  · obtain ⟨d₁, d₂, hdigits⟩ := List.length_eq_two.1 (length_hexUpper (by decide) hc)
    rw [hdigits] at hvalue ⊢
    refine ⟨mark.forward 4, rfl, Nat.succ_pos _, ?_⟩
    simp only [List.cons_append, List.nil_append, readDoubleQuoted, hvalue, Option.bind_some, hchar]
    exact escaped_eq _ _
  · obtain ⟨d₁, d₂, d₃, d₄, hdigits⟩ := List.length_eq_four.1 (length_hexUpper (by decide) hc)
    rw [hdigits] at hvalue ⊢
    refine ⟨mark.forward 6, rfl, Nat.succ_pos _, ?_⟩
    simp only [List.cons_append, List.nil_append, readDoubleQuoted, hvalue, Option.bind_some, hchar]
    exact escaped_eq _ _
  · match h : hexUpper 8 c.toNat, length_hexUpper (by decide) hc with
    | [d₁, d₂, d₃, d₄, d₅, d₆, d₇, d₈], _ =>
      rw [h] at hvalue
      refine ⟨mark.forward 10, rfl, Nat.succ_pos _, ?_⟩
      simp only [List.cons_append, List.nil_append, readDoubleQuoted, hvalue, Option.bind_some, hchar]
      exact escaped_eq _ _

-- A character other than a space ends the gap, whichever way it is written.
private theorem double_written (gap : Gap) (rest : List Char) (hspace : c ≠ ' ') (hcolumn : 0 < mark.column) :
    ∃ mark' : Mark, mark'.line = mark.line ∧ 0 < mark'.column ∧
      readDoubleQuoted gap mark (doubleQuotedChar c ++ rest) =
        (readDoubleQuoted {} mark' rest).map (·.prepend (gap.text ++ [c])) := by
  rcases doubleQuotedChar_cases c with
    ⟨hself, hprintable, hbreak, hquote, hescape⟩ | ⟨letter, hshort, hletter, -⟩ | ⟨letter, width, hwidth, hc, hhex⟩
  · have hblank := not_isBlank_of_isPrintable hprintable hspace
    refine ⟨mark.over c, rfl, Nat.succ_pos _, ?_⟩
    rw [hself, List.singleton_append, double_char hcolumn hbreak hblank hquote hescape]
  · refine ⟨mark.forward 2, rfl, Nat.succ_pos _, ?_⟩
    rw [hshort]
    exact double_short hletter
  · rw [hhex]
    exact double_hex hwidth hc

end DoubleQuoted

/-- A text between double quotation marks is read as it was written, whatever its characters are. -/
theorem readDoubleQuoted_written (text tail : List Char) {mark : Mark} (hcolumn : 0 < mark.column) :
    ReadsTo (readDoubleQuoted {} mark (text.flatMap doubleQuotedChar ++ '"' :: tail)) text tail (mark.line ≤ ·.line) := by
  suffices h : ∀ count mark, 0 < mark.column →
      ReadsTo (readDoubleQuoted (.ofSpaces count) mark (text.flatMap doubleQuotedChar ++ '"' :: tail))
        (List.replicate count ' ' ++ text) tail (mark.line ≤ ·.line) from h 0 mark hcolumn
  induction text with
  | nil =>
    intro count mark hcolumn
    refine ⟨mark.forward 1, Nat.le_refl _, ?_⟩
    simp [double_close hcolumn, Gap.ofSpaces_text]
  | cons c text ih =>
    intro count mark hcolumn
    rw [List.flatMap_cons, List.append_assoc]
    by_cases hspace : c = ' '
    · subst hspace
      have hself : doubleQuotedChar ' ' = [' '] := by decide
      have hshift : List.replicate count ' ' ++ ' ' :: text = List.replicate (count + 1) ' ' ++ text := by
        simp [List.replicate_succ']
      rw [hself, List.singleton_append, double_space, Gap.ofSpaces_addBlank, hshift]
      exact ih (count + 1) (mark.forward 1) (Nat.succ_pos _)
    · obtain ⟨mark', hline, hcolumn', hread⟩ := double_written (.ofSpaces count)
        (text.flatMap doubleQuotedChar ++ '"' :: tail) hspace hcolumn
      have hsplit : List.replicate count ' ' ++ c :: text = List.replicate count ' ' ++ [c] ++ text := by simp
      rw [hread, hsplit, Gap.ofSpaces_text, ← hline]
      exact (ih 0 mark' hcolumn').prepend _

end CallOrder.Yaml
