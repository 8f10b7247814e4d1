import CallOrder.Proofs.Yaml.Printable

/-! Plain texts in YAML, which are read as they were written and end before a colon or at the end of their line. -/
namespace CallOrder.Yaml

theorem startsBlank_append {text : List Char} (h : startsBlank text = false) (tail : List Char) :
    startsBlank (text ++ tail) = false := by
  cases text with
  | nil => cases h
  | cons c text => exact h

section Steps
variable {indent : ℤ} {gap : Gap} {mark : Mark} {rest : List Char} {c : Char}

private theorem plain_space : readPlain false indent gap mark (' ' :: rest) =
    readPlain false indent (gap.addBlank ' ') (mark.forward 1) rest := by
  simp [readPlain, isBreak, isBlank]

private theorem plain_spaces (count : ℕ) (hgap : gap.lineBreak.isSome = true) :
    readPlain false indent gap mark (spaces count ++ rest) = readPlain false indent gap (mark.forward count) rest := by
  induction count generalizing mark with
  | zero => rfl
  | succ count ih =>
    have hadd : gap.addBlank ' ' = gap := by rw [Gap.addBlank, if_pos hgap]
    rw [spaces_succ, List.cons_append, plain_space, hadd, ih, Mark.forward_forward, Nat.add_comm 1]

private theorem readPlain_cons (hbreak : isBreak c = false) (hblank : isBlank c = false) :
    readPlain false indent gap mark (c :: rest) =
      if gap ≠ {} ∧ (mark.column < indent ∨ c = '#') ∨ mark.column = 0 ∧ startsDocumentMark (c :: rest) = true ∨
          c = ':' ∧ startsBlank rest = true then
        some { text := [], cursor := ⟨c :: rest, mark⟩, onNewLine := gap.lineBreak.isSome }
      else (readPlain false indent {} (mark.over c) rest).map (·.prepend (gap.text ++ [c])) := by
  have hreturn := ne_return_of_not_isBreak hbreak
  have hinside : breaksPlain false (c :: rest) = false := by
    cases rest <;> simp [breaksPlain]
    split <;> simp_all
  rw [readPlain]
  · by_cases hgap : gap = {} <;> simp [hbreak, hblank, hinside, endsPlain, hgap]
    · grind
    · grind
  · exact fun _ h => absurd h hreturn

end Steps

/-- A text that is plain behind a character of the same line. -/
structure IsPlainAfter (before : Char) (text : List Char) : Prop where
  printable : ∀ c ∈ text, isPrintable c = true
  oneLine : ∀ c ∈ text, isBreak c = false
  noIndicator : hasIndicatorAfter before text = false
  noSpaceAtEnd : text.getLast? ≠ some ' '

namespace IsPlainAfter
variable {before c : Char} {text : List Char}

theorem tail (h : IsPlainAfter before (c :: text)) : IsPlainAfter c text where
  printable := fun d hd => h.printable d (List.mem_cons_of_mem c hd)
  oneLine := fun d hd => h.oneLine d (List.mem_cons_of_mem c hd)
  noIndicator := (Bool.or_eq_false_iff.1 h.noIndicator).2
  noSpaceAtEnd := fun hlast => h.noSpaceAtEnd (by
    cases text with
    | nil => cases hlast
    | cons d text => rwa [List.getLast?_cons_cons])

theorem not_comment (h : IsPlainAfter ' ' (c :: text)) : c ≠ '#' := by
  have hhere := (Bool.or_eq_false_iff.1 h.noIndicator).1
  rintro rfl
  exact absurd hhere (by simp [isIndicatorAt, isBlank])

theorem not_key (h : IsPlainAfter before (c :: text)) (rest : List Char) :
    ¬ (c = ':' ∧ startsBlank (text ++ rest) = true) := by
  have hhere := (Bool.or_eq_false_iff.1 h.noIndicator).1
  rintro ⟨rfl, hblank⟩
  have htext : startsBlank text = false := by simpa [isIndicatorAt] using hhere
  rw [startsBlank_append htext] at hblank
  cases hblank

end IsPlainAfter

-- The gap holds the spaces that were passed since the last other character.
private theorem readPlain_after {indent : ℤ} (tail : List Char) {before : Char} {text : List Char}
    (h : IsPlainAfter before text) (count : ℕ) (hcount : 0 < count → before = ' ' ∧ text ≠ []) (mark : Mark)
    (hcolumn : 0 < mark.column) (hindent : indent ≤ mark.column) :
    readPlain false indent (.ofSpaces count) mark (text ++ tail) =
      (readPlain false indent {} (text.foldl Mark.over mark) tail).map (·.prepend (List.replicate count ' ' ++ text)) := by
  induction text generalizing before count mark with
  | nil =>
    have hzero : count = 0 := Nat.eq_zero_of_not_pos fun hpos => (hcount hpos).2 rfl
    subst hzero
    exact Option.map_id'.symm
  | cons c text ih =>
    have hbreak := h.oneLine c List.mem_cons_self
    have hover : indent ≤ ((mark.over c).column : ℤ) := by
      rw [Mark.over_column]
      omega
    by_cases hspace : c = ' '
    · subst hspace
      have hmore : text ≠ [] := by
        rintro rfl
        exact h.noSpaceAtEnd rfl
      have hshift : List.replicate count ' ' ++ ' ' :: text = List.replicate (count + 1) ' ' ++ text := by
        simp [List.replicate_succ']
      rw [List.cons_append, plain_space, Gap.ofSpaces_addBlank, hshift]
      exact ih h.tail (count + 1) (fun _ => ⟨rfl, hmore⟩) (mark.forward 1) (Nat.succ_pos _) hover
    · have hblank := not_isBlank_of_isPrintable (h.printable c List.mem_cons_self) hspace
      have hcomment : Gap.ofSpaces count ≠ {} → c ≠ '#' := by
        intro hgap
        have hpos : 0 < count := Nat.pos_of_ne_zero fun hzero => hgap (by rw [hzero, Gap.ofSpaces_zero])
        obtain ⟨rfl, -⟩ := hcount hpos
        exact h.not_comment
      have hnext := ih h.tail 0 (fun hpos => absurd hpos (Nat.lt_irrefl 0)) (mark.over c) (Nat.succ_pos _) hover
      rw [Gap.ofSpaces_zero] at hnext
      rw [List.cons_append, readPlain_cons hbreak hblank, if_neg, hnext, Option.map_map, Gap.ofSpaces_text]
      · rw [List.foldl_cons]
        congr 1
        funext read
        simp [ScalarRead.prepend]
      · rintro (⟨hgap, hless | hc⟩ | ⟨hzero, -⟩ | hkey)
        · omega
        · exact hcomment hgap hc
        · omega
        · exact h.not_key tail hkey

/-- A text that can be plain, from its first character on. -/
theorem isPlainAfter_of_canBePlain {c : Char} {text : List Char} (h : canBePlain (c :: text) = true) :
    IsPlainAfter c text ∧ isPrintable c = true ∧ isBreak c = false ∧ c ≠ ' ' ∧ isLeadingIndicator c = false ∧
      ((c = '?' ∨ c = ':' ∨ c = '-') → startsBlank text = false) := by
  simp only [canBePlain, hasAtEnd, hasIndicator, isIndicatorAt, Bool.and_eq_true, Bool.not_eq_true', Bool.or_eq_false_iff,
    if_true, List.all_cons, List.any_cons, List.head?_cons, Option.any_some, decide_eq_false_iff_not] at h
  obtain ⟨⟨⟨⟨hc, hprintable⟩, hbreak, hline⟩, hspace, hlast⟩, -, ⟨hlead, hstart⟩, hindicator⟩ := h
  refine ⟨⟨fun d hd => List.all_eq_true.1 hprintable d hd, fun d hd => ?_, hindicator, fun heq => ?_⟩, hc, hbreak, hspace,
    hlead, fun hor => ?_⟩
  · simpa using List.any_eq_false.1 hline d hd
  · cases text with
    | nil => cases heq
    | cons d text => simp [List.getLast?_cons_cons, heq] at hlast
  · rcases hor with rfl | rfl | rfl <;> simpa using hstart

theorem startsLine_of_canBePlain {text : List Char} (h : canBePlain text = true) (hne : text ≠ []) (tail : List Char) :
    StartsLine (text ++ tail) := by
  cases text with
  | nil => exact absurd rfl hne
  | cons c text =>
    obtain ⟨-, hprintable, hbreak, hspace, hlead, -⟩ := isPlainAfter_of_canBePlain h
    rintro _ ⟨⟩
    refine ⟨?_, hbreak, ?_, ?_⟩
    · exact not_isBlank_of_isPrintable hprintable hspace
    · rintro rfl
      exact absurd hlead (by decide)
    · rintro rfl
      exact absurd hprintable (by decide)

/-- A plain text is read as it was written, up to what follows it. -/
theorem readPlain_written {indent : ℤ} {text : List Char} (h : canBePlain text = true) (tail : List Char) {mark : Mark}
    (hindent : indent ≤ mark.column + 1) (hmark : mark.column = 0 → ∀ c ∈ text.head?, c ≠ '-' ∧ c ≠ '.') :
    readPlain false indent {} mark (text ++ tail) =
      (readPlain false indent {} (text.foldl Mark.over mark) tail).map (·.prepend text) := by
  cases text with
  | nil => exact Option.map_id'.symm
  | cons c text =>
    obtain ⟨hafter, hprintable, hbreak, hspace, -, hstart⟩ := isPlainAfter_of_canBePlain h
    have hblank := not_isBlank_of_isPrintable hprintable hspace
    have hover : indent ≤ ((mark.over c).column : ℤ) := by
      rw [Mark.over_column]
      omega
    have hnext := readPlain_after tail hafter 0 (fun hpos => absurd hpos (Nat.lt_irrefl 0)) (mark.over c)
      (Nat.succ_pos _) hover
    rw [Gap.ofSpaces_zero] at hnext
    rw [List.cons_append, readPlain_cons hbreak hblank, if_neg, hnext, Option.map_map]
    · rfl
    · rintro (⟨hgap, -⟩ | ⟨hzero, hdocument⟩ | ⟨rfl, hkey⟩)
      · exact hgap rfl
      · obtain ⟨hdash, hpoint⟩ := hmark hzero c rfl
        simp [startsDocumentMark] at hdocument
        grind
      · rw [startsBlank_append (hstart (.inr (.inl rfl)))] at hkey
        cases hkey

section Ends
variable {indent : ℤ} {mark : Mark} {rest : List Char}

/-- A plain text ends before the colon of a key. -/
theorem readPlain_colon (hrest : startsBlank rest = true) :
    readPlain false indent {} mark (':' :: rest) = some { text := [], cursor := ⟨':' :: rest, mark⟩ } := by
  rw [readPlain_cons (by decide) (by decide), if_pos (.inr (.inr ⟨rfl, hrest⟩))]
  rfl

/-- A plain text ends where a line begins that is not indented as it should be, or where all text ends. -/
theorem readPlain_lineEnd {column : ℕ} (mark : Mark) (hcolumn : column < indent) (hrest : StartsLine rest) :
    readPlain false indent {} mark ('\n' :: spaces column ++ rest) =
      some { text := [], cursor := ⟨rest, (mark.nextLine 1).forward column⟩, onNewLine := true } := by
  have hgap : (({} : Gap).addBreak '\n').lineBreak.isSome = true := rfl
  have hnewline : readPlain false indent {} mark ('\n' :: spaces column ++ rest) =
      readPlain false indent (({} : Gap).addBreak '\n') (mark.nextLine 1) (spaces column ++ rest) := by
    simp [readPlain, isBreak]
    rfl
  rw [hnewline, plain_spaces column hgap]
  cases rest with
  | nil => simp [readPlain, hgap]
  | cons c rest =>
    obtain ⟨hblank, hbreak, -, -⟩ := hrest c rfl
    rw [readPlain_cons hbreak hblank, if_pos (.inl ⟨by decide, .inl (by simpa using hcolumn)⟩), hgap]

end Ends

end CallOrder.Yaml
