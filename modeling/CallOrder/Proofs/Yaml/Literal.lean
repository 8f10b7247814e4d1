import CallOrder.Proofs.Yaml.Printable
import Mathlib.Data.List.Induction

/-! Texts of several lines as literal blocks in YAML. The heading says what becomes of the line breaks at the end, and
the block ends where the next line is not as far in. -/
namespace CallOrder.Yaml

theorem breakText_of_isPrintable {c : Char} (h : isPrintable c = true) (hbreak : isBreak c = true) : breakText c = [c] := by
  rcases isBreak_of_isPrintable h hbreak with rfl | rfl | rfl <;> rfl

section Steps
variable {chomping : Chomping} {least : ℕ} {state : BlockState} {mark : Mark} {rest : List Char} {c : Char}

private theorem block_spaces (count : ℕ) (hwithin : state.indent = 0 ∨ mark.column + count ≤ state.indent) :
    readBlock false chomping least state false mark (spaces count ++ rest) =
      readBlock false chomping least state false (mark.forward count) rest := by
  induction count generalizing mark with
  | zero => rfl
  | succ count ih =>
    have hspace : readBlock false chomping least state false mark (' ' :: (spaces count ++ rest)) =
        readBlock false chomping least state false (mark.forward 1) (spaces count ++ rest) := by
      have hhere : state.indent = 0 ∨ mark.column < state.indent := by omega
      rw [readBlock]
      · simp [hhere]
      · simp
    rw [spaces_succ, List.cons_append, hspace, ih (by rw [Mark.forward_column]; omega), Mark.forward_forward,
      Nat.add_comm 1]

private theorem block_char (hbreak : isBreak c = false) : readBlock false chomping least state true mark (c :: rest) =
    (readBlock false chomping least state true (mark.over c) rest).map (·.prepend [c]) := by
  have hreturn := ne_return_of_not_isBreak hbreak
  rw [readBlock]
  · simp [hbreak]
  · exact fun _ h => absurd h hreturn

private theorem not_return (h : isPrintable c = true) : c ≠ '\r' := by
  rintro rfl
  exact absurd h (by decide)

private theorem block_break (h : isPrintable c = true) (hbreak : isBreak c = true) :
    readBlock false chomping least state true mark (c :: rest) =
      readBlock false chomping least { state with lineBreak := [c], moreBreaks := [] } false
        (mark.nextLine c.utf8Size) rest := by
  rw [readBlock]
  · rw [if_pos hbreak, breakText_of_isPrintable h hbreak]
  · exact fun _ h' => absurd h' (not_return h)

private theorem block_emptyLine (h : isPrintable c = true) (hbreak : isBreak c = true) :
    readBlock false chomping least state false mark (c :: rest) =
      readBlock false chomping least
        { state with deepest := max state.deepest mark.column, moreBreaks := state.moreBreaks ++ [c] } false
        (mark.nextLine c.utf8Size) rest := by
  have hblank : c ≠ ' ' ∧ c ≠ '\t' := by
    rcases isBreak_of_isPrintable h hbreak with rfl | rfl | rfl <;> decide
  rw [readBlock]
  · simp [hbreak, hblank, breakText_of_isPrintable h hbreak]
  · exact fun _ h' => absurd h' (not_return h)

private theorem block_line (hbreak : isBreak c = false) (hcolumn : mark.column = state.indent) (hindent : 0 < state.indent) :
    readBlock false chomping least state false mark (c :: rest) =
      (readBlock false chomping least
        { state with
          deepest := max state.deepest mark.column
          lineBreak := []
          moreBreaks := []
          afterBlank := isBlank c } true (mark.over c) rest).map
        (·.prepend (state.lineBreak ++ state.moreBreaks ++ [c])) := by
  have hreturn := ne_return_of_not_isBreak hbreak
  rw [readBlock]
  · simp [hbreak, hcolumn, Nat.ne_of_gt hindent, BlockState.joint]
  · exact fun _ h => absurd h hreturn

-- The first line shows how far in the block stands, if the heading did not say so.
private theorem block_firstLine (indent : ℕ) (hbreak : isBreak c = false) (hblank : isBlank c = false)
    (hcolumn : mark.column = indent) (hleast : least ≤ indent) :
    readBlock false chomping least { indent := 0 } false mark (c :: rest) =
      (readBlock false chomping least { indent, deepest := indent } true (mark.over c) rest).map (·.prepend [c]) := by
  have hreturn := ne_return_of_not_isBreak hbreak
  obtain ⟨hspace, htab⟩ : c ≠ ' ' ∧ c ≠ '\t' := by simpa [isBlank] using hblank
  rw [readBlock]
  · simp [hbreak, hblank, hspace, htab, hcolumn, hleast, BlockState.joint]
  · exact fun _ h => absurd h hreturn

private theorem block_end {column : ℕ} (hcolumn : column < state.indent) (hmark : mark.column = 0) (hrest : StartsLine rest) :
    ReadsTo (readBlock false chomping least state false mark (spaces column ++ rest)) (state.tail chomping) rest
      (·.column = column) := by
  refine ⟨mark.forward column, by simp [hmark], ?_⟩
  rw [block_spaces column (.inr (by omega))]
  cases rest with
  | nil => rw [readBlock]
  | cons c rest =>
    obtain ⟨hblank, hbreak, -, -⟩ := hrest c rfl
    obtain ⟨hspace, htab⟩ : c ≠ ' ' ∧ c ≠ '\t' := by simpa [isBlank] using hblank
    have hreturn := ne_return_of_not_isBreak hbreak
    rw [readBlock]
    · simp [hbreak, hspace, htab, hmark, show column ≠ state.indent by omega, show state.indent ≠ 0 by omega]
    · exact fun _ h => absurd h hreturn

end Steps

section Lines
variable (chomping : Chomping) (least : ℕ) {indent column : ℕ} {next : List Char}

private theorem literalFrom_breaks {breaks : List Char} (hbreaks : ∀ c ∈ breaks, isBreak c = true) (afterBreak : Bool) :
    literalFrom indent afterBreak breaks = breaks := by
  induction breaks generalizing afterBreak with
  | nil => rfl
  | cons c breaks ih =>
    rw [literalFrom, if_pos (hbreaks c List.mem_cons_self), ih fun d hd => hbreaks d (List.mem_cons_of_mem c hd)]

private theorem literalFrom_append {breaks : List Char} (hbreaks : ∀ c ∈ breaks, isBreak c = true) (text : List Char)
    (afterBreak : Bool) : literalFrom indent afterBreak (text ++ breaks) = literalFrom indent afterBreak text ++ breaks := by
  induction text generalizing afterBreak with
  | nil => exact literalFrom_breaks hbreaks afterBreak
  | cons c text ih =>
    rw [List.cons_append, literalFrom, literalFrom, ih true, ih false]
    split <;> simp

-- Empty lines at the end of a block are counted, and what becomes of them the heading says.
private theorem readBlock_breaks (hcolumn : column < indent) (hnext : StartsLine next) {breaks : List Char}
    (hbreaks : ∀ c ∈ breaks, isPrintable c = true ∧ isBreak c = true) (state : BlockState) (hindent : state.indent = indent)
    (mark : Mark) (hmark : mark.column = 0) :
    ReadsTo (readBlock false chomping least state false mark (breaks ++ (spaces column ++ next)))
      ({ state with moreBreaks := state.moreBreaks ++ breaks }.tail chomping) next (·.column = column) := by
  induction breaks generalizing state mark with
  | nil =>
    rw [List.append_nil]
    exact block_end (by omega) hmark hnext
  | cons c breaks ih =>
    obtain ⟨hprintable, hbreak⟩ := hbreaks c List.mem_cons_self
    have hread := ih (fun d hd => hbreaks d (List.mem_cons_of_mem c hd))
      { state with deepest := max state.deepest mark.column, moreBreaks := state.moreBreaks ++ [c] } hindent
      (mark.nextLine c.utf8Size) rfl
    rw [List.cons_append, block_emptyLine hprintable hbreak]
    rw [List.append_assoc, List.singleton_append] at hread
    cases chomping <;> exact hread

/-- The lines of a text that does not end with a line break, with line breaks behind it. -/
structure IsLines (body breaks : List Char) : Prop where
  printable : ∀ c ∈ body, isPrintable c = true
  noBreakAtEnd : ∀ c ∈ body.getLast?, isBreak c = false
  breaks : ∀ c ∈ breaks, isPrintable c = true ∧ isBreak c = true

namespace IsLines
variable {c : Char} {body breaks : List Char}

theorem tail (h : IsLines (c :: body) breaks) : IsLines body breaks where
  printable := fun d hd => h.printable d (List.mem_cons_of_mem c hd)
  noBreakAtEnd := fun d hd => h.noBreakAtEnd d (by
    cases body with
    | nil => cases hd
    | cons e body => rwa [List.getLast?_cons_cons])
  breaks := h.breaks

theorem ne_nil (h : IsLines (c :: body) breaks) (hbreak : isBreak c = true) : body ≠ [] := by
  rintro rfl
  have hlast := h.noBreakAtEnd c rfl
  rw [hbreak] at hlast
  cases hlast

end IsLines

section Written
variable (indent column next)

/-- Within a line its characters follow. -/
private def BlockWithin (written read : List Char) : Prop :=
  ∀ state mark, state.indent = indent →
    ReadsTo (readBlock false chomping least state true mark (literalFrom indent false written ++ (spaces column ++ next)))
      read next (·.column = column)

/-- Between lines the breaks since the last one are still to come. -/
private def BlockBetween (written read : List Char) : Prop :=
  ∀ state mark, state.indent = indent → mark.column = 0 →
    ReadsTo (readBlock false chomping least state false mark (literalFrom indent true written ++ (spaces column ++ next)))
      (state.lineBreak ++ state.moreBreaks ++ read) next (·.column = column)

end Written

private theorem block_written_breaks (hcolumn : column < indent) (hnext : StartsLine next) {first : Char} {more : List Char}
    (hbreaks : ∀ c ∈ first :: more, isPrintable c = true ∧ isBreak c = true) :
    BlockWithin chomping least indent column next (first :: more)
      (BlockState.tail { indent, lineBreak := [first], moreBreaks := more } chomping) := by
  intro state mark hstate
  obtain ⟨hprintable, hbreak⟩ := hbreaks first List.mem_cons_self
  have hread := readBlock_breaks chomping least hcolumn hnext (fun c hc => hbreaks c (List.mem_cons_of_mem first hc))
    { state with lineBreak := [first], moreBreaks := [] } hstate (mark.nextLine first.utf8Size) rfl
  rw [literalFrom_breaks fun c hc => (hbreaks c hc).2, List.cons_append, block_break hprintable hbreak]
  cases chomping <;> exact hread

section Step
variable {chomping least} {c : Char} {written read : List Char}

private theorem block_written_break (hprintable : isPrintable c = true) (hbreak : isBreak c = true)
    (hbetween : BlockBetween chomping least indent column next written read) :
    BlockWithin chomping least indent column next (c :: written) (c :: read) ∧
      BlockBetween chomping least indent column next (c :: written) (c :: read) := by
  constructor
  · intro state mark hstate
    rw [literalFrom, if_pos hbreak, List.cons_append, block_break hprintable hbreak]
    exact hbetween { state with lineBreak := [c], moreBreaks := [] } (mark.nextLine c.utf8Size) hstate rfl
  · intro state mark hstate _
    have hread := hbetween
      { state with deepest := max state.deepest mark.column, moreBreaks := state.moreBreaks ++ [c] }
      (mark.nextLine c.utf8Size) hstate rfl
    rw [literalFrom, if_pos hbreak, List.cons_append, block_emptyLine hprintable hbreak]
    simpa using hread

private theorem block_written_char (hindent : 0 < indent) (hbreak : isBreak c = false)
    (hwithin : BlockWithin chomping least indent column next written read) :
    BlockWithin chomping least indent column next (c :: written) (c :: read) ∧
      BlockBetween chomping least indent column next (c :: written) (c :: read) := by
  constructor
  · intro state mark hstate
    rw [literalFrom, hbreak, if_neg Bool.false_ne_true, if_neg Bool.false_ne_true, List.nil_append, List.cons_append,
      block_char hbreak]
    exact (hwithin state (mark.over c) hstate).prepend [c]
  · intro state mark hstate hmark
    rw [literalFrom, hbreak, if_neg Bool.false_ne_true, if_pos rfl, List.append_assoc,
      block_spaces indent (.inr (by omega)), List.cons_append, block_line hbreak (by simp [hmark, hstate]) (by omega)]
    have hread := (hwithin { state with
      deepest := max state.deepest (mark.forward indent).column
      lineBreak := []
      moreBreaks := []
      afterBlank := isBlank c } ((mark.forward indent).over c) hstate).prepend
        (state.lineBreak ++ state.moreBreaks ++ [c])
    simpa using hread

end Step

private theorem readBlock_from (hindent : 0 < indent) (hcolumn : column < indent) (hnext : StartsLine next)
    {first : Char} {more body : List Char} (h : IsLines body (first :: more)) :
    BlockWithin chomping least indent column next (body ++ first :: more)
        (body ++ BlockState.tail { indent, lineBreak := [first], moreBreaks := more } chomping) ∧
      (body ≠ [] → BlockBetween chomping least indent column next (body ++ first :: more)
        (body ++ BlockState.tail { indent, lineBreak := [first], moreBreaks := more } chomping)) := by
  induction body with
  | nil => exact ⟨block_written_breaks chomping least hcolumn hnext h.breaks, fun hne => absurd rfl hne⟩
  | cons c body ih =>
    obtain ⟨hwithin, hbetween⟩ := ih h.tail
    cases hbreak : isBreak c with
    | true =>
      obtain ⟨hwithin', hbetween'⟩ :=
        block_written_break (h.printable c List.mem_cons_self) hbreak (hbetween (h.ne_nil hbreak))
      exact ⟨hwithin', fun _ => hbetween'⟩
    | false =>
      obtain ⟨hwithin', hbetween'⟩ := block_written_char hindent hbreak hwithin
      exact ⟨hwithin', fun _ => hbetween'⟩

end Lines

private def chompingSign : Chomping → List Char
  | .clip => []
  | .strip => ['-']
  | .keep => ['+']

private def indentSign (text : List Char) : List Char :=
  if text.head?.any fun c => c = ' ' || isBreak c then ['2'] else []

section Heading
variable {text : List Char}

private theorem exists_trailing (text : List Char) : ∃ body breaks, text = body ++ breaks ∧
    (∀ c ∈ body.getLast?, isBreak c = false) ∧ ∀ c ∈ breaks, isBreak c = true := by
  induction text using List.reverseRecOn with
  | nil => exact ⟨[], [], rfl, by simp, by simp⟩
  | append_singleton text c ih =>
    cases hbreak : isBreak c with
    | true =>
      obtain ⟨body, breaks, rfl, hbody, hbreaks⟩ := ih
      refine ⟨body, breaks ++ [c], by simp, hbody, fun d hd => ?_⟩
      rcases List.mem_append.1 hd with hd | hd
      · exact hbreaks d hd
      · rw [List.mem_singleton.1 hd, hbreak]
    | false => exact ⟨text ++ [c], [], by simp, by simp [hbreak], by simp⟩

private theorem literalHead_eq {last : Char} {before : List Char} (h : text.reverse = last :: before) :
    literalHead text = '|' :: (indentSign text ++ chompingSign
      (if isBreak last then if before.head?.all isBreak then .keep else .clip else .strip)) := by
  rw [literalHead, h]
  cases before <;> grind [indentSign, chompingSign]

/-- A text as the lines of a block, with the heading that gives back its line breaks at the end. -/
private structure IsBlock (text body : List Char) (first : Char) (more : List Char) (chomping : Chomping) : Prop where
  lines : IsLines body (first :: more)
  written : text ++ (if text.getLast?.any isBreak then [] else ['\n']) = body ++ first :: more
  head : literalHead text = '|' :: (indentSign text ++ chompingSign chomping)
  read : ∀ indent, body ++ BlockState.tail { indent, lineBreak := [first], moreBreaks := more } chomping = text
  keep : body = [] → chomping = .keep

section Endings
variable {body more : List Char} {first : Char}

private theorem isBlock_strip (hne : text ≠ []) (hprintable : ∀ c ∈ text, isPrintable c = true)
    (hend : ∀ c ∈ text.getLast?, isBreak c = false) : IsBlock text text '\n' [] .strip := by
  obtain ⟨before, last, rfl⟩ := (List.eq_nil_or_concat' text).resolve_left hne
  have hlast : isBreak last = false := hend last (by simp)
  have hreverse : (before ++ [last]).reverse = last :: before.reverse := by simp
  refine ⟨⟨hprintable, hend, List.forall_mem_singleton.2 ⟨rfl, rfl⟩⟩, by simp [hlast], ?_, fun _ => ?_, by simp⟩
  · rw [literalHead_eq hreverse, hlast]
    rfl
  · simp [BlockState.tail]

private theorem isBlock_clip (h : IsLines body [first]) (hne : body ≠ []) : IsBlock (body ++ [first]) body first [] .clip := by
  have hfirst := (h.breaks first List.mem_cons_self).2
  obtain ⟨before, last, rfl⟩ := (List.eq_nil_or_concat' body).resolve_left hne
  have hlast : isBreak last = false := h.noBreakAtEnd last (by simp)
  have hreverse : (before ++ [last] ++ [first]).reverse = first :: last :: before.reverse := by simp
  refine ⟨h, by simp [hfirst], ?_, fun _ => rfl, fun h => absurd h hne⟩
  rw [literalHead_eq hreverse, if_pos hfirst, if_neg (by simp [hlast])]

private theorem isBlock_keep (h : IsLines body (first :: more)) (hkeep : more ≠ [] ∨ body = []) :
    IsBlock (body ++ first :: more) body first more .keep := by
  obtain ⟨init, last, hinit⟩ := (List.eq_nil_or_concat' (first :: more)).resolve_left (by simp)
  have hlast : isBreak last = true := (h.breaks last (by simp [hinit])).2
  have hbefore : (init.reverse ++ body.reverse).head?.all isBreak = true := by
    rcases List.eq_nil_or_concat' init with rfl | ⟨before, c, rfl⟩
    · have hmore : more = [] := by simpa using congrArg List.length hinit
      simp [hkeep.resolve_left (absurd hmore)]
    · have hc : isBreak c = true := (h.breaks c (by simp [hinit])).2
      simp [hc]
  have hreverse : (body ++ first :: more).reverse = last :: (init.reverse ++ body.reverse) := by
    rw [hinit]
    simp
  refine ⟨h, by simp [hinit, hlast], ?_, fun _ => rfl, fun _ => rfl⟩
  rw [literalHead_eq hreverse, if_pos hlast, if_pos hbefore]

end Endings

-- A single break behind other characters is the usual one; otherwise all breaks must be kept.
private theorem exists_isBlock (hne : text ≠ []) (hprintable : ∀ c ∈ text, isPrintable c = true) :
    ∃ body first more chomping, IsBlock text body first more chomping := by
  obtain ⟨body, breaks, rfl, hbody, hbreaks⟩ := exists_trailing text
  cases breaks with
  | nil =>
    rw [List.append_nil] at hne hprintable ⊢
    exact ⟨_, _, _, _, isBlock_strip hne hprintable hbody⟩
  | cons first more =>
    have hlines : IsLines body (first :: more) := ⟨fun c hc => hprintable c (List.mem_append_left _ hc), hbody,
      fun c hc => ⟨hprintable c (List.mem_append_right _ hc), hbreaks c hc⟩⟩
    by_cases hclip : more = [] ∧ body ≠ []
    · obtain ⟨rfl, hne'⟩ := hclip
      exact ⟨_, _, _, _, isBlock_clip hlines hne'⟩
    · exact ⟨_, _, _, _, isBlock_keep hlines (by tauto)⟩

private theorem read_heading (text : List Char) (chomping : Chomping) (rest : List Char) (mark : Mark) :
    ∃ mark', BlockHead.read ⟨indentSign text ++ chompingSign chomping ++ '\n' :: rest, mark⟩ =
      some (⟨chomping, if text.head?.any fun c => c = ' ' || isBreak c then some 2 else none⟩, ⟨'\n' :: rest, mark'⟩) := by
  rw [indentSign]
  split <;> cases chomping <;> exact ⟨_, rfl⟩

private theorem dropLineEnd?_newline (rest : List Char) (mark : Mark) :
    Cursor.dropLineEnd? ⟨'\n' :: rest, mark⟩ = some ⟨rest, mark.nextLine 1⟩ := rfl

end Heading

namespace IsBlock
variable {chomping : Chomping} {least indent column : ℕ} {text body more next : List Char} {first : Char}

private theorem readsTo_indented (h : IsBlock text body first more chomping) (hindent : 0 < indent)
    (hcolumn : column < indent) (hnext : StartsLine next) {mark : Mark} (hmark : mark.column = 0) :
    ReadsTo (readBlock false chomping least { indent } false mark
      (literalFrom indent true (body ++ first :: more) ++ (spaces column ++ next))) text next (·.column = column) := by
  have hread := h.read indent
  by_cases hbody : body = []
  · have hbreaks := readBlock_breaks chomping least hcolumn hnext h.lines.breaks { indent } rfl mark hmark
    rw [hbody, List.nil_append, literalFrom_breaks fun c hc => (h.lines.breaks c hc).2]
    rw [hbody, h.keep hbody] at hread
    rw [h.keep hbody] at hbreaks ⊢
    rw [← hread]
    exact hbreaks
  · rw [← hread]
    exact (readBlock_from chomping least hindent hcolumn hnext h.lines).2 hbody { indent } mark rfl hmark

-- The heading says nothing of the indentation, so the first line begins with a character that shows it.
private theorem readsTo_shown (h : IsBlock text body first more chomping) (hindent : 0 < indent) (hleast : least ≤ indent)
    (hcolumn : column < indent) (hnext : StartsLine next) (hhead : ∀ c ∈ text.head?, isBreak c = false ∧ c ≠ ' ')
    {mark : Mark} (hmark : mark.column = 0) :
    ReadsTo (readBlock false chomping least { indent := 0 } false mark
      (literalFrom indent true (body ++ first :: more) ++ (spaces column ++ next))) text next (·.column = column) := by
  cases body with
  | nil =>
    have hfirst := (hhead first (by rw [← h.read 0, h.keep rfl]; rfl)).1
    rw [(h.lines.breaks first List.mem_cons_self).2] at hfirst
    cases hfirst
  | cons c body =>
    have hc : text.head? = some c := by rw [← h.read 0]; rfl
    obtain ⟨hbreak, hspace⟩ := hhead c hc
    have hblank := not_isBlank_of_isPrintable (h.lines.printable c List.mem_cons_self) hspace
    have hrest := (readBlock_from chomping least hindent hcolumn hnext h.lines.tail).1 { indent, deepest := indent }
      ((mark.forward indent).over c) rfl
    rw [List.cons_append, literalFrom, hbreak, if_neg Bool.false_ne_true, if_pos rfl, List.append_assoc,
      block_spaces indent (.inl rfl), List.cons_append, block_firstLine indent hbreak hblank (by simp [hmark]) hleast,
      ← h.read indent]
    exact hrest.prepend [c]

end IsBlock

/-- A text as a literal block is read as it was written, up to a line that is not as far in. -/
theorem readBlockScalar_written {parent column : ℕ} {text next : List Char} (hblock : canBeBlock text = true)
    (hcolumn : column < parent + 2) (hnext : StartsLine next) (mark : Mark) :
    ReadsTo (readBlockScalar false parent ⟨(literalHead text).tail ++ '\n' :: (literalFrom (parent + 2) true text ++
        (if text.getLast?.any isBreak then [] else ['\n']) ++ (spaces column ++ next)), mark⟩)
      text next (·.column = column) := by
  simp only [canBeBlock, Bool.and_eq_true, Bool.not_eq_true', List.isEmpty_eq_false_iff, List.all_eq_true] at hblock
  obtain ⟨⟨⟨hne, hprintable⟩, -⟩, -⟩ := hblock
  obtain ⟨body, first, more, chomping, h⟩ := exists_isBlock hne hprintable
  have hending : ∀ c ∈ if text.getLast?.any isBreak then [] else ['\n'], isBreak c = true := by
    split <;> simp [isBreak]
  obtain ⟨mark', hread⟩ := read_heading text chomping
    (literalFrom (parent + 2) true (body ++ first :: more) ++ (spaces column ++ next)) mark
  have hleast : max ((parent : ℤ) + 1).toNat 1 = parent + 1 := by omega
  have hparent : (0 : ℤ) ≤ parent := Int.natCast_nonneg parent
  have hindent : 0 < parent + 2 := Nat.succ_pos (parent + 1)
  rw [← literalFrom_append hending, h.written, h.head, List.tail_cons, readBlockScalar, hread]
  simp only [Option.bind_eq_bind, Option.bind_some, dropLineEnd?_newline, hleast]
  split
  · rename_i n hincrement
    obtain ⟨-, rfl⟩ : _ ∧ 2 = n := by simpa using hincrement
    rw [if_pos hparent, Int.toNat_natCast]
    exact h.readsTo_indented hindent hcolumn hnext rfl
  · rename_i hshown
    refine h.readsTo_shown hindent (Nat.le_succ _) hcolumn hnext ?_ rfl
    intro c hc
    rw [hc] at hshown
    simpa [and_comm] using hshown

end CallOrder.Yaml
