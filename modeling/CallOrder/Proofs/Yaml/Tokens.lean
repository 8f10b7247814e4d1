import CallOrder.Proofs.Yaml.Literal
import CallOrder.Proofs.Yaml.Plain
import CallOrder.Proofs.Yaml.Quoted
import CallOrder.Yaml.Token

/-! The tokens of a YAML text, line by line: keys, values and the items of lists. What a line gives does not depend on
what stands before it, except for the columns of the blocks in which it stands. -/
namespace CallOrder.Yaml.Lexer

/-- Passes white space and gives up the keys that cannot end any more, as before each token. -/
def settle? (lexer : Lexer) : Option Lexer := (lexer.dropSpace (lexer.cursor.rest.length + 1)).dropStaleKeys?

/-- From here to the end of the text these tokens are read, those before included. -/
def Gives (lexer : Lexer) (tokens : List Token) : Prop :=
  ∀ count, lexer.cursor.rest.length < count → run count lexer = some tokens

section Steps
variable {lexer lexer' lexer'' : Lexer} {tokens : List Token}

private theorem run_succ (count : ℕ) (lexer : Lexer) : run (count + 1) lexer = lexer.settle?.bind fun lexer =>
    match (lexer.closeBlocks lexer.cursor.mark.column).cursor.rest with
    | [] => (lexer.closeBlocks lexer.cursor.mark.column).lexEnd?.map Lexer.tokens
    | c :: rest => ((lexer.closeBlocks lexer.cursor.mark.column).lexFrom? c rest).bind (run count) := by
  rw [run, settle?]
  cases (lexer.dropSpace (lexer.cursor.rest.length + 1)).dropStaleKeys? with
  | none => rfl
  | some lexer =>
    simp only [Option.bind_eq_bind, Option.bind_some]
    cases (lexer.closeBlocks lexer.cursor.mark.column).cursor.rest with
    | nil => cases (lexer.closeBlocks lexer.cursor.mark.column).lexEnd? <;> rfl
    | cons c rest => rfl

theorem Gives.of_settle (h : lexer'.Gives tokens) (hsettle : lexer.settle? = lexer'.settle?)
    (hlength : lexer'.cursor.rest.length ≤ lexer.cursor.rest.length) : lexer.Gives tokens := by
  intro count hcount
  have hrun := h count (by omega)
  cases count with
  | zero => omega
  | succ count => rwa [run_succ, hsettle, ← run_succ]

@[simp]
theorem closeBlocks_cursor (lexer : Lexer) (column : ℤ) : (lexer.closeBlocks column).cursor = lexer.cursor := by
  rw [closeBlocks]
  split <;> rfl

theorem Gives.of_lexFrom (h : lexer''.Gives tokens) (c : Char) (rest : List Char) (hsettle : lexer.settle? = some lexer')
    (hrest : lexer'.cursor.rest = c :: rest)
    (hlex : (lexer'.closeBlocks lexer'.cursor.mark.column).lexFrom? c rest = some lexer'')
    (hlength : lexer''.cursor.rest.length < lexer.cursor.rest.length) : lexer.Gives tokens := by
  intro count hcount
  cases count with
  | zero => omega
  | succ count =>
    rw [run_succ, hsettle, Option.bind_some, closeBlocks_cursor, hrest]
    simp only [hlex, Option.bind_some]
    exact h count (by omega)

theorem closeBlocks_of_le {column : ℤ} (h : lexer.indent ≤ column) : lexer.closeBlocks column = lexer := by
  have hfrom : closeBlocksFrom column lexer.indent lexer.outerIndents = (lexer.indent, lexer.outerIndents, 0) := by
    cases lexer.outerIndents with
    | nil => rfl
    | cons outer outers => rw [closeBlocksFrom, if_neg (by omega)]
  rw [closeBlocks]
  split
  · rfl
  · rw [hfrom]
    simp

end Steps

section Space
variable {lexer : Lexer} {rest : List Char} {mark : Mark}

private theorem takeWhile_spaces (p : Char → Bool) (hspace : p ' ' = true) (hrest : ∀ c ∈ rest.head?, p c = false)
    (column : ℕ) : (spaces column ++ rest).takeWhile p = spaces column := by
  induction column with
  | zero =>
    rw [spaces, List.replicate_zero, List.nil_append]
    cases rest with
    | nil => rfl
    | cons c rest => rw [List.takeWhile_cons, hrest c rfl, if_neg Bool.false_ne_true]
  | succ column ih => rw [spaces_succ, List.cons_append, List.takeWhile_cons, if_pos hspace, ih]

private theorem foldl_over_spaces (column : ℕ) (mark : Mark) : (spaces column).foldl Mark.over mark = mark.forward column := by
  induction column generalizing mark with
  | zero => rfl
  | succ column ih =>
    have hone : mark.over ' ' = mark.forward 1 := rfl
    rw [spaces_succ, List.foldl_cons, ih, hone, Mark.forward_forward, Nat.add_comm 1]

private theorem dropWhile_spaces (p : Char → Bool) (hspace : p ' ' = true) (hrest : ∀ c ∈ rest.head?, p c = false)
    (column : ℕ) (mark : Mark) : Cursor.dropWhile p ⟨spaces column ++ rest, mark⟩ = ⟨rest, mark.forward column⟩ := by
  rw [Cursor.dropWhile, Cursor.takeWhile]
  simp only [takeWhile_spaces p hspace hrest, Cursor.drop]
  rw [List.drop_left, List.take_left, foldl_over_spaces]

/-- Spaces before the first character of a line are passed. -/
theorem dropSpace_spaces (hrest : StartsLine rest) {column : ℕ} (hcursor : lexer.cursor = ⟨spaces column ++ rest, mark⟩)
    (count : ℕ) : dropSpace (count + 1) lexer = { lexer with cursor := ⟨rest, mark.forward column⟩ } := by
  have hmark : (spaces column ++ rest).head? ≠ some '\ufeff' := by
    cases column with
    | zero =>
      rw [spaces, List.replicate_zero, List.nil_append]
      exact fun h => (hrest _ h).2.2.2 rfl
    | succ column => simp [spaces_succ]
  have hnone : ∀ c ∈ rest.head?, (c = ' ' || (lexer.inFlow || !lexer.keyAllowed) && c = '\t') = false := by
    intro c hc
    obtain ⟨hspace, htab⟩ : c ≠ ' ' ∧ c ≠ '\t' := by simpa [isBlank] using (hrest c hc).1
    simp [hspace, htab]
  have hdrop := dropWhile_spaces _ (by simp) hnone column mark
  have hcomment : rest.head? ≠ some '#' := fun h => (hrest _ h).2.2.1 rfl
  have hbreak : rest.head?.any isBreak = false := by
    cases h : rest.head? with
    | none => rfl
    | some c => exact (hrest c h).2.1
  rw [dropSpace, hcursor]
  simp only [Cursor.dropByteOrderMark, hmark, decide_false, Bool.and_false, Bool.false_eq_true, if_false, hdrop, hcomment,
    hbreak]

/-- A line break and the indentation of the next line are passed. -/
theorem dropSpace_newline (hrest : StartsLine rest) {column : ℕ}
    (hcursor : lexer.cursor = ⟨'\n' :: (spaces column ++ rest), mark⟩) (count : ℕ) :
    dropSpace (count + 2) lexer =
      { lexer with
        cursor := ⟨rest, (mark.nextLine 1).forward column⟩
        keyAllowed := lexer.keyAllowed || !lexer.inFlow } := by
  have hfirst : dropSpace (count + 2) lexer = dropSpace (count + 1)
      { lexer with
        cursor := ⟨spaces column ++ rest, mark.nextLine 1⟩
        keyAllowed := lexer.keyAllowed || !lexer.inFlow } := by
    rw [dropSpace, hcursor]
    simp [Cursor.dropByteOrderMark, Cursor.dropWhile, Cursor.takeWhile, Cursor.drop, Cursor.dropBreak, isBreak,
      show '\n'.utf8Size = 1 from rfl]
  rw [hfirst, dropSpace_spaces hrest rfl]

end Space

private theorem dropStaleKeys?_eq {lexer : Lexer} {keyPlace : Option KeyPlace} {outers : List (Option KeyPlace)}
    (hplace : freshKey? lexer.cursor.mark lexer.keyPlace = some keyPlace)
    (houters : lexer.outerKeyPlaces.mapM (freshKey? lexer.cursor.mark) = some outers) :
    lexer.dropStaleKeys? = some { lexer with keyPlace, outerKeyPlaces := outers } := by
  simp [dropStaleKeys?, hplace, houters]

/-- A place at which a key is possible but not required, on a line that lies behind. -/
private theorem freshKey?_stale {mark : Mark} {place : KeyPlace} (hline : place.mark.line < mark.line)
    (hrequired : place.required = false) : freshKey? mark (some place) = some none := by
  simp [freshKey?, isStale, hline, hrequired]

section Settled
variable {lexer : Lexer} {rest : List Char} {mark : Mark} {column : ℕ}

theorem settle?_spaces (column : ℕ) (hrest : StartsLine rest) (hcursor : lexer.cursor = ⟨spaces column ++ rest, mark⟩)
    {keyPlace : Option KeyPlace} (hplace : freshKey? (mark.forward column) lexer.keyPlace = some keyPlace)
    {outers : List (Option KeyPlace)} (houters : lexer.outerKeyPlaces.mapM (freshKey? (mark.forward column)) = some outers) :
    lexer.settle? = some { lexer with cursor := ⟨rest, mark.forward column⟩, keyPlace, outerKeyPlaces := outers } := by
  rw [settle?, dropSpace_spaces hrest hcursor]
  exact dropStaleKeys?_eq hplace houters

theorem settle?_here (lexer : Lexer) (hrest : StartsLine lexer.cursor.rest) {keyPlace : Option KeyPlace}
    (hplace : freshKey? lexer.cursor.mark lexer.keyPlace = some keyPlace) {outers : List (Option KeyPlace)}
    (houters : lexer.outerKeyPlaces.mapM (freshKey? lexer.cursor.mark) = some outers) :
    lexer.settle? = some { lexer with keyPlace, outerKeyPlaces := outers } :=
  settle?_spaces 0 hrest rfl hplace houters

theorem settle?_newline (hrest : StartsLine rest) (hcursor : lexer.cursor = ⟨'\n' :: (spaces column ++ rest), mark⟩)
    (houter : lexer.outerKeyPlaces = [])
    (hplace : freshKey? ((mark.nextLine 1).forward column) lexer.keyPlace = some none) :
    lexer.settle? = some
      { lexer with
        cursor := ⟨rest, (mark.nextLine 1).forward column⟩
        keyAllowed := true
        keyPlace := none } := by
  have hallowed : (lexer.keyAllowed || !lexer.inFlow) = true := by simp [inFlow, houter]
  rw [settle?, hcursor, List.length_cons, dropSpace_newline hrest hcursor, hallowed]
  have houters : lexer.outerKeyPlaces.mapM (freshKey? ((mark.nextLine 1).forward column)) = some [] := by
    rw [houter]
    rfl
  rw [dropStaleKeys?_eq hplace houters, houter]

end Settled

/-- A lexer within blocks, where a key may begin. -/
def atLine (indent : ℤ) (outers : List ℤ) (tokens : List Token) (cursor : Cursor) : Lexer :=
  { cursor, tokens, indent, outerIndents := outers }

/-- A lexer within blocks, behind a token after which no key may begin. -/
def behind (indent : ℤ) (outers : List ℤ) (tokens : List Token) (cursor : Cursor) : Lexer :=
  { cursor, tokens, indent, outerIndents := outers, keyAllowed := false }

/-- Within blocks, a text whose first character stands in a column gives these tokens, after whatever stands before. -/
def Lexes (indent : ℤ) (outers : List ℤ) (column : ℕ) (rest : List Char) (read : List Token) : Prop :=
  ∀ mark tokens, mark.column = column → (atLine indent outers tokens ⟨rest, mark⟩).Gives (tokens ++ read)

section Lines
variable {indent : ℤ} {outers : List ℤ} {tokens read : List Token} {column : ℕ} {next : List Char} {mark : Mark}

theorem settle?_atLine (hnext : StartsLine next) (tokens : List Token) (mark : Mark) :
    (atLine indent outers tokens ⟨next, mark⟩).settle? = some (atLine indent outers tokens ⟨next, mark⟩) :=
  settle?_here _ hnext rfl rfl

-- A line break ends what stands behind a token; a place at which a key was possible lies behind then.
private theorem Lexes.of_newline (h : Lexes indent outers column next read) (hnext : StartsLine next) {lexer : Lexer}
    (hlexer : { lexer with keyAllowed := false, keyPlace := none } =
      behind indent outers tokens ⟨'\n' :: (spaces column ++ next), mark⟩)
    (hplace : ∀ place ∈ lexer.keyPlace, place.mark.line ≤ mark.line ∧ place.required = false) :
    lexer.Gives (tokens ++ read) := by
  obtain ⟨cursor, tokens', indent', outers', allowed, keyPlace, places⟩ := lexer
  simp only [behind, Lexer.mk.injEq] at hlexer
  obtain ⟨rfl, rfl, rfl, rfl, -, -, rfl⟩ := hlexer
  refine (h ((mark.nextLine 1).forward column) tokens' (by simp)).of_settle ?_ (by simp [atLine]; omega)
  rw [settle?_atLine hnext]
  refine settle?_newline hnext rfl rfl ?_
  cases keyPlace with
  | none => rfl
  | some place =>
    obtain ⟨hline, hrequired⟩ := hplace place rfl
    exact freshKey?_stale (Nat.lt_succ_of_le hline) hrequired

end Lines

section Plain
variable {indent : ℤ} {outers : List ℤ} {tokens read : List Token} {column : ℕ} {next after text : List Char} {mark : Mark}
  {lexer : Lexer} {c : Char}

theorem lexFrom?_plain (h : canBePlain (c :: text) = true) (tail : List Char) (hflow : lexer.inFlow = false)
    (hmark : lexer.cursor.mark.column = 0 → c ≠ '-' ∧ c ≠ '.') : lexer.lexFrom? c (text ++ tail) = lexer.lexPlain? := by
  obtain ⟨-, hprintable, hbreak, hspace, hlead, hstart⟩ := isPlainAfter_of_canBePlain h
  have hblank := not_isBlank_of_isPrintable hprintable hspace
  have hblank' : (c = '?' ∨ c = ':' ∨ c = '-') → startsBlank (text ++ tail) = false := fun hc =>
    startsBlank_append (hstart hc) tail
  have hdocument : (decide (lexer.cursor.mark.column = 0) && startsDocumentMark (c :: (text ++ tail))) = false := by
    rw [Bool.and_eq_false_iff, decide_eq_false_iff_not]
    refine Classical.or_iff_not_imp_left.2 fun hzero => ?_
    obtain ⟨hdash, hpoint⟩ := hmark (Classical.not_not.1 hzero)
    rw [startsDocumentMark.eq_def]
    split <;> simp_all
  have hnot : ∀ d, d = '?' ∨ d = ':' ∨ d = '-' → ¬ (c = d ∧ startsBlank (text ++ tail) = true) := by
    rintro d hd ⟨rfl, hstarts⟩
    rw [hblank' hd] at hstarts
    cases hstarts
  have hhead : (text ++ tail).head?.any isBlank = true → startsBlank (text ++ tail) = true := by
    cases text ++ tail <;> simp +contextual [startsBlank]
  simp [isLeadingIndicator] at hlead
  have hbegins : beginsPlain false c (text ++ tail) = true := by
    simp [beginsPlain, hblank, hbreak, hlead]
    grind
  simp [lexFrom?, hflow, hlead, hbegins, hdocument, hnot]

/-- A key that can be written as it is, in any column. -/
structure IsKey (key : List Char) : Prop where
  plain : canBePlain key = true
  ne_nil : key ≠ []
  noMark : ∀ c ∈ key.head?, c ≠ '-' ∧ c ≠ '.'
  /-- A key of more bytes could not be told from another scalar. -/
  size : (key.map Char.utf8Size).sum ≤ 1024

/-- Behind a token that stands further in than the block, a text gives these tokens, after whatever stands before. -/
def LexesBehind (indent : ℤ) (outers : List ℤ) (rest : List Char) (read : List Token) : Prop :=
  ∀ mark tokens, indent < mark.column → (behind indent outers tokens ⟨rest, mark⟩).Gives (tokens ++ read)

/-- Nothing but the end of the line stands behind a token. -/
theorem Lexes.lineEnd (h : Lexes indent outers column next read) (hnext : StartsLine next) :
    LexesBehind indent outers ('\n' :: (spaces column ++ next)) read :=
  fun _ _ _ => h.of_newline hnext rfl (by simp [behind])

private theorem lexPlain?_eq {noted : Lexer} (hnote : lexer.noteKey? = some noted) (hflow : noted.inFlow = false)
    {read : ScalarRead}
    (hread : readPlain false (noted.indent + 1) {} noted.cursor.mark noted.cursor.rest = some read) :
    lexer.lexPlain? = some
      { noted.push (.scalar .plain read.text) with cursor := read.cursor, keyAllowed := read.onNewLine } := by
  simp [lexPlain?, hnote, hflow, hread]

private theorem noteKey?_behind (indent : ℤ) (outers : List ℤ) (tokens : List Token) (cursor : Cursor) :
    (behind indent outers tokens cursor).noteKey? = some (behind indent outers tokens cursor) := rfl

private theorem noteKey?_atLine (indent : ℤ) (outers : List ℤ) (tokens : List Token) (cursor : Cursor) :
    (atLine indent outers tokens cursor).noteKey? = some
      { atLine indent outers tokens cursor with
        keyPlace := some ⟨tokens.length, cursor.mark, indent = cursor.mark.column⟩ } := rfl

/-- A plain text up to the end of its line. -/
private theorem readPlain_line (hplain : canBePlain text = true) (hnext : StartsLine next) (hcolumn : column ≤ indent)
    (mark : Mark) (hmark : indent < mark.column) (hfirst : mark.column = 0 → ∀ c ∈ text.head?, c ≠ '-' ∧ c ≠ '.') :
    ∃ mark' : Mark, mark'.line = mark.line + 1 ∧ mark'.column = column ∧
      readPlain false (indent + 1) {} mark (text ++ '\n' :: (spaces column ++ next)) =
        some { text, cursor := ⟨next, mark'⟩, onNewLine := true } := by
  refine ⟨((text.foldl Mark.over mark).nextLine 1).forward column, by simp [Mark.foldl_over], by simp, ?_⟩
  have hend := readPlain_lineEnd (text.foldl Mark.over mark) (Int.lt_add_one_of_le hcolumn) hnext
  rw [List.cons_append] at hend
  rw [readPlain_written hplain _ (by omega) hfirst, hend, Option.map_some, ScalarRead.prepend, List.append_nil]

/-- A plain value on the line of its key. -/
theorem Lexes.plain (h : Lexes indent outers column next read) (hnext : StartsLine next) (hcolumn : column ≤ indent)
    (hplain : canBePlain text = true) (hne : text ≠ []) :
    LexesBehind indent outers (' ' :: (text ++ '\n' :: (spaces column ++ next))) (.scalar .plain text :: read) := by
  intro mark tokens hmark
  have hsettle : (behind indent outers tokens ⟨' ' :: (text ++ '\n' :: (spaces column ++ next)), mark⟩).settle? =
      some (behind indent outers tokens ⟨text ++ '\n' :: (spaces column ++ next), mark.forward 1⟩) :=
    settle?_spaces 1 (startsLine_of_canBePlain hplain hne _) rfl rfl rfl
  obtain ⟨mark', -, hcolumn', hread⟩ := readPlain_line hplain hnext hcolumn (mark.forward 1)
    (by rw [Mark.forward_column]; omega) (by simp)
  have hgives := h mark' (tokens ++ [.scalar .plain text]) hcolumn'
  rw [List.append_assoc, List.singleton_append] at hgives
  cases text with
  | nil => exact absurd rfl hne
  | cons c text =>
    refine hgives.of_lexFrom c (text ++ '\n' :: (spaces column ++ next)) hsettle rfl ?_ (by simp [atLine, behind]; omega)
    rw [closeBlocks_of_le (by simp [behind]; omega), lexFrom?_plain hplain _ rfl (by simp [behind])]
    exact lexPlain?_eq (noteKey?_behind indent outers tokens
      ⟨c :: text ++ '\n' :: (spaces column ++ next), mark.forward 1⟩) rfl hread

/-- An empty list between brackets on the line of its key. -/
theorem Lexes.emptyList (h : Lexes indent outers column next read) (hnext : StartsLine next) :
    LexesBehind indent outers (' ' :: '[' :: ']' :: '\n' :: (spaces column ++ next))
      (.flowSequenceStart :: .flowSequenceEnd :: read) := by
  intro mark tokens hmark
  obtain ⟨line, hline⟩ : ∃ line, line = '\n' :: (spaces column ++ next) := ⟨_, rfl⟩
  rw [← hline]
  -- Between the brackets a key could begin, and one could have begun at the first of them.
  let opened : Lexer :=
    { behind indent outers (tokens ++ [.flowSequenceStart]) ⟨']' :: line, mark.forward 2⟩ with
      keyAllowed := true
      outerKeyPlaces := [none] }
  have hopening : (behind indent outers tokens ⟨'[' :: ']' :: line, mark.forward 1⟩).lexFrom? '[' (']' :: line) =
      some opened := by
    simp [lexFrom?, startsDocumentMark]
    rfl
  have hclosing : opened.lexFrom? ']' line =
      some (behind indent outers (tokens ++ [.flowSequenceStart, .flowSequenceEnd]) ⟨line, mark.forward 3⟩) := by
    have hsplit : tokens ++ [.flowSequenceStart, .flowSequenceEnd] = tokens ++ [.flowSequenceStart] ++ [.flowSequenceEnd] := by
      simp
    have hlex : opened.lexFrom? ']' line = opened.lexClosing? .flowSequenceEnd := by simp [lexFrom?, startsDocumentMark]
    rw [hlex, hsplit]
    rfl
  have hend := h.lineEnd hnext (mark.forward 3) (tokens ++ [.flowSequenceStart, .flowSequenceEnd])
    (by rw [Mark.forward_column]; omega)
  rw [List.append_assoc, ← hline] at hend
  have hopened : opened.Gives (tokens ++ .flowSequenceStart :: .flowSequenceEnd :: read) := by
    have hsettle : opened.settle? = some opened :=
      settle?_here opened (startsLine_cons (by decide) (by decide) (by decide) (by decide) line) rfl rfl
    refine hend.of_lexFrom ']' line hsettle rfl ?_ (by simp [opened, behind])
    rw [closeBlocks_of_le (by simp [opened, behind]; omega)]
    exact hclosing
  refine hopened.of_lexFrom '[' (']' :: line) (settle?_spaces 1
    (startsLine_cons (by decide) (by decide) (by decide) (by decide) _) rfl rfl rfl) rfl ?_ (by simp [opened, behind])
  rw [closeBlocks_of_le (by simp [behind]; omega)]
  exact hopening

@[simp]
theorem openBlock_cursor (lexer : Lexer) (column place : ℕ) (token : Token) :
    (lexer.openBlock column place token).cursor = lexer.cursor := by
  rw [openBlock]
  split <;> rfl

private theorem openBlock_keyPlace (lexer : Lexer) (keyPlace : Option KeyPlace) (column place : ℕ) (token : Token) :
    openBlock { lexer with keyPlace } column place token = { lexer.openBlock column place token with keyPlace } := by
  by_cases h : (lexer.inFlow || decide ((column : Int) ≤ lexer.indent)) = true
  · rw [openBlock, openBlock, if_pos h, if_pos (by exact h)]
  · rw [openBlock, openBlock, if_neg h, if_neg (by exact h)]
    rfl

-- The colon behind a key: the key is put in where it began, in front of its text.
private theorem lexFrom?_colon (hafter : startsBlank after = true) (key : List Char) (start mark' : Mark) (required : Bool) :
    lexFrom? { behind indent outers (tokens ++ [.scalar .plain key]) ⟨':' :: after, mark'⟩ with
        keyPlace := some ⟨tokens.length, start, required⟩ } ':' after =
      some { ((behind indent outers (tokens ++ [.key, .scalar .plain key]) ⟨':' :: after, mark'⟩).openBlock start.column
        tokens.length .blockMappingStart).pushOver 1 .value with keyPlace := none, keyAllowed := false } := by
  let noted : Lexer := { behind indent outers (tokens ++ [.scalar .plain key]) ⟨':' :: after, mark'⟩ with
    keyPlace := some ⟨tokens.length, start, required⟩ }
  have hlex : noted.lexFrom? ':' after = noted.lexValue? := by simp [lexFrom?, hafter, startsDocumentMark]
  have hinsert : noted.insertAt tokens.length .key =
      { behind indent outers (tokens ++ [.key, .scalar .plain key]) ⟨':' :: after, mark'⟩ with
        keyPlace := some ⟨tokens.length, start, required⟩ } := by
    simp [noted, behind, insertAt]
  rw [hlex]
  change some { ((noted.insertAt tokens.length .key).openBlock start.column tokens.length .blockMappingStart).pushOver 1
    .value with keyPlace := none, keyAllowed := false } = _
  rw [hinsert, openBlock_keyPlace]
  rfl

-- A key and the colon behind it; what becomes of the block is left open.
private theorem Gives.of_key (hindent : indent ≤ mark.column) {key : List Char} (hkey : IsKey key)
    (hafter : startsBlank after = true) {given : List Token}
    (h : ∀ mark' : Mark, mark.column < mark'.column →
      Gives { ((behind indent outers (tokens ++ [.key, .scalar .plain key]) ⟨':' :: after, mark'⟩).openBlock mark.column
        tokens.length .blockMappingStart).pushOver 1 .value with keyPlace := none, keyAllowed := false } given) :
    (atLine indent outers tokens ⟨key ++ ':' :: after, mark⟩).Gives given := by
  obtain ⟨hplain, hne, hfirst, hsize⟩ := hkey
  obtain ⟨mark', hmark'⟩ : ∃ mark', mark' = key.foldl Mark.over mark := ⟨_, rfl⟩
  obtain ⟨hline, hcolumn, hindex⟩ := Mark.foldl_over key mark
  rw [← hmark'] at hline hcolumn hindex
  have hlength : 0 < key.length := List.length_pos_iff.2 hne
  let place : KeyPlace := ⟨tokens.length, mark, indent = mark.column⟩
  let noted : Lexer :=
    { behind indent outers (tokens ++ [.scalar .plain key]) ⟨':' :: after, mark'⟩ with keyPlace := some place }
  have hfresh : freshKey? mark' (some place) = some (some place) := by
    simp [freshKey?, isStale, place, hline, hindex, hsize]
  have hread : readPlain false (indent + 1) {} mark (key ++ ':' :: after) =
      some { text := key, cursor := ⟨':' :: after, mark'⟩ } := by
    rw [readPlain_written hplain _ (by omega) fun _ => hfirst, ← hmark', readPlain_colon hafter, Option.map_some,
      ScalarRead.prepend, List.append_nil]
  have hsettle : noted.settle? = some noted :=
    settle?_here noted (startsLine_cons (by decide) (by decide) (by decide) (by decide) after) hfresh rfl
  have hnoted : noted.Gives given := by
    refine (h mark' (by omega)).of_lexFrom ':' after hsettle rfl ?_ ?_
    · rw [closeBlocks_of_le (by simp [noted, behind]; omega)]
      exact lexFrom?_colon hafter key mark mark' _
    · simp [pushOver, Cursor.drop, noted, behind]
  cases key with
  | nil => exact absurd rfl hne
  | cons c text =>
    refine hnoted.of_lexFrom c (text ++ ':' :: after) (settle?_atLine (startsLine_of_canBePlain hplain hne _) tokens mark)
      rfl ?_ (by simp only [noted, behind, atLine, List.length_append, List.length_cons]; omega)
    rw [closeBlocks_of_le (by simp [atLine]; omega), lexFrom?_plain hplain _ rfl fun _ => hfirst c rfl]
    exact lexPlain?_eq (noteKey?_atLine indent outers tokens ⟨c :: text ++ ':' :: after, mark⟩) rfl hread

/-- A key in the column of the block. -/
theorem LexesBehind.key (column : ℕ) (h : LexesBehind column outers after read) {key : List Char} (hkey : IsKey key)
    (hafter : startsBlank after = true) :
    Lexes column outers column (key ++ ':' :: after) (.key :: .scalar .plain key :: .value :: read) := by
  intro mark tokens hmark
  refine Gives.of_key (by omega) hkey hafter fun mark' hmark' => ?_
  have hopen : openBlock (behind column outers (tokens ++ [.key, .scalar .plain key]) ⟨':' :: after, mark'⟩) mark.column
      tokens.length .blockMappingStart = behind column outers (tokens ++ [.key, .scalar .plain key]) ⟨':' :: after, mark'⟩ := by
    rw [openBlock, if_pos (by simp [behind, hmark])]
  have hgives := h (mark'.over ':') (tokens ++ [.key, .scalar .plain key] ++ [.value]) (by rw [Mark.over_column]; omega)
  have hsplit : tokens ++ .key :: .scalar .plain key :: .value :: read =
      tokens ++ [.key, .scalar .plain key] ++ [.value] ++ read := by simp
  rw [hopen, hsplit]
  exact hgives

/-- A key further in than the block, which begins a block of its own. -/
theorem LexesBehind.firstKey (column : ℕ) (h : LexesBehind column (indent :: outers) after read) (hindent : indent < column)
    {key : List Char} (hkey : IsKey key) (hafter : startsBlank after = true) :
    Lexes indent outers column (key ++ ':' :: after)
      (.blockMappingStart :: .key :: .scalar .plain key :: .value :: read) := by
  intro mark tokens hmark
  refine Gives.of_key (by omega) hkey hafter fun mark' hmark' => ?_
  have hopen : openBlock (behind indent outers (tokens ++ [.key, .scalar .plain key]) ⟨':' :: after, mark'⟩) mark.column
      tokens.length .blockMappingStart = behind column (indent :: outers)
        (tokens ++ [.blockMappingStart, .key, .scalar .plain key]) ⟨':' :: after, mark'⟩ := by
    have houter : ¬ (mark.column : ℤ) ≤ indent := by omega
    rw [openBlock, if_neg, hmark]
    · simp [behind, insertAt]
    · rw [Bool.or_eq_true]
      rintro (hflow | hle)
      · cases hflow
      · exact houter (of_decide_eq_true hle)
  have hgives := h (mark'.over ':') (tokens ++ [.blockMappingStart, .key, .scalar .plain key] ++ [.value])
    (by rw [Mark.over_column]; omega)
  have hsplit : tokens ++ .blockMappingStart :: .key :: .scalar .plain key :: .value :: read =
      tokens ++ [.blockMappingStart, .key, .scalar .plain key] ++ [.value] ++ read := by simp
  rw [hopen, hsplit]
  exact hgives

private theorem closeBlocks_atLine {outer : ℤ} (hcolumn : column < indent) (tokens : List Token) (cursor : Cursor) :
    (atLine indent (outer :: outers) tokens cursor).closeBlocks column =
      (atLine outer outers (tokens ++ [.blockEnd]) cursor).closeBlocks column := by
  simp [closeBlocks, atLine, inFlow, closeBlocksFrom, hcolumn, List.replicate_succ]

/-- Before a line that is not as far in, a block ends. -/
theorem Lexes.close {outer : ℤ} (h : Lexes outer outers column next read) (hcolumn : column < indent)
    (hnext : StartsLine next) : Lexes indent (outer :: outers) column next (.blockEnd :: read) := by
  intro mark tokens hmark count hcount
  have hrun := h mark (tokens ++ [.blockEnd]) hmark count hcount
  cases count with
  | zero => cases hcount
  | succ count =>
    rw [run_succ, settle?_atLine hnext, Option.bind_some] at hrun ⊢
    rw [← hmark] at hcolumn
    have hclose : (atLine indent (outer :: outers) tokens ⟨next, mark⟩).closeBlocks mark.column =
        (atLine outer outers (tokens ++ [.blockEnd]) ⟨next, mark⟩).closeBlocks mark.column :=
      closeBlocks_atLine hcolumn tokens ⟨next, mark⟩
    rw [List.append_assoc, List.singleton_append] at hrun
    simp only [atLine] at hclose hrun ⊢
    rw [hclose]
    exact hrun

/-- The end of the text. -/
theorem lexes_nil : Lexes 0 [-1] 0 [] [.blockEnd, .streamEnd] := by
  intro mark tokens hmark count hcount
  cases count with
  | zero => cases hcount
  | succ count =>
    have hempty : StartsLine [] := by simp [StartsLine]
    rw [run_succ, settle?_atLine hempty, Option.bind_some]
    simp [atLine, hmark, closeBlocks, closeBlocksFrom, inFlow, lexEnd?, leaveBlocks?, dropKey?, push]

end Plain

section Items
variable {indent : ℤ} {outers : List ℤ} {tokens read : List Token} {column : ℕ} {next text rest : List Char} {mark : Mark}

-- A line has begun since the last place at which a key was possible.
private theorem Lexes.of_stale (h : Lexes indent outers column next read) (hnext : StartsLine next)
    (hmark : mark.column = column) {place : KeyPlace} (hline : place.mark.line < mark.line) (hrequired : place.required = false) :
    Gives { atLine indent outers tokens ⟨next, mark⟩ with keyPlace := some place } (tokens ++ read) := by
  refine (h mark tokens hmark).of_settle ?_ (Nat.le_refl _)
  rw [settle?_atLine hnext]
  exact settle?_here _ hnext (freshKey?_stale hline hrequired) rfl

private theorem gives_plain (h : Lexes indent outers column next read) (hnext : StartsLine next) (hcolumn : column ≤ indent)
    (hmark : indent < mark.column) (hpos : 0 < mark.column) (hplain : canBePlain text = true) (hne : text ≠ []) :
    (atLine indent outers tokens ⟨text ++ '\n' :: (spaces column ++ next), mark⟩).Gives
      (tokens ++ .scalar .plain text :: read) := by
  obtain ⟨mark', hline, hcolumn', hread⟩ := readPlain_line hplain hnext hcolumn mark hmark (by omega)
  have hrequired : decide (indent = mark.column) = false := decide_eq_false (by omega)
  have hgives : Gives { atLine indent outers (tokens ++ [.scalar .plain text]) ⟨next, mark'⟩ with
      keyPlace := some ⟨tokens.length, mark, indent = mark.column⟩ } (tokens ++ [.scalar .plain text] ++ read) :=
    h.of_stale hnext hcolumn' (by simp [hline]) hrequired
  rw [List.append_assoc, List.singleton_append] at hgives
  cases text with
  | nil => exact absurd rfl hne
  | cons c text =>
    refine hgives.of_lexFrom c (text ++ '\n' :: (spaces column ++ next))
      (settle?_atLine (startsLine_of_canBePlain hplain hne _) tokens mark) rfl ?_ (by simp [atLine]; omega)
    rw [closeBlocks_of_le (by simp [atLine]; omega), lexFrom?_plain hplain _ rfl (by simp [atLine]; omega)]
    exact lexPlain?_eq (noteKey?_atLine indent outers tokens ⟨c :: text ++ '\n' :: (spaces column ++ next), mark⟩) rfl hread

private theorem lexNode?_eq {lexer noted : Lexer} (hnote : lexer.noteKey? = some noted)
    {reader : Cursor → Option (Token × Cursor)} {token : Token} {cursor : Cursor}
    (hread : reader noted.cursor = some (token, cursor)) :
    lexer.lexNode? reader = some { noted.push token with cursor, keyAllowed := false } := by
  simp [lexNode?, hnote, hread]

/-- What is read between quotation marks, in either style. -/
private def readQuoted (style : ScalarStyle) (mark : Mark) (rest : List Char) : Option ScalarRead :=
  if style = .singleQuoted then readSingleQuoted {} mark rest else readDoubleQuoted {} mark rest

private theorem lexQuoted?_eq {quote : Char} {style : ScalarStyle} {cursor : Cursor} (tokens : List Token)
    (hread : readQuoted style (mark.over quote) rest = some { text, cursor }) :
    (atLine indent outers tokens ⟨quote :: rest, mark⟩).lexQuoted? style =
      some { behind indent outers (tokens ++ [.scalar style text]) cursor with
        keyPlace := some ⟨tokens.length, mark, indent = mark.column⟩ } := by
  have hscalar : (do
      let start := (⟨quote :: rest, mark⟩ : Cursor).drop 1
      let read ←
        if style = .singleQuoted then readSingleQuoted {} start.mark start.rest
        else readDoubleQuoted {} start.mark start.rest
      return (Token.scalar style read.text, read.cursor)) = some (Token.scalar style text, cursor) := by
    simp only [Cursor.drop, List.drop_succ_cons, List.drop_zero, List.take_succ_cons, List.take_zero, List.foldl_cons,
      List.foldl_nil]
    rw [readQuoted] at hread
    split at hread
    all_goals
      rename_i hstyle
      simp only [hstyle, if_true, if_false, hread]
      rfl
  rw [lexQuoted?]
  exact lexNode?_eq (noteKey?_atLine indent outers tokens _) hscalar

private theorem gives_quoted (h : Lexes indent outers column next read) (hnext : StartsLine next) {quote : Char}
    {style : ScalarStyle} (hquote : quote = '\'' ∧ style = .singleQuoted ∨ quote = '"' ∧ style = .doubleQuoted)
    (hmark : indent < mark.column)
    (hread : ReadsTo (readQuoted style (mark.over quote) rest) text ('\n' :: (spaces column ++ next)) (mark.line ≤ ·.line))
    (hlength : (spaces column ++ next).length < rest.length) :
    (atLine indent outers tokens ⟨quote :: rest, mark⟩).Gives (tokens ++ .scalar style text :: read) := by
  obtain ⟨mark', hline, hread⟩ := hread
  have hrequired : decide (indent = mark.column) = false := decide_eq_false (by omega)
  have hgives : Gives { behind indent outers (tokens ++ [.scalar style text]) ⟨'\n' :: (spaces column ++ next), mark'⟩ with
      keyPlace := some ⟨tokens.length, mark, indent = mark.column⟩ } (tokens ++ [.scalar style text] ++ read) := by
    refine h.of_newline hnext rfl ?_
    rintro _ ⟨⟩
    exact ⟨hline, hrequired⟩
  have hstart : StartsLine (quote :: rest) := by
    rcases hquote with ⟨rfl, -⟩ | ⟨rfl, -⟩ <;>
      exact startsLine_cons (by decide) (by decide) (by decide) (by decide) rest
  have hlex : (atLine indent outers tokens ⟨quote :: rest, mark⟩).lexFrom? quote rest =
      (atLine indent outers tokens ⟨quote :: rest, mark⟩).lexQuoted? style := by
    rcases hquote with ⟨rfl, rfl⟩ | ⟨rfl, rfl⟩ <;> simp [lexFrom?, startsDocumentMark]
  rw [List.append_assoc, List.singleton_append] at hgives
  refine hgives.of_lexFrom quote rest (settle?_atLine hstart tokens mark) rfl ?_ ?_
  · rw [closeBlocks_of_le (by simp [atLine]; omega), hlex]
    exact lexQuoted?_eq tokens hread
  · simpa [atLine, behind] using hlength

/-- A literal block; its lines stand further in than the column of the block around it. -/
private theorem gives_literal {outer : ℕ} (h : Lexes outer outers column next read) (hnext : StartsLine next)
    (hblock : canBeBlock text = true) (hcolumn : column < outer + 2) (hmark : outer < mark.column) (tokens : List Token) :
    (atLine outer outers tokens ⟨literalHead text ++ '\n' :: (literalFrom (outer + 2) true text ++
      (if text.getLast?.any isBreak then [] else ['\n']) ++ (spaces column ++ next)), mark⟩).Gives
        (tokens ++ .scalar .literal text :: read) := by
  obtain ⟨rest, hrest⟩ : ∃ rest, rest = (literalHead text).tail ++ '\n' :: (literalFrom (outer + 2) true text ++
      (if text.getLast?.any isBreak then [] else ['\n']) ++ (spaces column ++ next)) := ⟨_, rfl⟩
  have hhead : literalHead text = '|' :: (literalHead text).tail := rfl
  obtain ⟨mark', hcolumn', hread⟩ := readBlockScalar_written hblock hcolumn hnext (mark.over '|')
  rw [hhead, List.cons_append, ← hrest]
  rw [← hrest] at hread
  have hlex : (atLine outer outers tokens ⟨'|' :: rest, mark⟩).lexFrom? '|' rest =
      (atLine outer outers tokens ⟨'|' :: rest, mark⟩).lexBlockScalar? .literal := by
    simp [lexFrom?, startsDocumentMark, atLine, inFlow]
  have hscalar : (atLine outer outers tokens ⟨'|' :: rest, mark⟩).lexBlockScalar? .literal =
      some (atLine outer outers (tokens ++ [.scalar .literal text]) ⟨next, mark'⟩) := by
    change (readBlockScalar false outer ⟨rest, mark.over '|'⟩).bind _ = _
    rw [hread]
    rfl
  have hgives := h mark' (tokens ++ [.scalar .literal text]) hcolumn'
  rw [List.append_assoc, List.singleton_append] at hgives
  refine hgives.of_lexFrom '|' rest (settle?_atLine
    (startsLine_cons (by decide) (by decide) (by decide) (by decide) rest) tokens mark) rfl ?_ ?_
  · rw [closeBlocks_of_le (by simp [atLine]; omega), hlex, hscalar]
  · simp [atLine, hrest]
    omega

-- A text in its style, which begins with a character that is no white space.
private theorem gives_writeText {outer : ℕ} (h : Lexes outer outers column next read) (hnext : StartsLine next)
    (hcolumn : column ≤ outer) (hmark : outer < mark.column) (text : List Char) (tokens : List Token) :
    (atLine outer outers tokens ⟨writeText (outer + 2) text ++ (spaces column ++ next), mark⟩).Gives
        (tokens ++ .scalar (styleOf text) text :: read) ∧
      StartsLine (writeText (outer + 2) text ++ (spaces column ++ next)) := by
  rcases styleOf_cases text with ⟨hstyle, hplain, hne⟩ | ⟨hstyle, hsingle⟩ | ⟨hstyle, hblock⟩ | hstyle <;>
    rw [writeText, hstyle]
  · simp only [List.append_assoc, List.singleton_append]
    exact ⟨gives_plain h hnext (by omega) (by omega) (by omega) hplain hne, startsLine_of_canBePlain hplain hne _⟩
  · simp only [List.append_assoc, List.cons_append, List.nil_append]
    refine ⟨gives_quoted h hnext (.inl ⟨rfl, rfl⟩) (by omega) ?_ (by simp; omega), ?_⟩
    · rw [readQuoted, if_pos rfl]
      exact readSingleQuoted_written (by omega) hsingle (by simp) (Nat.succ_pos _)
    · exact startsLine_cons (by decide) (by decide) (by decide) (by decide) _
  · have hhead : literalHead text = '|' :: (literalHead text).tail := rfl
    simp only [List.append_assoc, List.cons_append]
    refine ⟨?_, ?_⟩
    · have hgives := gives_literal h hnext hblock (by omega) hmark tokens
      simpa only [List.append_assoc] using hgives
    · rw [hhead]
      exact startsLine_cons (by decide) (by decide) (by decide) (by decide) _
  · simp only [List.append_assoc, List.cons_append, List.nil_append]
    refine ⟨gives_quoted h hnext (.inr ⟨rfl, rfl⟩) (by omega) ?_ (by simp; omega), ?_⟩
    · rw [readQuoted, if_neg (by decide)]
      exact readDoubleQuoted_written text _ (Nat.succ_pos _)
    · exact startsLine_cons (by decide) (by decide) (by decide) (by decide) _

/-- An item of a list, in the column of the block. -/
theorem Lexes.item (outer : ℕ) (h : Lexes outer outers column next read) (hnext : StartsLine next) (hcolumn : column ≤ outer)
    (text : List Char) : Lexes outer outers outer ('-' :: ' ' :: (writeText (outer + 2) text ++ (spaces column ++ next)))
      (.blockEntry :: .scalar (styleOf text) text :: read) := by
  intro mark tokens hmark
  obtain ⟨line, hline⟩ : ∃ line, line = writeText (outer + 2) text ++ (spaces column ++ next) := ⟨_, rfl⟩
  have hmark' : outer < ((mark.forward 1).forward 1).column := by
    rw [Mark.forward_forward, Mark.forward_column]
    omega
  obtain ⟨hgives, hstart⟩ := gives_writeText h hnext hcolumn hmark' text (tokens ++ [.blockEntry])
  rw [← hline] at hgives hstart ⊢
  have hspace : (atLine outer outers (tokens ++ [.blockEntry]) ⟨' ' :: line, mark.forward 1⟩).Gives
      (tokens ++ [.blockEntry] ++ .scalar (styleOf text) text :: read) := by
    refine hgives.of_settle ?_ (Nat.le_succ _)
    rw [settle?_atLine hstart]
    exact settle?_spaces 1 hstart rfl rfl rfl
  have hdash : (atLine outer outers tokens ⟨'-' :: ' ' :: line, mark⟩).lexFrom? '-' (' ' :: line) =
      some (atLine outer outers (tokens ++ [.blockEntry]) ⟨' ' :: line, mark.forward 1⟩) := by
    have hlex : (atLine outer outers tokens ⟨'-' :: ' ' :: line, mark⟩).lexFrom? '-' (' ' :: line) =
        (atLine outer outers tokens ⟨'-' :: ' ' :: line, mark⟩).lexDash? := by
      simp [lexFrom?, startsDocumentMark, startsBlank, isBlank]
    have hopen : (atLine outer outers tokens ⟨'-' :: ' ' :: line, mark⟩).openBlock mark.column tokens.length
        .blockSequenceStart = atLine outer outers tokens ⟨'-' :: ' ' :: line, mark⟩ := by
      rw [openBlock, if_pos (by simp [atLine, hmark])]
    rw [hlex]
    change ((atLine outer outers tokens ⟨'-' :: ' ' :: line, mark⟩).openBlock mark.column tokens.length
      .blockSequenceStart).dropKey?.bind _ = _
    rw [hopen]
    rfl
  rw [List.append_assoc, List.singleton_append] at hspace
  refine hspace.of_lexFrom '-' (' ' :: line) (settle?_atLine
    (startsLine_cons (by decide) (by decide) (by decide) (by decide) _) tokens mark) rfl ?_ (by simp [atLine])
  rw [closeBlocks_of_le (by simp [atLine]; omega)]
  exact hdash

end Items

/-- The tokens of a text are those of its first line and all that follow. -/
theorem ofText?_of_lexes {text : String} {tokens : List Token} (hallowed : text.toList.all isAllowed = true)
    (h : Lexes (-1) [] 0 text.toList tokens) : Token.ofText? text = some tokens := by
  have hrun := h {} [] rfl (text.toList.length + 1) (Nat.lt_succ_self _)
  rw [Token.ofText?, if_pos hallowed]
  exact hrun

end CallOrder.Yaml.Lexer
