import CallOrder.Proofs.Yaml.Allowed
import CallOrder.Proofs.Yaml.Nodes
import CallOrder.Proofs.Yaml.Numbers
import CallOrder.Proofs.Yaml.Tokens
import CallOrder.Settings.Yaml

/-! The text of written settings, line by line: its tokens and the node for which they stand, with stop tokens of any text. -/
namespace CallOrder.Settings

open Yaml

/-- Whether a key is written as it is. -/
def isKey (key : List Char) : Bool :=
  canBePlain key && !key.isEmpty && !(key.head?.any fun c => c = '-' || c = '.') && (key.map Char.utf8Size).sum ≤ 1024

theorem isKey_of {key : List Char} (h : isKey key = true) : Lexer.IsKey key := by
  simp only [isKey, Bool.and_eq_true, Bool.not_eq_true', decide_eq_true_eq] at h
  obtain ⟨⟨⟨hplain, hne⟩, hfirst⟩, hsize⟩ := h
  refine ⟨hplain, by simpa using hne, ?_, hsize⟩
  intro c hc
  rw [hc] at hfirst
  simpa using hfirst

/-- The stop tokens as items, each in its style. -/
def stopItems (tokens : List String) : List (ScalarStyle × List Char) :=
  tokens.map fun token => (styleOf token.toList, token.toList)

def stopValue (tokens : List String) : List Token :=
  if tokens = [] then [.flowSequenceStart, .flowSequenceEnd] else Node.itemTokens (stopItems tokens)

/-- A key with a plain value. -/
def plainEntry (key : String) (value : List Char) : Node.Entry where
  key := key.toList
  tokens := [.scalar .plain value]
  node := .scalar none none .plain (String.ofList value)

/-- A key with the stop tokens. -/
def stopEntry (key : String) (tokens : List String) : Node.Entry where
  key := key.toList
  tokens := stopValue tokens
  node := .sequence none (Node.itemNodes (stopItems tokens))

/-- A key with a mapping as its value. -/
def sectionEntry (key : String) (entries : List Node.Entry) : Node.Entry where
  key := key.toList
  tokens := .blockMappingStart :: (Node.entryTokens entries ++ [.blockEnd])
  node := Node.ofFields (entries.map Node.Entry.field)

def flagText (flag : Bool) : List Char := if flag then "true".toList else "false".toList

def threadsText : Option UInt64 → List Char
  | none => "null".toList
  | some n => Decimal.digitsOf n.toNat

/-- The entries of written settings. -/
def entries (settings : Settings) : List Node.Entry :=
  [sectionEntry "morphemes" [
      plainEntry "min_token_len" (Decimal.digitsOf settings.policy.minTokenLength.toNat),
      plainEntry "keep_numeric_tokens" (flagText settings.policy.keepNumericTokens),
      stopEntry "stop_tokens" settings.policy.stopTokens],
    sectionEntry "search" [plainEntry "threshold" (yamlNotation.spellParts (.ofFloat settings.threshold))],
    sectionEntry "scan" [plainEntry "max_threads" (threadsText settings.maxThreads)]]

section Lines
variable {next : List Char} {read : List Token} {others : List Node.Entry}

/-- One plain value in a section, from behind the name of the section. -/
theorem lexes_inside (key : String) {value : List Char} (h : Lexer.Lexes 0 [-1] 0 next read) (hnext : StartsLine next)
    (hkey : Lexer.IsKey key.toList) (hvalue : canBePlain value = true) (hne : value ≠ []) :
    Lexer.LexesBehind 0 [-1]
      ('\n' :: (spaces 2 ++ (key.toList ++ ':' :: ' ' :: (value ++ '\n' :: (spaces 0 ++ next)))))
      (.blockMappingStart :: (Node.entryTokens [plainEntry key value] ++ .blockEnd :: read)) := by
  have hclosed : Lexer.Lexes 2 [0, -1] 0 next (.blockEnd :: read) := h.close (by decide) hnext
  have hinside := (hclosed.plain hnext (by decide) hvalue hne).firstKey 2 (by decide) hkey rfl
  exact hinside.lineEnd (startsLine_of_canBePlain hkey.plain hkey.ne_nil _)

/-- A section with one plain value, before other entries. -/
private theorem lexes_section (name key : String) {value : List Char}
    (h : Lexer.Lexes 0 [-1] 0 next (Node.entryTokens others ++ read))
    (hnext : StartsLine next) (hname : Lexer.IsKey name.toList) (hkey : Lexer.IsKey key.toList)
    (hvalue : canBePlain value = true) (hne : value ≠ []) :
    Lexer.Lexes 0 [-1] 0
      (name.toList ++ ':' :: '\n' :: (spaces 2 ++ (key.toList ++ ':' :: ' ' :: (value ++ '\n' :: (spaces 0 ++ next)))))
      (Node.entryTokens (sectionEntry name [plainEntry key value] :: others) ++ read) :=
  (lexes_inside key h hnext hkey hvalue hne).key 0 hname rfl

/-- Stop tokens as the items of a list, each on lines of its own. -/
private theorem lexes_stopItems (h : Lexer.Lexes 2 [0, -1] 0 next read) (hnext : StartsLine next) (tokens : List String) :
    ∃ column rest, (tokens.flatMap fun token => "  - ".toList ++ writeText 4 token.toList) ++ next = spaces column ++ rest ∧
      StartsLine rest ∧ column ≤ 2 ∧
      Lexer.Lexes 2 [0, -1] column rest (Node.itemTokens (stopItems tokens) ++ read) := by
  induction tokens with
  | nil => exact ⟨0, next, rfl, hnext, by decide, h⟩
  | cons token tokens ih =>
    obtain ⟨column, rest, htext, hrest, hcolumn, hlexes⟩ := ih
    refine ⟨2, '-' :: ' ' :: (writeText 4 token.toList ++ (spaces column ++ rest)), ?_,
      startsLine_cons (by decide) (by decide) (by decide) (by decide) _, Nat.le_refl 2,
      hlexes.item 2 hrest (by omega) token.toList⟩
    rw [List.flatMap_cons, List.append_assoc, htext]
    simp
    rfl

private theorem lexes_stopTokens (h : Lexer.Lexes 2 [0, -1] 0 next read) (hnext : StartsLine next) (tokens : List String) :
    ∃ rest, yamlStopTokens tokens ++ next = spaces 2 ++ ("stop_tokens".toList ++ ':' :: rest) ∧ startsBlank rest = true ∧
      Lexer.LexesBehind 2 [0, -1] rest (stopValue tokens ++ read) := by
  by_cases hempty : tokens = []
  · refine ⟨' ' :: '[' :: ']' :: '\n' :: (spaces 0 ++ next), by rw [hempty]; rfl, rfl, ?_⟩
    rw [stopValue, if_pos hempty]
    exact h.emptyList hnext
  · obtain ⟨column, rest, htext, hrest, -, hlexes⟩ := lexes_stopItems h hnext tokens
    refine ⟨'\n' :: (spaces column ++ rest), ?_, rfl, ?_⟩
    · rw [yamlStopTokens, if_neg (by simpa using hempty), List.append_assoc, htext]
      rfl
    · rw [stopValue, if_neg hempty]
      exact hlexes.lineEnd hrest

/-- The first section, whose last entry is the stop tokens. -/
private theorem lexes_morphemes (name lengthKey flagKey stopKey : String) {length flag stops : List Char}
    {tokens : List String} (hname : Lexer.IsKey name.toList) (hlengthKey : Lexer.IsKey lengthKey.toList)
    (hflagKey : Lexer.IsKey flagKey.toList) (hstopKey : Lexer.IsKey stopKey.toList)
    (hlength : canBePlain length = true ∧ length ≠ []) (hflag : canBePlain flag = true ∧ flag ≠ [])
    (hstops : startsBlank stops = true)
    (h : Lexer.LexesBehind 2 [0, -1] stops (stopValue tokens ++ .blockEnd :: (Node.entryTokens others ++ read))) :
    Lexer.Lexes (-1) [] 0
      (name.toList ++ ':' :: '\n' :: (spaces 2 ++ (lengthKey.toList ++ ':' :: ' ' :: (length ++ '\n' :: (spaces 2 ++
        (flagKey.toList ++ ':' :: ' ' :: (flag ++ '\n' :: (spaces 2 ++ (stopKey.toList ++ ':' :: stops)))))))))
      (.blockMappingStart :: (Node.entryTokens (sectionEntry name
        [plainEntry lengthKey length, plainEntry flagKey flag, stopEntry stopKey tokens] :: others) ++ read)) := by
  have hstart : ∀ {key : List Char}, Lexer.IsKey key → ∀ rest, StartsLine (key ++ rest) := fun hkey =>
    startsLine_of_canBePlain hkey.plain hkey.ne_nil
  have hstopLine := h.key 2 hstopKey hstops
  have hflagLine := (hstopLine.plain (hstart hstopKey _) (by decide) hflag.1 hflag.2).key 2 hflagKey rfl
  have hlengthLine := (hflagLine.plain (hstart hflagKey _) (by decide) hlength.1 hlength.2).firstKey 2 (by decide) hlengthKey rfl
  have hsection := (hlengthLine.lineEnd (hstart hlengthKey _)).firstKey 0 (by decide) hname rfl
  simpa [Node.entryTokens, sectionEntry, plainEntry, stopEntry] using hsection

end Lines

private theorem canBePlain_flagText (flag : Bool) : canBePlain (flagText flag) = true ∧ flagText flag ≠ [] := by
  cases flag <;> decide

private theorem canBePlain_digits (n : ℕ) :
    canBePlain (Decimal.digitsOf n) = true ∧ Decimal.digitsOf n ≠ [] :=
  ⟨canBePlain_digitsOf n, (Decimal.digitsOf_isDigits n).ne_nil⟩

private theorem canBePlain_threadsText (threads : Option UInt64) :
    canBePlain (threadsText threads) = true ∧ threadsText threads ≠ [] := by
  cases threads with
  | none => decide
  | some n => exact canBePlain_digits n.toNat

private theorem toYaml_toList (settings : Settings) : settings.toYaml.toList =
    "morphemes".toList ++ ':' :: '\n' :: (spaces 2 ++
      ("min_token_len".toList ++ ':' :: ' ' :: (Decimal.digitsOf settings.policy.minTokenLength.toNat ++ '\n' :: (spaces 2 ++
      ("keep_numeric_tokens".toList ++ ':' :: ' ' :: (flagText settings.policy.keepNumericTokens ++ '\n' ::
      (yamlStopTokens settings.policy.stopTokens ++
    ("search".toList ++ ':' :: '\n' :: (spaces 2 ++
      ("threshold".toList ++ ':' :: ' ' :: (yamlNotation.spellParts (.ofFloat settings.threshold) ++ '\n' :: (spaces 0 ++
    ("scan".toList ++ ':' :: '\n' :: (spaces 2 ++
      ("max_threads".toList ++ ':' :: ' ' :: (threadsText settings.maxThreads ++ '\n' :: (spaces 0 ++ []))))))))))))))))) := by
  have hlength : "morphemes:\n  min_token_len: ".toList =
      "morphemes".toList ++ ':' :: '\n' :: (spaces 2 ++ ("min_token_len".toList ++ [':', ' '])) := by decide
  have hflag : "\n  keep_numeric_tokens: ".toList = '\n' :: (spaces 2 ++ ("keep_numeric_tokens".toList ++ [':', ' '])) := by
    decide
  have hthreshold : "search:\n  threshold: ".toList =
      "search".toList ++ ':' :: '\n' :: (spaces 2 ++ ("threshold".toList ++ [':', ' '])) := by decide
  have hthreads : "\nscan:\n  max_threads: ".toList =
      '\n' :: (spaces 0 ++ ("scan".toList ++ ':' :: '\n' :: (spaces 2 ++ ("max_threads".toList ++ [':', ' '])))) := by decide
  unfold toYaml flagText
  cases settings.maxThreads <;>
    simp only [String.toList_ofList, hlength, hflag, hthreshold, hthreads, threadsText, spaces, List.replicate_zero,
      List.append_assoc, List.cons_append, List.nil_append]

/-- The tokens of written settings. -/
theorem lexes_toYaml (settings : Settings) (hthreshold : settings.threshold.isNaN = false) :
    Lexer.Lexes (-1) [] 0 settings.toYaml.toList
      (.blockMappingStart :: (Node.entryTokens settings.entries ++ [.blockEnd, .streamEnd])) := by
  have hexplicit : yamlNotation.IsExplicit := ⟨rfl, .inl rfl⟩
  obtain ⟨-, c, threshold, hreal, hplain⟩ := real_reads hexplicit rfl hthreshold
  have hthreads := canBePlain_threadsText settings.maxThreads
  have hstart : ∀ rest, StartsLine (("search".toList : List Char) ++ rest) :=
    startsLine_of_canBePlain (by decide) (by decide)
  have hnone : Lexer.Lexes 0 [-1] 0 [] (Node.entryTokens [] ++ [.blockEnd, .streamEnd]) := Lexer.lexes_nil
  have hscan := lexes_section "scan" "max_threads" hnone (by simp [StartsLine])
    (isKey_of (by decide)) (isKey_of (by decide)) hthreads.1 hthreads.2
  have hsearch := lexes_section "search" "threshold" hscan (startsLine_of_canBePlain (by decide) (by decide) _)
    (isKey_of (by decide)) (isKey_of (by decide)) hplain (List.cons_ne_nil c threshold)
  obtain ⟨stops, htext, hblank, hstops⟩ := lexes_stopTokens (hsearch.close (by decide) (hstart _)) (hstart _)
    settings.policy.stopTokens
  have hall := lexes_morphemes "morphemes" "min_token_len" "keep_numeric_tokens" "stop_tokens"
    (isKey_of (by decide)) (isKey_of (by decide)) (isKey_of (by decide)) (isKey_of (by decide))
    (canBePlain_digits settings.policy.minTokenLength.toNat) (canBePlain_flagText settings.policy.keepNumericTokens) hblank hstops
  rw [← hreal] at hall htext
  rw [toYaml_toList, htext]
  exact hall

private theorem parses_stopValue (tokens : List String) :
    Node.Parses (stopValue tokens) (.sequence none (Node.itemNodes (stopItems tokens))) := by
  by_cases hempty : tokens = []
  · rw [stopValue, if_pos hempty, hempty]
    exact Node.parses_emptyList
  · rw [stopValue, if_neg hempty]
    exact Node.parses_items (by simpa [stopItems] using hempty)

private theorem parses_entries (settings : Settings) : ∀ entry ∈ settings.entries, Node.Parses entry.tokens entry.node := by
  have hplain : ∀ key value, Node.Parses (plainEntry key value).tokens (plainEntry key value).node := fun _ value =>
    Node.parses_scalar .plain value
  have hstops : Node.Parses (stopEntry "stop_tokens" settings.policy.stopTokens).tokens
      (stopEntry "stop_tokens" settings.policy.stopTokens).node := parses_stopValue settings.policy.stopTokens
  have hsection : ∀ {key : String} {entries : List Node.Entry}, (∀ entry ∈ entries, Node.Parses entry.tokens entry.node) →
      Node.Parses (sectionEntry key entries).tokens (sectionEntry key entries).node := Node.parses_mapping
  rw [entries]
  refine List.forall_mem_cons.2 ⟨hsection ?_, List.forall_mem_cons.2 ⟨hsection ?_, List.forall_mem_singleton.2 (hsection ?_)⟩⟩
  · exact List.forall_mem_cons.2 ⟨hplain _ _, List.forall_mem_cons.2 ⟨hplain _ _, List.forall_mem_singleton.2 hstops⟩⟩
  · exact List.forall_mem_singleton.2 (hplain _ _)
  · exact List.forall_mem_singleton.2 (hplain _ _)

private theorem all_yamlStopTokens (tokens : List String) : (yamlStopTokens tokens).all isAllowed = true := by
  have hhead : "  stop_tokens:\n".toList.all isAllowed = true := by decide
  have hdash : "  - ".toList.all isAllowed = true := by decide
  rw [yamlStopTokens]
  split
  · decide
  · rw [List.all_append, hhead, List.all_flatMap]
    exact List.all_eq_true.2 fun token _ => by rw [List.all_append, hdash, all_writeText]; rfl

private theorem all_toYaml (settings : Settings) (hthreshold : settings.threshold.isNaN = false) :
    settings.toYaml.toList.all isAllowed = true := by
  have hexplicit : yamlNotation.IsExplicit := ⟨rfl, .inl rfl⟩
  obtain ⟨-, c, threshold, hreal, hplain⟩ := real_reads hexplicit rfl hthreshold
  have hlength := all_of_canBePlain (canBePlain_digitsOf settings.policy.minTokenLength.toNat)
  have hflag := all_of_canBePlain (canBePlain_flagText settings.policy.keepNumericTokens).1
  have hthreads := all_of_canBePlain (canBePlain_threadsText settings.maxThreads).1
  have hsign : isAllowed ':' = true ∧ isAllowed ' ' = true ∧ isAllowed '\n' = true := by decide
  rw [toYaml_toList, hreal]
  simp only [List.all_append, List.all_cons, List.all_nil, spaces, List.replicate, hlength, hflag, hthreads,
    all_yamlStopTokens, hsign, all_of_canBePlain hplain]
  decide

/-- The node of written settings. -/
theorem ofText?_toYaml (settings : Settings) (hthreshold : settings.threshold.isNaN = false) :
    Node.ofText? settings.toYaml = some (Node.ofFields (settings.entries.map Node.Entry.field)) := by
  have htokens : Token.ofText? settings.toYaml =
      some (.blockMappingStart :: (Node.entryTokens settings.entries ++ [.blockEnd, .streamEnd])) :=
    Lexer.ofText?_of_lexes (all_toYaml settings hthreshold) (lexes_toYaml settings hthreshold)
  exact Option.bind_eq_some_iff.2 ⟨_, htokens, Node.ofTokens?_mapping (parses_entries settings)⟩

end CallOrder.Settings
