import CallOrder.Proofs.Binary64.Decimal
import CallOrder.Proofs.Json.Complete

/-! The tokens of a JSON value. Both ways of writing a value spell these tokens, and reading the tokens shows the value
again. -/
namespace CallOrder.Json

namespace Token

theorem IsTokenText.afterSpace {tokens : List Token} {space text : List Char} (hspace : ∀ c ∈ space, isSpace c = true)
    (h : IsTokenText tokens text) : IsTokenText tokens (space ++ text) := by
  cases h with
  | done hspace' => exact .done fun c hc => (List.mem_append.1 hc).elim (hspace c) (hspace' c)
  | token hspace' htoken hends htokens =>
    rw [← List.append_assoc, ← List.append_assoc]
    exact .token (fun c hc => (List.mem_append.1 hc).elim (hspace c) (hspace' c)) htoken hends htokens

/-- Whether a text spells tokens wherever no number goes on behind it. -/
def Spelled (tokens : List Token) (text : List Char) : Prop :=
  ∀ more rest, IsTokenText more rest → EndsNumber rest → IsTokenText (tokens ++ more) (text ++ rest)

namespace Spelled
variable {tokens more : List Token} {text rest space : List Char}

theorem nil : Spelled [] [] := fun _ _ h _ => h

theorem isTokenText (h : Spelled tokens text) : IsTokenText tokens text := by
  have hrest : IsTokenText [] [] := .done (List.forall_mem_nil _)
  simpa using h [] [] hrest .nil

theorem isTokenText_line (h : Spelled tokens text) : IsTokenText tokens (text ++ ['\n']) := by
  have hrest : IsTokenText [] ['\n'] := .done (by simp [isSpace])
  simpa using h [] ['\n'] hrest (.cons _ rfl (by decide))

theorem afterSpace (hspace : ∀ c ∈ space, isSpace c = true) (h : Spelled tokens text) : Spelled tokens (space ++ text) := by
  intro more rest hrest hends
  rw [List.append_assoc]
  exact (h more rest hrest hends).afterSpace hspace

theorem cons {token : Token} (htoken : Spells token text) (hnumber : ∀ n, token ≠ .number n) (h : Spelled tokens rest) :
    Spelled (token :: tokens) (text ++ rest) := by
  intro more after hafter hends
  have hno : (∃ n, token = .number n) → EndsNumber (rest ++ after) := fun ⟨n, hn⟩ => absurd hn (hnumber n)
  have := IsTokenText.token (List.forall_mem_nil _) htoken hno (h more after hafter hends)
  simpa using this

theorem single {token : Token} (htoken : Spells token text) : Spelled [token] text := by
  intro more rest hrest hends
  have := IsTokenText.token (List.forall_mem_nil _) htoken (fun _ => hends) hrest
  simpa using this

theorem append (h : Spelled tokens text) (hmore : Spelled more rest) (hends : EndsNumber rest) :
    Spelled (tokens ++ more) (text ++ rest) := by
  intro tokens' after hafter hends'
  rw [List.append_assoc, List.append_assoc]
  refine h _ _ (hmore _ _ hafter hends') ?_
  cases rest with
  | nil => exact hends'
  | cons c rest => exact hends

end Spelled

theorem spelled_joinCommas {runs : List (List Token)} {texts : List (List Char)} (h : List.Forall₂ Spelled runs texts) :
    Spelled (joinCommas runs) (Value.joinCommas texts) := by
  induction h with
  | nil => exact .nil
  | cons hrun hruns ih =>
    cases hruns with
    | nil => exact hrun
    | cons hnext hmore =>
      exact hrun.append (.cons .comma (fun _ => nofun) ih) (.cons _ rfl (by decide))

end Token

namespace Value

/-- The token of a number of double precision, or of the word that stands for one that is not finite. -/
def realToken (x : Float) : Token := if x.isFinite then .number (Numeral.read (writeReal x)).1 else .word .null

def wholeNumeral (n : ℕ) : Numeral := .ofSpelling false ⟨Decimal.digitsOf n, none, none⟩

mutual

/-- The tokens of a value. -/
def tokens : Value → List Token
  | .null => [.word .null]
  | .boolean b => [.word (if b then .yes else .no)]
  | .integer n => [.number (wholeNumeral n)]
  | .real x => [realToken x]
  | .string s => [.string (.ofText s)]
  | .list items => .openList :: Token.joinCommas (itemTokens items) ++ [.closeList]
  | .object members => .openObject :: Token.joinCommas (memberTokens members) ++ [.closeObject]

def itemTokens : List Value → List (List Token)
  | [] => []
  | item :: rest => tokens item :: itemTokens rest

def memberTokens : List (String × Value) → List (List Token)
  | [] => []
  | (key, value) :: rest => (.string (.ofText key) :: .colon :: tokens value) :: memberTokens rest

end

theorem spelled_word (w : Word) : Token.Spelled [.word w] w.letters := .single (.word w)

theorem spelled_boolean (b : Bool) :
    Token.Spelled [.word (if b then .yes else .no)] (if b then "true".toList else "false".toList) := by
  cases b <;> exact spelled_word _

theorem isText_digitsOf (n : ℕ) : Decimal.Spelling.IsText ⟨Decimal.digitsOf n, none, none⟩ (Decimal.digitsOf n) where
  whole_digits := Decimal.digitsOf_isDigits n
  leading := Decimal.head?_digitsOf
  fraction_digits := nofun
  text_eq := ⟨[], .none, by simp [Decimal.Spelling.pointed]⟩

theorem spelled_integer (n : ℕ) : Token.Spelled [.number (wholeNumeral n)] (Decimal.digitsOf n) :=
  .single (.number (Numeral.isSpelling_ofSpelling (isText_digitsOf n) false))

theorem dataNotation_isExplicit : Decimal.dataNotation.IsExplicit := ⟨rfl, .inr rfl⟩

private theorem exists_spelling {x : Float} (hx : x.isFinite = true) :
    ∃ (negative : Bool) (spelling : Decimal.Spelling) (text : List Char), spelling.IsText text ∧
      writeReal x = (if negative then ['-'] else []) ++ text := by
  obtain ⟨negative, m, e, -, -, spelling, text, hspells, hwritten⟩ :=
    Binary64.spells_spellParts dataNotation_isExplicit ((Binary64.isFinite_iff x).1 hx)
  exact ⟨negative, spelling, text, hspells.isText, (if_pos hx).trans hwritten⟩

/-- What a finite number is written as spells the numeral that is read there. -/
theorem isSpelling_writeReal {x : Float} (hx : x.isFinite = true) :
    (Numeral.read (writeReal x)).1.IsSpelling (writeReal x) := by
  obtain ⟨negative, spelling, text, htext, hwrite⟩ := exists_spelling hx
  have hspelling := Numeral.isSpelling_ofSpelling htext negative
  have hread := hspelling.reads [] .nil
  rw [List.append_nil] at hread
  rw [hwrite, hread]
  exact hspelling

theorem spelled_real (x : Float) : Token.Spelled [realToken x] (writeReal x) := by
  by_cases hx : x.isFinite = true
  · rw [realToken, if_pos hx]
    exact .single (.number (isSpelling_writeReal hx))
  · rw [realToken, if_neg hx, writeReal, if_neg hx]
    exact spelled_word .null

theorem spells_quote (s : String) : Token.Spells (.string (.ofText s)) (quote s) := .string (Quoted.isSpelling_ofText s)

theorem spelled_string (s : String) : Token.Spelled [.string (.ofText s)] (quote s) := .single (spells_quote s)

section Brackets
variable {opening closing : Token} {c d : Char} {tokens : List Token} {runs : List (List Token)} {text : List Char}
  {lines : List (List Char)}

theorem spelled_bracketed (space : List Char) (hopening : Token.Spells opening [c]) (hnumber : ∀ n, opening ≠ .number n)
    (hclosing : Token.Spells closing [d]) (hspace : ∀ c ∈ space, Token.isSpace c = true) (hends : EndsNumber (space ++ [d]))
    (h : Token.Spelled tokens text) :
    Token.Spelled (opening :: tokens ++ [closing]) (c :: text ++ (space ++ [d])) := by
  have hspelled := Token.Spelled.cons hopening hnumber (h.append ((Token.Spelled.single hclosing).afterSpace hspace) hends)
  simpa using hspelled

theorem isSpace_newLine (level : ℕ) : ∀ c ∈ newLine level, Token.isSpace c = true := by
  intro c hc
  rcases List.mem_cons.1 hc with rfl | hc
  · rfl
  · rw [List.eq_of_mem_replicate hc]
    rfl

theorem spelled_bracketLines (level : ℕ) (hopening : Token.Spells opening [c]) (hnumber : ∀ n, opening ≠ .number n)
    (hclosing : Token.Spells closing [d]) (hends : EndsNumber [d]) (h : List.Forall₂ Token.Spelled runs lines) :
    Token.Spelled (opening :: Token.joinCommas runs ++ [closing]) (bracketLines level c d lines) := by
  rw [bracketLines]
  split
  · rename_i hempty
    rw [List.isEmpty_iff] at hempty
    subst hempty
    cases h
    exact spelled_bracketed [] hopening hnumber hclosing (List.forall_mem_nil _) hends .nil
  · have hlines : List.Forall₂ Token.Spelled runs (lines.map (newLine (level + 1) ++ ·)) :=
      List.forall₂_map_right_iff.2 (h.imp fun _ _ hline => hline.afterSpace (isSpace_newLine _))
    have hspelled := spelled_bracketed _ hopening hnumber hclosing (isSpace_newLine level)
      (EndsNumber.cons _ rfl (by decide)) (Token.spelled_joinCommas hlines)
    simpa using hspelled

end Brackets

theorem spelled_member {key : String} {tokens : List Token} {text : List Char} (h : Token.Spelled tokens text) :
    Token.Spelled (.string (.ofText key) :: .colon :: tokens) (quote key ++ ':' :: text) :=
  .cons (spells_quote key) (fun _ => nofun) (.cons .colon (fun _ => nofun) h)

mutual

/-- A value that is written without spaces spells its tokens. -/
theorem spelled_compact : (value : Value) → Token.Spelled value.tokens value.compact
  | .null => spelled_word .null
  | .boolean b => spelled_boolean b
  | .integer n => spelled_integer n
  | .real x => spelled_real x
  | .string s => spelled_string s
  | .list items =>
    spelled_bracketed [] .openList (fun _ => nofun) .closeList (List.forall_mem_nil _)
      (.cons _ rfl (by decide)) (Token.spelled_joinCommas (spelled_compactItems items))
  | .object members =>
    spelled_bracketed [] .openObject (fun _ => nofun) .closeObject (List.forall_mem_nil _)
      (.cons _ rfl (by decide)) (Token.spelled_joinCommas (spelled_compactMembers members))

theorem spelled_compactItems : (items : List Value) → List.Forall₂ Token.Spelled (itemTokens items) (compactItems items)
  | [] => .nil
  | item :: rest => .cons (spelled_compact item) (spelled_compactItems rest)

theorem spelled_compactMembers :
    (members : List (String × Value)) → List.Forall₂ Token.Spelled (memberTokens members) (compactMembers members)
  | [] => .nil
  | (_, value) :: rest => .cons (spelled_member (spelled_compact value)) (spelled_compactMembers rest)

end

mutual

/-- So does a value that is written on several lines. -/
theorem spelled_indented (level : ℕ) : (value : Value) → Token.Spelled value.tokens (indented level value)
  | .null => by
    rw [indented]
    exact spelled_word .null
  | .boolean b => by
    rw [indented]
    exact spelled_boolean b
  | .integer n => by
    rw [indented]
    exact spelled_integer n
  | .real x => by
    rw [indented]
    exact spelled_real x
  | .string s => by
    rw [indented]
    exact spelled_string s
  | .list items => by
    rw [indented]
    exact spelled_bracketLines level .openList (fun _ => nofun) .closeList (.cons _ rfl (by decide))
      (spelled_indentedItems (level + 1) items)
  | .object members => by
    rw [indented]
    exact spelled_bracketLines level .openObject (fun _ => nofun) .closeObject (.cons _ rfl (by decide))
      (spelled_indentedMembers (level + 1) members)

theorem spelled_indentedItems (level : ℕ) :
    (items : List Value) → List.Forall₂ Token.Spelled (itemTokens items) (indentedItems level items)
  | [] => by
    rw [indentedItems]
    exact .nil
  | item :: rest => by
    rw [indentedItems]
    exact .cons (spelled_indented level item) (spelled_indentedItems level rest)

theorem spelled_indentedMembers (level : ℕ) :
    (members : List (String × Value)) → List.Forall₂ Token.Spelled (memberTokens members) (indentedMembers level members)
  | [] => by
    rw [indentedMembers]
    exact .nil
  | (_, value) :: rest => by
    rw [indentedMembers]
    have hspace : ∀ c ∈ [' '], Token.isSpace c = true := by simp [Token.isSpace]
    exact .cons (spelled_member ((spelled_indented level value).afterSpace hspace)) (spelled_indentedMembers level rest)

end

section OneLine

private theorem newline_not_mem_escapeChar (c : Char) : '\n' ∉ escapeChar c := by
  have hcontrol : ∀ n : Fin 0x20,
      '\n' ∉ List.replicate (4 - (Text.hexDigits n).length) '0' ++ Text.hexDigits n := by decide
  unfold escapeChar
  split
  · rename_i hc
    rcases (Bool.or_eq_true _ _).mp hc with h | h <;> rw [of_decide_eq_true h] <;> decide
  split
  · decide
  split
  · decide
  split
  · decide
  split
  · decide
  split
  · decide
  rename_i hnew _ _
  split
  · rename_i hlt
    have h := hcontrol ⟨c.toNat, hlt⟩
    simpa using h
  · simpa using Ne.symm hnew

private theorem newline_not_mem_quote (s : String) : '\n' ∉ quote s := by
  simp only [quote, List.cons_append, List.mem_cons, List.mem_append, List.mem_flatMap, List.not_mem_nil, or_false, not_or,
    not_exists, not_and]
  exact ⟨by decide, fun c _ => newline_not_mem_escapeChar c, by decide⟩

private theorem newline_not_mem_digits {digits : List Char} (h : ∀ c ∈ digits, Decimal.isDigit c = true) :
    '\n' ∉ digits := fun hmem => absurd (h _ hmem) (by decide)

private theorem newline_not_mem_spelling {spelling : Decimal.Spelling} {text : List Char} (h : spelling.IsText text) :
    '\n' ∉ text := by
  obtain ⟨tail, htail, rfl⟩ := h.text_eq
  have hwhole := newline_not_mem_digits h.whole_digits.all
  have hpoint : '\n' ∉ spelling.pointed := by
    rw [Decimal.Spelling.pointed]
    split
    · exact List.not_mem_nil
    · rename_i digits hdigits
      have := newline_not_mem_digits (h.fraction_digits digits hdigits).all
      simp [this]
  have hexponent : '\n' ∉ tail := by
    generalize spelling.exponent = exponent at htail
    cases htail with
    | none => exact List.not_mem_nil
    | negative hdigits | plus hdigits | bare hdigits =>
      have := newline_not_mem_digits hdigits.all
      simp [this]
  simp [hwhole, hpoint, hexponent]

private theorem newline_not_mem_writeReal (x : Float) : '\n' ∉ writeReal x := by
  by_cases hx : x.isFinite = true
  · obtain ⟨negative, spelling, text, htext, hwrite⟩ := exists_spelling hx
    have hnew := newline_not_mem_spelling htext
    rw [hwrite]
    cases negative <;> simp [hnew]
  · rw [writeReal, if_neg hx]
    decide

private theorem newline_not_mem_joinCommas {texts : List (List Char)} (h : ∀ text ∈ texts, '\n' ∉ text) :
    '\n' ∉ joinCommas texts := by
  induction texts with
  | nil => exact List.not_mem_nil
  | cons text texts ih =>
    rw [List.forall_mem_cons] at h
    cases texts with
    | nil => exact h.1
    | cons next texts =>
      have := ih h.2
      simp [joinCommas, h.1, this]

mutual

/-- A value that is written without spaces stands on one line. -/
theorem newline_not_mem_compact : (value : Value) → '\n' ∉ value.compact
  | .null => by decide
  | .boolean b => by cases b <;> decide
  | .integer n => newline_not_mem_digits (Decimal.digitsOf_isDigits n).all
  | .real x => newline_not_mem_writeReal x
  | .string s => newline_not_mem_quote s
  | .list items => by
    have := newline_not_mem_joinCommas (newline_not_mem_compactItems items)
    simp [compact, this]
  | .object members => by
    have := newline_not_mem_joinCommas (newline_not_mem_compactMembers members)
    simp [compact, this]

theorem newline_not_mem_compactItems : (items : List Value) → ∀ text ∈ compactItems items, '\n' ∉ text
  | [] => List.forall_mem_nil _
  | item :: rest => List.forall_mem_cons.2 ⟨newline_not_mem_compact item, newline_not_mem_compactItems rest⟩

theorem newline_not_mem_compactMembers :
    (members : List (String × Value)) → ∀ text ∈ compactMembers members, '\n' ∉ text
  | [] => List.forall_mem_nil _
  | (key, value) :: rest => by
    have hkey := newline_not_mem_quote key
    have hvalue := newline_not_mem_compact value
    exact List.forall_mem_cons.2 ⟨by simp [hkey, hvalue], newline_not_mem_compactMembers rest⟩

end

end OneLine

/-- What is read of a number of double precision, or of the word that stands for one that is not finite. -/
def realReading (x : Float) : Reading := if x.isFinite then .number (Numeral.read (writeReal x)).1 else .word .null

mutual

/-- What is read of a value. -/
def reading : Value → Reading
  | .null => .word .null
  | .boolean b => .word (if b then .yes else .no)
  | .integer n => .number (wholeNumeral n)
  | .real x => realReading x
  | .string s => .string (.ofText s)
  | .list items => .list (itemReadings items) .closed
  | .object members => .object (memberReadings members) .closed

def itemReadings : List Value → List Reading
  | [] => []
  | item :: rest => reading item :: itemReadings rest

def memberReadings : List (String × Value) → List (Quoted × Reading)
  | [] => []
  | (key, value) :: rest => (.ofText key, reading value) :: memberReadings rest

end

theorem itemReadings_eq (items : List Value) : itemReadings items = items.map reading := by
  induction items with
  | nil => rfl
  | cons item items ih => rw [itemReadings, ih, List.map_cons]

theorem memberReadings_eq (members : List (String × Value)) :
    memberReadings members = members.map fun (key, value) => (.ofText key, reading value) := by
  induction members with
  | nil => rfl
  | cons member members ih => rw [memberReadings, ih, List.map_cons]

theorem realReading_eq (x : Float) :
    (realReading x).IsComplete ∧ (realReading x).tokens = [realToken x] := by
  by_cases hx : x.isFinite = true
  · rw [realReading, realToken, if_pos hx, if_pos hx]
    exact ⟨.number (isSpelling_writeReal hx).complete, rfl⟩
  · rw [realReading, realToken, if_neg hx, if_neg hx]
    exact ⟨.word .null, rfl⟩

mutual

/-- A value has the tokens of what is read of it, and nothing of it is cut off. -/
theorem reading_eq : (value : Value) → value.reading.IsComplete ∧ value.reading.tokens = value.tokens
  | .null | .boolean _ => ⟨.word _, rfl⟩
  | .integer _ => ⟨.number rfl, rfl⟩
  | .real x => realReading_eq x
  | .string _ => ⟨.string rfl, rfl⟩
  | .list items => by
    obtain ⟨hcomplete, htokens⟩ := itemReadings_tokens items
    exact ⟨.list hcomplete, by rw [reading, Reading.tokens, htokens, tokens]⟩
  | .object members => by
    obtain ⟨hcomplete, htokens⟩ := memberReadings_tokens members
    exact ⟨.object (fun member hmember => (hcomplete member hmember).1) fun member hmember => (hcomplete member hmember).2,
      by rw [reading, Reading.tokens, htokens, tokens]⟩

theorem itemReadings_tokens : (items : List Value) →
    (∀ item ∈ itemReadings items, item.IsComplete) ∧ Reading.itemTokens (itemReadings items) = itemTokens items
  | [] => ⟨List.forall_mem_nil _, rfl⟩
  | item :: rest => by
    obtain ⟨hcomplete, htokens⟩ := reading_eq item
    obtain ⟨hrest, hmore⟩ := itemReadings_tokens rest
    exact ⟨List.forall_mem_cons.2 ⟨hcomplete, hrest⟩,
      by rw [itemReadings, Reading.itemTokens, htokens, hmore, itemTokens]⟩

theorem memberReadings_tokens : (members : List (String × Value)) →
    (∀ member ∈ memberReadings members, member.1.ending = .closed ∧ member.2.IsComplete) ∧
      Reading.memberTokens (memberReadings members) = memberTokens members
  | [] => ⟨List.forall_mem_nil _, rfl⟩
  | (key, value) :: rest => by
    obtain ⟨hcomplete, htokens⟩ := reading_eq value
    obtain ⟨hrest, hmore⟩ := memberReadings_tokens rest
    exact ⟨List.forall_mem_cons.2 ⟨⟨rfl, hcomplete⟩, hrest⟩,
      by rw [memberReadings, Reading.memberTokens, htokens, hmore, memberTokens]⟩

end

end Value

/-- A text that spells the tokens of a value is read as the value. -/
theorem Value.ofText_eq {value : Value} {text : String} (h : Token.IsTokenText value.tokens text.toList) :
    Reading.ofText text = (value.reading, false) := by
  obtain ⟨hcomplete, htokens⟩ := value.reading_eq
  rw [← htokens] at h
  exact hcomplete.ofText_eq h

end CallOrder.Json
