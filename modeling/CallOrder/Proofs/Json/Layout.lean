import CallOrder.Proofs.Json.Written

/-! JSON texts as they are laid out: the spellings of numbers and strings, white space wherever it may stand, and the
members of objects as the pieces of text that they are. Every text that is read without a flaw is one of these. -/
namespace CallOrder.Json

/-- White space between tokens. -/
structure Blank where
  text : List Char
  isSpace : ∀ c ∈ text, Token.isSpace c = true

def Blank.none : Blank := ⟨[], List.forall_mem_nil _⟩

/-- A number as it is spelled. -/
structure NumberText where
  numeral : Numeral
  text : List Char
  isSpelling : numeral.IsSpelling text

/-- A string as it is spelled, from behind its opening quotation mark. -/
structure StringText where
  quoted : Quoted
  text : List Char
  isSpelling : quoted.IsSpelling text

/-- The digits of a whole number. -/
def NumberText.ofNat (n : ℕ) : NumberText where
  numeral := Value.wholeNumeral n
  text := Decimal.digitsOf n
  isSpelling := Numeral.isSpelling_ofSpelling (Value.isText_digitsOf n) false

/-- The spelling with which a text is written. -/
def StringText.ofText (s : String) : StringText where
  quoted := .ofText s
  text := s.toList.flatMap Value.escapeChar ++ ['"']
  isSpelling := Quoted.isSpelling_ofText s

/-- The key of a member. -/
structure KeyText where
  before : Blank
  spelling : StringText
  after : Blank

def KeyText.ofText (s : String) : KeyText := ⟨.none, .ofText s, .none⟩

/-- The text of a key, up to the colon behind it. -/
def KeyText.text (key : KeyText) : List Char :=
  key.before.text ++ ('"' :: key.spelling.text ++ (key.after.text ++ [':']))

/-- The layout of a value. -/
inductive Layout where
  | word (w : Word)
  | number (n : NumberText)
  | string (s : StringText)
  | list (space : Blank) (items : List Layout)
  | object (space : Blank) (members : List (KeyText × Layout))
  | spaced (before : Blank) (value : Layout) (after : Blank)

namespace Layout

mutual

def text : Layout → List Char
  | .word w => w.letters
  | .number n => n.text
  | .string s => '"' :: s.text
  | .list space items => '[' :: (space.text ++ Value.joinCommas (itemTexts items)) ++ [']']
  | .object space members => '{' :: (space.text ++ Value.joinCommas (memberTexts members)) ++ ['}']
  | .spaced before value after => before.text ++ (text value ++ after.text)

def itemTexts : List Layout → List (List Char)
  | [] => []
  | item :: rest => text item :: itemTexts rest

def memberTexts : List (KeyText × Layout) → List (List Char)
  | [] => []
  | (key, value) :: rest => (key.text ++ text value) :: memberTexts rest

end

mutual

/-- What a layout says. -/
def reading : Layout → Reading
  | .word w => .word w
  | .number n => .number n.numeral
  | .string s => .string s.quoted
  | .list _ items => .list (itemReadings items) .closed
  | .object _ members => .object (memberReadings members) .closed
  | .spaced _ value _ => reading value

def itemReadings : List Layout → List Reading
  | [] => []
  | item :: rest => reading item :: itemReadings rest

def memberReadings : List (KeyText × Layout) → List (Quoted × Reading)
  | [] => []
  | (key, value) :: rest => (key.spelling.quoted, reading value) :: memberReadings rest

end

theorem itemReadings_eq (items : List Layout) : itemReadings items = items.map reading := by
  induction items with
  | nil => rfl
  | cons item items ih => rw [itemReadings, ih, List.map_cons]

theorem memberReadings_eq (members : List (KeyText × Layout)) :
    memberReadings members = members.map fun (key, value) => (key.spelling.quoted, value.reading) := by
  induction members with
  | nil => rfl
  | cons member members ih => rw [memberReadings, ih, List.map_cons]

theorem itemTexts_eq (items : List Layout) : itemTexts items = items.map text := by
  induction items with
  | nil => rfl
  | cons item items ih => rw [itemTexts, ih, List.map_cons]

theorem memberTexts_eq (members : List (KeyText × Layout)) :
    memberTexts members = members.map fun (key, value) => key.text ++ value.text := by
  induction members with
  | nil => rfl
  | cons member members ih => rw [memberTexts, ih, List.map_cons]

end Layout

theorem EndsNumber.afterSpace {space rest : List Char} (hspace : ∀ c ∈ space, Token.isSpace c = true) (h : EndsNumber rest) :
    EndsNumber (space ++ rest) := by
  cases space with
  | nil => exact h
  | cons c space =>
    have hc := hspace c List.mem_cons_self
    simp only [Token.isSpace, Bool.or_eq_true, decide_eq_true_eq] at hc
    rcases hc with ((rfl | rfl) | rfl) | rfl <;> exact .cons _ rfl (by decide)

theorem Token.Spelled.beforeSpace {tokens : List Token} {text space : List Char}
    (hspace : ∀ c ∈ space, isSpace c = true) (h : Spelled tokens text) : Spelled tokens (text ++ space) := by
  intro more rest hrest hends
  rw [List.append_assoc]
  exact h more _ (hrest.afterSpace hspace) (hends.afterSpace hspace)

namespace Layout

theorem spelled_member (key : KeyText) {tokens : List Token} {text : List Char} (h : Token.Spelled tokens text) :
    Token.Spelled (.string key.spelling.quoted :: .colon :: tokens) (key.text ++ text) := by
  have hcolon := (Token.Spelled.cons .colon (fun _ => nofun) h).afterSpace key.after.isSpace
  have hstring := Token.Spelled.cons (.string key.spelling.isSpelling) (fun _ => nofun) hcolon
  have hkey := hstring.afterSpace key.before.isSpace
  rw [KeyText.text]
  simpa only [List.append_assoc, List.cons_append] using hkey

mutual

/-- A layout spells the tokens of what it says. -/
theorem spelled_text : (layout : Layout) → Token.Spelled layout.reading.tokens layout.text
  | .word w => .single (.word w)
  | .number n => .single (.number n.isSpelling)
  | .string s => .single (.string s.isSpelling)
  | .list space items => by
    have hitems := (Token.spelled_joinCommas (spelled_itemTexts items)).afterSpace space.isSpace
    exact Value.spelled_bracketed [] .openList (fun _ => nofun) .closeList (List.forall_mem_nil _)
      (.cons _ rfl (by decide)) hitems
  | .object space members => by
    have hmembers := (Token.spelled_joinCommas (spelled_memberTexts members)).afterSpace space.isSpace
    exact Value.spelled_bracketed [] .openObject (fun _ => nofun) .closeObject (List.forall_mem_nil _)
      (.cons _ rfl (by decide)) hmembers
  | .spaced before value after => ((spelled_text value).beforeSpace after.isSpace).afterSpace before.isSpace

theorem spelled_itemTexts : (items : List Layout) →
    List.Forall₂ Token.Spelled (Reading.itemTokens (itemReadings items)) (itemTexts items)
  | [] => .nil
  | item :: rest => .cons (spelled_text item) (spelled_itemTexts rest)

theorem spelled_memberTexts : (members : List (KeyText × Layout)) →
    List.Forall₂ Token.Spelled (Reading.memberTokens (memberReadings members)) (memberTexts members)
  | [] => .nil
  | (key, value) :: rest =>
    .cons (spelled_member key (spelled_text value)) (spelled_memberTexts rest)

end

mutual

theorem isComplete_reading : (layout : Layout) → layout.reading.IsComplete
  | .word w => .word w
  | .number n => .number n.isSpelling.complete
  | .string s => .string s.isSpelling.closed
  | .list _ items => .list (isComplete_itemReadings items)
  | .object _ members =>
    .object (fun member hmember => (isComplete_memberReadings members member hmember).1)
      fun member hmember => (isComplete_memberReadings members member hmember).2
  | .spaced _ value _ => isComplete_reading value

theorem isComplete_itemReadings : (items : List Layout) → ∀ item ∈ itemReadings items, item.IsComplete
  | [] => List.forall_mem_nil _
  | item :: rest => List.forall_mem_cons.2 ⟨isComplete_reading item, isComplete_itemReadings rest⟩

theorem isComplete_memberReadings : (members : List (KeyText × Layout)) →
    ∀ member ∈ memberReadings members, member.1.ending = .closed ∧ member.2.IsComplete
  | [] => List.forall_mem_nil _
  | (key, value) :: rest =>
    List.forall_mem_cons.2 ⟨⟨key.spelling.isSpelling.closed, isComplete_reading value⟩, isComplete_memberReadings rest⟩

end

/-- A layout is read as what it says. -/
theorem ofText_text (layout : Layout) : Reading.ofText (String.ofList layout.text) = (layout.reading, false) := by
  apply layout.isComplete_reading.ofText_eq
  rw [String.toList_ofList]
  exact layout.spelled_text.isTokenText

section Exists
variable {text : List Char} {token : Token} {tokens more : List Token}

/-- The first token of a text, the white space before it, and the text behind it. -/
private theorem exists_token (h : Token.IsTokenText (token :: tokens) text) :
    ∃ (space : Blank) (used rest : List Char), text = space.text ++ (used ++ rest) ∧ Token.Spells token used ∧
      Token.IsTokenText tokens rest := by
  cases h with
  | @token space used rest token tokens hspace hspells hends hrest =>
    exact ⟨⟨space, hspace⟩, used, rest, by rw [List.append_assoc], hspells, hrest⟩

/-- Whether the text of tokens that are those of a reading begins with a layout of the reading. -/
private def HasLayout (reading : Reading) : Prop :=
  ∀ ⦃more text⦄, Token.IsTokenText (reading.tokens ++ more) text →
    ∃ (layout : Layout) (rest : List Char), text = layout.text ++ rest ∧ layout.reading = reading ∧
      Token.IsTokenText more rest

private theorem exists_items {items : List Reading} (hne : items ≠ []) (h : ∀ item ∈ items, HasLayout item)
    (htext : Token.IsTokenText (Token.joinCommas (Reading.itemTokens items) ++ .closeList :: more) text) :
    ∃ (layouts : List Layout) (rest : List Char), text = Value.joinCommas (itemTexts layouts) ++ ']' :: rest ∧
      itemReadings layouts = items ∧ Token.IsTokenText more rest := by
  induction items generalizing text with
  | nil => exact absurd rfl hne
  | cons item items ih =>
    cases items with
    | nil =>
      obtain ⟨layout, behind, rfl, hreading, hbehind⟩ := h item List.mem_cons_self htext
      obtain ⟨space, used, rest, rfl, hspells, hrest⟩ := exists_token hbehind
      cases hspells
      refine ⟨[.spaced .none layout space], rest, ?_, ?_, hrest⟩
      · simp [itemTexts, Value.joinCommas, Layout.text, Blank.none]
      · rw [itemReadings, itemReadings, reading, hreading]
    | cons next items =>
      have htokens : Token.joinCommas (Reading.itemTokens (item :: next :: items)) =
          item.tokens ++ .comma :: Token.joinCommas (Reading.itemTokens (next :: items)) := rfl
      rw [htokens, List.append_assoc, List.cons_append] at htext
      obtain ⟨layout, behind, rfl, hreading, hbehind⟩ := h item List.mem_cons_self htext
      obtain ⟨space, used, others, rfl, hspells, hothers⟩ := exists_token hbehind
      cases hspells
      obtain ⟨layouts, rest, rfl, hreadings, hrest⟩ :=
        ih (List.cons_ne_nil _ _) (fun r hr => h r (List.mem_cons_of_mem _ hr)) hothers
      cases layouts with
      | nil => cases hreadings
      | cons layout' layouts =>
        refine ⟨.spaced .none layout space :: layout' :: layouts, rest, ?_, ?_, hrest⟩
        · simp [itemTexts, Value.joinCommas, Layout.text, Blank.none]
        · rw [itemReadings, hreadings, reading, hreading]

private theorem exists_key {key : Quoted} (htext : Token.IsTokenText (.string key :: .colon :: tokens) text) :
    ∃ (keyText : KeyText) (rest : List Char), text = keyText.text ++ rest ∧ keyText.spelling.quoted = key ∧
      Token.IsTokenText tokens rest := by
  obtain ⟨before, used, behind, rfl, hspells, hbehind⟩ := exists_token htext
  cases hspells with
  | @string _ used hspelling =>
    obtain ⟨after, used', rest, rfl, hspells, hrest⟩ := exists_token hbehind
    cases hspells
    exact ⟨⟨before, ⟨key, used, hspelling⟩, after⟩, rest, by simp [KeyText.text], rfl, hrest⟩

private theorem exists_members {members : List (Quoted × Reading)} (hne : members ≠ [])
    (h : ∀ member ∈ members, HasLayout member.2)
    (htext : Token.IsTokenText (Token.joinCommas (Reading.memberTokens members) ++ .closeObject :: more) text) :
    ∃ (layouts : List (KeyText × Layout)) (rest : List Char),
      text = Value.joinCommas (memberTexts layouts) ++ '}' :: rest ∧ memberReadings layouts = members ∧
      Token.IsTokenText more rest := by
  induction members generalizing text with
  | nil => exact absurd rfl hne
  | cons member members ih =>
    obtain ⟨key, value⟩ := member
    cases members with
    | nil =>
      obtain ⟨keyText, behind, rfl, hkey, hbehind⟩ := exists_key htext
      obtain ⟨layout, behind, rfl, hreading, hbehind⟩ := h (key, value) List.mem_cons_self hbehind
      obtain ⟨space, used, rest, rfl, hspells, hrest⟩ := exists_token hbehind
      cases hspells
      refine ⟨[(keyText, .spaced .none layout space)], rest, ?_, ?_, hrest⟩
      · simp [memberTexts, Value.joinCommas, Layout.text, Blank.none]
      · rw [memberReadings, memberReadings, reading, hreading, hkey]
    | cons next members =>
      have htokens : Token.joinCommas (Reading.memberTokens ((key, value) :: next :: members)) =
          .string key :: .colon :: (value.tokens ++ .comma :: Token.joinCommas (Reading.memberTokens (next :: members))) := rfl
      rw [htokens, List.cons_append, List.cons_append, List.append_assoc, List.cons_append] at htext
      obtain ⟨keyText, behind, rfl, hkey, hbehind⟩ := exists_key htext
      obtain ⟨layout, behind, rfl, hreading, hbehind⟩ := h (key, value) List.mem_cons_self hbehind
      obtain ⟨space, used, others, rfl, hspells, hothers⟩ := exists_token hbehind
      cases hspells
      obtain ⟨layouts, rest, rfl, hreadings, hrest⟩ :=
        ih (List.cons_ne_nil _ _) (fun member hmember => h member (List.mem_cons_of_mem _ hmember)) hothers
      cases layouts with
      | nil => cases hreadings
      | cons layout' layouts =>
        refine ⟨(keyText, .spaced .none layout space) :: layout' :: layouts, rest, ?_, ?_, hrest⟩
        · simp [memberTexts, Value.joinCommas, Layout.text, Blank.none]
        · rw [memberReadings, hreadings, reading, hreading, hkey]

private theorem hasLayout {reading : Reading} (h : reading.IsComplete) : HasLayout reading := by
  induction h with
  | word w =>
    intro more text htext
    obtain ⟨space, used, rest, rfl, hspells, hrest⟩ := exists_token htext
    cases hspells
    exact ⟨.spaced space (.word w) .none, rest, by simp [Layout.text, Blank.none], rfl, hrest⟩
  | @number n h =>
    intro more text htext
    obtain ⟨space, used, rest, rfl, hspells, hrest⟩ := exists_token htext
    cases hspells with
    | number hspelling =>
      exact ⟨.spaced space (.number ⟨n, used, hspelling⟩) .none, rest, by simp [Layout.text, Blank.none], rfl, hrest⟩
  | @string q h =>
    intro more text htext
    obtain ⟨space, used, rest, rfl, hspells, hrest⟩ := exists_token htext
    cases hspells with
    | @string _ used hspelling =>
      exact ⟨.spaced space (.string ⟨q, used, hspelling⟩) .none, rest, by simp [Layout.text, Blank.none], rfl, hrest⟩
  | @list items hitems ih =>
    intro more text htext
    rw [Reading.tokens, List.append_assoc, List.cons_append] at htext
    obtain ⟨space, used, behind, rfl, hspells, hbehind⟩ := exists_token htext
    cases hspells
    by_cases hne : items = []
    · subst hne
      obtain ⟨inside, used, rest, rfl, hspells, hrest⟩ := exists_token hbehind
      cases hspells
      exact ⟨.spaced space (.list inside []) .none, rest,
        by simp [Layout.text, itemTexts, Value.joinCommas, Blank.none], rfl, hrest⟩
    · obtain ⟨layouts, rest, rfl, rfl, hrest⟩ := exists_items hne ih hbehind
      exact ⟨.spaced space (.list .none layouts) .none, rest, by simp [Layout.text, Blank.none], rfl, hrest⟩
  | @object members hkeys hmembers ih =>
    intro more text htext
    rw [Reading.tokens, List.append_assoc, List.cons_append] at htext
    obtain ⟨space, used, behind, rfl, hspells, hbehind⟩ := exists_token htext
    cases hspells
    by_cases hne : members = []
    · subst hne
      obtain ⟨inside, used, rest, rfl, hspells, hrest⟩ := exists_token hbehind
      cases hspells
      exact ⟨.spaced space (.object inside []) .none, rest,
        by simp [Layout.text, memberTexts, Value.joinCommas, Blank.none], rfl, hrest⟩
    · obtain ⟨layouts, rest, rfl, rfl, hrest⟩ := exists_members hne ih hbehind
      exact ⟨.spaced space (.object .none layouts) .none, rest, by simp [Layout.text, Blank.none], rfl, hrest⟩

end Exists

/-- Every text that is read without a flaw, and does not go on, is laid out in some way. -/
theorem exists_layout {reading : Reading} {text : String} (h : reading.IsComplete)
    (htext : Reading.ofText text = (reading, false)) :
    ∃ layout : Layout, layout.text = text.toList ∧ layout.reading = reading := by
  have htokens := h.isTokenText htext
  rw [← List.append_nil reading.tokens] at htokens
  obtain ⟨layout, rest, htext, hreading, hrest⟩ := hasLayout h htokens
  cases hrest with
  | done hspace => exact ⟨.spaced .none layout ⟨rest, hspace⟩, htext.symm, hreading⟩

end Layout

end CallOrder.Json
