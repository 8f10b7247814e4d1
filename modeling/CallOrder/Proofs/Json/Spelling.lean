import CallOrder.Json.Value
import CallOrder.Proofs.Json.Lexemes

/-! How the tokens of JSON are spelled, with white space anywhere between them, and that a text of tokens is read as
these tokens. -/
namespace CallOrder.Json

/-- How the writer spells a character: a control character without a short escape by its number, any other by
itself. -/
def Piece.ofChar (c : Char) : Piece :=
  if c.toNat < 0x20 ∧ c ∉ ['\x08', '\x0c', '\n', '\r', '\t'] then .unit c.toNat else .char c

namespace Quoted

/-- How the writer spells a text. -/
def ofText (s : String) : Quoted := ⟨s.toList.map .ofChar, .closed⟩

private theorem unitOf?_hexDigits {n : ℕ} (hn : n < 0x20) :
    ∃ a b, List.replicate (4 - (Text.hexDigits n).length) '0' ++ Text.hexDigits n = ['0', '0', a, b] ∧
      unitOf? '0' '0' a b = some n := by
  have h : ∀ n : Fin 0x20,
      List.replicate (4 - (Text.hexDigits n).length) '0' ++ Text.hexDigits n =
          ['0', '0', Nat.digitChar (n / 16), Nat.digitChar (n % 16)] ∧
        unitOf? '0' '0' (Nat.digitChar (n / 16)) (Nat.digitChar (n % 16)) = some n.val := by decide
  exact ⟨_, _, h ⟨n, hn⟩⟩

private theorem read_escapeChar (c : Char) (rest : List Char) :
    read (Value.escapeChar c ++ rest) = ((read rest).1.add (.ofChar c), (read rest).2) := by
  unfold Value.escapeChar
  split
  · rename_i hc
    rw [Bool.or_eq_true, decide_eq_true_eq, decide_eq_true_eq] at hc
    rcases hc with rfl | rfl <;> rfl
  split
  · subst_vars
    rfl
  split
  · subst_vars
    rfl
  split
  · subst_vars
    rfl
  split
  · subst_vars
    rfl
  split
  · subst_vars
    rfl
  rename_i hquote hback hfeed hnew hreturn htab
  have hshort : c ∉ ['\x08', '\x0c', '\n', '\r', '\t'] := by simp [hback, hfeed, hnew, hreturn, htab]
  split
  · rename_i hcontrol
    obtain ⟨a, b, hdigits, hunit⟩ := unitOf?_hexDigits hcontrol
    simp only [hdigits, List.cons_append, List.nil_append, read, hunit]
    rw [Piece.ofChar, if_pos ⟨hcontrol, hshort⟩]
  · rename_i hcontrol
    have hquote' : c ≠ '"' ∧ c ≠ '\\' := by simpa using hquote
    rw [Piece.ofChar, if_neg fun h => hcontrol h.1, List.singleton_append, read.eq_def]
    split <;> simp_all

theorem isSpelling_ofText (s : String) : (ofText s).IsSpelling (s.toList.flatMap Value.escapeChar ++ ['"']) := by
  refine ⟨rfl, ?_⟩
  intro rest
  rw [ofText]
  induction s.toList with
  | nil => rfl
  | cons c cs ih =>
    rw [List.flatMap_cons, List.append_assoc, List.append_assoc, read_escapeChar, ← List.append_assoc, ih]
    rfl

private theorem characters_unit {n : ℕ} (hn : n < 0x20) (ending : End) (rest : List Piece) :
    characters ending (.unit n :: rest) = do return Char.ofNat n :: (← characters ending rest) := by
  have hlow : isLowSurrogate n = false := by simp [isLowSurrogate]; omega
  have hhigh : isHighSurrogate n = false := by simp [isHighSurrogate]; omega
  cases rest with
  | nil => simp [characters, hlow, hhigh]
  | cons piece rest => cases piece <;> simp [characters, hlow, hhigh]

@[simp]
theorem text_ofText (s : String) : (ofText s).text = .ok s := by
  have h : ∀ cs : List Char, characters .closed (cs.map .ofChar) = .ok cs := by
    intro cs
    induction cs with
    | nil => rfl
    | cons c cs ih =>
      rw [List.map_cons, Piece.ofChar]
      split
      · rename_i hc
        rw [characters_unit hc.1, ih, Char.ofNat_toNat]
        rfl
      · rw [characters, ih]
        rfl
  rw [text, ofText, h]
  exact congrArg Except.ok (String.ofList_toList)

end Quoted

namespace Numeral

/-- A spelling of a number with a sign. -/
def ofSpelling (negative : Bool) (spelling : Decimal.Spelling) : Numeral where
  negative := negative
  whole := spelling.whole
  fraction := spelling.fraction
  exponent := spelling.exponent

private theorem readExponent_spelled {numeral : Numeral} {exponent : Option (Bool × List Char)} {tail rest : List Char}
    (hnone : numeral.exponent = none) (h : Decimal.SpellsExponent exponent tail) (hrest : EndsNumber rest) :
    readExponent numeral (tail ++ rest) = ({ numeral with exponent := exponent }, rest) := by
  cases h with
  | none => rw [List.nil_append, readExponent_none hrest, ← hnone]
  | negative hdigits => exact readExponent_mark (.minus (.inl rfl)) hdigits hrest.endsDigits
  | plus hdigits => exact readExponent_mark (.plus (.inl rfl)) hdigits hrest.endsDigits
  | bare hdigits => exact readExponent_mark (.bare (.inl rfl)) hdigits hrest.endsDigits

private theorem endsDigits_tail {exponent : Option (Bool × List Char)} {tail rest : List Char}
    (h : Decimal.SpellsExponent exponent tail) (hrest : EndsNumber rest) :
    ∀ c ∈ (tail ++ rest).head?, Decimal.isDigit c = false ∧ c ≠ '.' := by
  cases h with
  | none => exact fun c hc => ⟨(hrest c hc).1, (hrest c hc).2.1⟩
  | negative | plus | bare =>
    rintro _ ⟨⟩
    exact ⟨rfl, by decide⟩

private theorem readTail_spelled {numeral : Numeral} {spelling : Decimal.Spelling} {tail rest : List Char}
    (hfraction : numeral.fraction = none) (hnone : numeral.exponent = none)
    (hdigits : ∀ digits, spelling.fraction = some digits → Decimal.IsDigits digits)
    (h : Decimal.SpellsExponent spelling.exponent tail) (hrest : EndsNumber rest) :
    readTail numeral (spelling.pointed ++ tail ++ rest) =
      ({ numeral with fraction := spelling.fraction, exponent := spelling.exponent }, rest) := by
  have hends := endsDigits_tail h hrest
  rw [List.append_assoc]
  cases hpoint : spelling.fraction with
  | none =>
    rw [Decimal.Spelling.pointed, hpoint, List.nil_append, readTail_of_ne fun c hc => (hends c hc).2,
      readExponent_spelled hnone h hrest, ← hfraction]
  | some digits =>
    rw [Decimal.Spelling.pointed, hpoint, List.cons_append,
      readTail_point _ (hdigits digits hpoint) fun c hc => (hends c hc).1]
    exact readExponent_spelled hnone h hrest

private theorem readDigits_spelled {spelling : Decimal.Spelling} {text rest : List Char} (h : spelling.IsText text)
    (negative : Bool) (hrest : EndsNumber rest) :
    readDigits negative (text ++ rest) = (ofSpelling negative spelling, rest) := by
  obtain ⟨tail, htail, rfl⟩ := h.text_eq
  have hdigit : ∀ c ∈ (spelling.pointed ++ tail ++ rest).head?, Decimal.isDigit c = false := by
    rw [List.append_assoc, Decimal.Spelling.pointed]
    cases spelling.fraction with
    | none => exact fun c hc => (endsDigits_tail htail hrest c hc).1
    | some digits =>
      rintro _ ⟨⟩
      rfl
  rw [List.append_assoc spelling.whole, List.append_assoc spelling.whole,
    readDigits_eq _ h.whole_digits h.leading hdigit, readTail_spelled rfl rfl h.fraction_digits htail hrest, ofSpelling]

/-- The text of a spelling, with its sign. -/
theorem isSpelling_ofSpelling {spelling : Decimal.Spelling} {text : List Char} (h : spelling.IsText text)
    (negative : Bool) : (ofSpelling negative spelling).IsSpelling ((if negative then ['-'] else []) ++ text) := by
  refine ⟨rfl, ?_⟩
  intro rest hrest
  have hread := readDigits_spelled h negative hrest
  cases negative with
  | true => exact hread
  | false =>
    obtain ⟨tail, -, rfl⟩ := h.text_eq
    obtain ⟨c, digits, hwhole⟩ := List.exists_cons_of_ne_nil h.whole_digits.ne_nil
    have hc := h.whole_digits.all c (by simp [hwhole])
    rw [hwhole] at hread ⊢
    exact (read_digit hc _).trans hread

end Numeral

namespace Token

/-- The texts of the tokens. -/
inductive Spells : Token → List Char → Prop where
  | openList : Spells .openList ['[']
  | closeList : Spells .closeList [']']
  | openObject : Spells .openObject ['{']
  | closeObject : Spells .closeObject ['}']
  | comma : Spells .comma [',']
  | colon : Spells .colon [':']
  | word (w : Word) : Spells (.word w) w.letters
  | number {n : Numeral} {text : List Char} (h : n.IsSpelling text) : Spells (.number n) text
  | string {q : Quoted} {text : List Char} (h : q.IsSpelling text) : Spells (.string q) ('"' :: text)

/-- A text of tokens: there may be white space before each of them and at the end, and what follows a number does not
go on with it. -/
inductive IsTokenText : List Token → List Char → Prop where
  | done {space : List Char} (hspace : ∀ c ∈ space, isSpace c = true) : IsTokenText [] space
  | token {space text rest : List Char} {token : Token} {tokens : List Token} (hspace : ∀ c ∈ space, isSpace c = true)
      (h : Spells token text) (hends : (∃ n, token = .number n) → EndsNumber rest) (hrest : IsTokenText tokens rest) :
      IsTokenText (token :: tokens) (space ++ text ++ rest)

private theorem readWord_letters (w : Word) (letters rest : List Char) :
    readWord w letters (letters ++ rest) = (.word w, rest) := by
  induction letters with
  | nil => rfl
  | cons letter letters ih => rw [List.cons_append, readWord, if_pos rfl, ih]

private theorem readFrom_numeral {c : Char} {tail rest : List Char} {numeral : Numeral}
    (hc : c = '-' ∨ Decimal.isDigit c = true) (h : Numeral.read (c :: tail) = (numeral, rest)) :
    readFrom c tail = (.number numeral, rest) ∧ isSpace c = false := by
  have hother : c ∉ ['[', ']', '{', '}', ',', ':', '"', ' ', '\t', '\n', '\r'] := by
    rintro hmem
    simp only [List.mem_cons, List.not_mem_nil, or_false] at hmem
    rcases hmem with rfl | rfl | rfl | rfl | rfl | rfl | rfl | rfl | rfl | rfl | rfl <;>
      exact hc.elim (by decide) (by decide)
  simp only [List.mem_cons, List.not_mem_nil, or_false, not_or] at hother
  simp [readFrom, isSpace, hother, hc, h]

private theorem readFrom_spelled {token : Token} {text rest : List Char} (h : Spells token text)
    (hends : (∃ n, token = .number n) → EndsNumber rest) :
    ∃ c tail, text = c :: tail ∧ readFrom c (tail ++ rest) = (token, rest) ∧ isSpace c = false ∧
      token.isLast = false := by
  cases h with
  | openList | closeList | openObject | closeObject | comma | colon => exact ⟨_, _, rfl, rfl, rfl, rfl⟩
  | word w =>
    cases w <;> exact ⟨_, _, rfl, readWord_letters _ _ rest, rfl, rfl⟩
  | @number n text h =>
    obtain ⟨c, tail, rfl, hc⟩ := h.exists_cons
    obtain ⟨hfrom, hspace⟩ := readFrom_numeral hc (h.reads rest (hends ⟨_, rfl⟩))
    exact ⟨c, tail, rfl, hfrom, hspace, by rw [isLast, h.complete]; rfl⟩
  | @string q text h =>
    refine ⟨'"', text, rfl, ?_, rfl, by rw [isLast, h.closed]; rfl⟩
    simp [readFrom, h.reads rest]

private theorem readSome_isTokenText {tokens : List Token} {text : List Char} (h : IsTokenText tokens text) :
    ∀ count, text.length ≤ count → readSome count text = tokens := by
  induction h with
  | @done space hspace =>
    intro count _
    have hdrop : space.dropWhile isSpace = [] := List.dropWhile_eq_nil_iff.2 hspace
    cases count <;> simp [readSome, hdrop]
  | @token space text rest token tokens hspace h hends _ ih =>
    obtain ⟨c, tail, rfl, hfrom, hc, hlast⟩ := readFrom_spelled h hends
    intro count hcount
    simp only [List.length_append, List.length_cons] at hcount
    obtain ⟨count, rfl⟩ := Nat.exists_eq_succ_of_ne_zero (show count ≠ 0 by omega)
    have hdrop : (space ++ c :: tail ++ rest).dropWhile isSpace = c :: (tail ++ rest) := by
      rw [List.append_assoc, List.dropWhile_append_of_pos hspace]
      simp [hc]
    simp only [readSome, hdrop, hfrom, hlast]
    rw [ih count (by omega)]
    rfl

/-- A text of tokens is read as these tokens. -/
theorem ofText_eq {tokens : List Token} {text : String} (h : IsTokenText tokens text.toList) : ofText text = tokens :=
  readSome_isTokenText h _ le_rfl

private theorem readWord_eq {w : Word} {letters text after : List Char} {token : Token}
    (h : readWord w letters text = (token, after)) (hlast : token.isLast = false) :
    token = .word w ∧ text = letters ++ after := by
  induction letters generalizing text with
  | nil =>
    cases h
    exact ⟨rfl, rfl⟩
  | cons letter letters ih =>
    cases text with
    | nil =>
      cases h
      cases hlast
    | cons c text =>
      rw [readWord] at h
      split at h
      · rename_i hc
        obtain ⟨htoken, htext⟩ := ih h
        exact ⟨htoken, by rw [hc, htext]; rfl⟩
      · cases h
        cases hlast

private theorem spells_word {w : Word} {c : Char} {text after : List Char} {token : Token}
    (h : readWord w w.letters (c :: text) = (token, after)) (hlast : token.isLast = false) :
    ∃ tail, text = tail ++ after ∧ Spells token (c :: tail) ∧ ((∃ n, token = .number n) → EndsDigits after) := by
  obtain ⟨rfl, htext⟩ := readWord_eq h hlast
  obtain ⟨d, tail, hletters⟩ := List.exists_cons_of_ne_nil (show w.letters ≠ [] by cases w <;> exact nofun)
  rw [hletters, List.cons_append, List.cons.injEq] at htext
  obtain ⟨rfl, htext⟩ := htext
  exact ⟨tail, htext, hletters ▸ .word w, nofun⟩

/-- A token without a fault has a text of its own, from which it is read. -/
private theorem spells_readFrom {c : Char} {text after : List Char} {token : Token} (h : readFrom c text = (token, after))
    (hlast : token.isLast = false) :
    ∃ tail, text = tail ++ after ∧ Spells token (c :: tail) ∧ ((∃ n, token = .number n) → EndsDigits after) := by
  by_cases hc : c ∈ ['[', ']', '{', '}', ',', ':']
  · have hbare : text = after ∧ Spells token [c] ∧ ∀ n, token ≠ .number n := by
      simp only [List.mem_cons, List.not_mem_nil, or_false] at hc
      rcases hc with rfl | rfl | rfl | rfl | rfl | rfl <;> cases h
      exacts [⟨rfl, .openList, nofun⟩, ⟨rfl, .closeList, nofun⟩, ⟨rfl, .openObject, nofun⟩,
        ⟨rfl, .closeObject, nofun⟩, ⟨rfl, .comma, nofun⟩, ⟨rfl, .colon, nofun⟩]
    obtain ⟨rfl, hspells, hnumber⟩ := hbare
    exact ⟨[], rfl, hspells, fun ⟨n, hn⟩ => absurd hn (hnumber n)⟩
  simp only [List.mem_cons, List.not_mem_nil, or_false, not_or] at hc
  obtain ⟨hopen, hclose, hopen', hclose', hcomma, hcolon⟩ := hc
  rw [readFrom, if_neg hopen, if_neg hclose, if_neg hopen', if_neg hclose', if_neg hcomma, if_neg hcolon] at h
  split at h
  · subst_vars
    cases h
    have hclosed : (Quoted.read text).1.ending = .closed := by simpa [isLast] using hlast
    obtain ⟨used, htext, hspelling⟩ := Quoted.exists_isSpelling text hclosed
    exact ⟨used, htext, .string hspelling, nofun⟩
  split at h
  · generalize hread : Numeral.read (c :: text) = read at h
    obtain ⟨numeral, rest⟩ := read
    cases h
    have hcomplete : (Numeral.read (c :: text)).1.ending = .complete := by
      rw [hread]
      simpa [isLast] using hlast
    obtain ⟨d, more, htext, -, hends, hspelling⟩ := Numeral.exists_isSpelling (c :: text) hcomplete
    rw [hread] at htext hends hspelling
    rw [List.cons_append, List.cons.injEq] at htext
    obtain ⟨rfl, htext⟩ := htext
    exact ⟨more, htext, .number hspelling, fun _ => hends⟩
  split at h
  · exact spells_word h hlast
  split at h
  · exact spells_word h hlast
  split at h
  · exact spells_word h hlast
  · cases h
    cases hlast

/-- No token begins with a character that goes on with a number behind its digits. -/
private theorem IsTokenText.head {tokens : List Token} {text : List Char} (h : IsTokenText tokens text) :
    ∀ c ∈ text.head?, c ≠ '.' ∧ c ≠ 'e' ∧ c ≠ 'E' := by
  have hspaced : ∀ {space : List Char}, (∀ c ∈ space, isSpace c = true) → ∀ c ∈ space.head?, c ≠ '.' ∧ c ≠ 'e' ∧ c ≠ 'E' := by
    intro space hspace c hc
    have hspace := hspace c (List.mem_of_mem_head? hc)
    refine ⟨?_, ?_, ?_⟩ <;>
    · rintro rfl
      exact absurd hspace (by decide)
  cases h with
  | done hspace => exact hspaced hspace
  | @token space text rest token tokens hspace h hends _ =>
    cases space with
    | nil =>
      obtain ⟨c, tail, rfl, hfrom, -, hlast⟩ := readFrom_spelled h hends
      rintro _ ⟨⟩
      refine ⟨?_, ?_, ?_⟩ <;>
      · rintro rfl
        rw [← (Prod.mk.inj hfrom).1] at hlast
        cases hlast
    | cons c space =>
      rintro _ ⟨⟩
      exact hspaced hspace c rfl

private theorem isTokenText_readSome (count : ℕ) (text : List Char) (hcount : text.length ≤ count)
    (h : ∀ token ∈ readSome count text, token.isLast = false) : IsTokenText (readSome count text) text := by
  have hspace : ∀ c ∈ text.takeWhile isSpace, isSpace c = true := fun c hc => List.mem_takeWhile_imp hc
  induction count generalizing text with
  | zero =>
    have hnil : text = [] := List.length_eq_zero_iff.1 (Nat.le_zero.1 hcount)
    rw [hnil]
    exact .done (List.forall_mem_nil _)
  | succ count ih =>
    have hsplit := List.takeWhile_append_dropWhile (p := isSpace) (l := text)
    rw [readSome] at h ⊢
    cases hdrop : text.dropWhile isSpace with
    | nil =>
      rw [hdrop, List.append_nil] at hsplit
      rw [hsplit] at hspace
      exact .done hspace
    | cons c rest =>
      rw [hdrop] at hsplit h
      cases hfrom : readFrom c rest with
      | mk token after =>
        simp only [hfrom] at h ⊢
        have hlast : token.isLast = false := h token List.mem_cons_self
        rw [hlast, if_neg Bool.false_ne_true] at h ⊢
        obtain ⟨tail, rfl, hspells, hdigits⟩ := spells_readFrom hfrom hlast
        have hlength := congrArg List.length hsplit
        simp only [List.length_append, List.length_cons] at hlength
        have hafter := ih after (by omega) (fun token ht => h token (List.mem_cons_of_mem _ ht))
          fun c hc => List.mem_takeWhile_imp hc
        have hends : (∃ n, token = .number n) → EndsNumber after := fun hnumber c hc =>
          ⟨hdigits hnumber c hc, hafter.head c hc⟩
        have htext := IsTokenText.token hspace hspells hends hafter
        rwa [List.append_assoc, List.cons_append, hsplit] at htext

/-- A text is made of the texts of its tokens, if none of them has a fault. -/
theorem isTokenText_ofText {text : String} (h : ∀ token ∈ ofText text, token.isLast = false) :
    IsTokenText (ofText text) text.toList := isTokenText_readSome _ _ le_rfl h

end Token

end CallOrder.Json
