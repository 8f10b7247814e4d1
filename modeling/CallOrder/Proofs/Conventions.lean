import CallOrder.Proofs.Lowercase

/-! Naming conventions. However the words of a name are put together, with separators between them or with capitals at
their starts, its tokens are these words. -/
namespace CallOrder.Identifier

def IsLetters (word : String) : Prop := word ≠ "" ∧ ∀ c ∈ word.toList, c.isLower = true

def IsDigits (word : String) : Prop := word ≠ "" ∧ ∀ c ∈ word.toList, c.isDigit = true

/-- A word that names are made of: a run of small letters or of digits, all in ASCII. -/
def IsWord (word : String) : Prop := IsLetters word ∨ IsDigits word

/-- A text of separators only. -/
def IsGap (gap : String) : Prop := ∀ c ∈ gap.toList, Separates c

instance (word : String) : Decidable (IsLetters word) :=
  decidable_of_iff (word ≠ "" ∧ word.toList.all Char.isLower = true) (and_congr_right' List.all_eq_true)

instance (word : String) : Decidable (IsDigits word) :=
  decidable_of_iff (word ≠ "" ∧ word.toList.all Char.isDigit = true) (and_congr_right' List.all_eq_true)

instance (word : String) : Decidable (IsWord word) := inferInstanceAs (Decidable (_ ∨ _))

instance (gap : String) : Decidable (IsGap gap) :=
  decidable_of_iff (gap.toList.all isSeparator = true)
    (List.all_eq_true.trans (forall₂_congr fun _ _ => isSeparator_iff))

/-- The separators of a name: before its words, after each word that is not the last, and at the end. -/
structure Separators where
  lead : String
  gap : ℕ → String
  trail : String
  lead_isGap : IsGap lead
  gap_isGap : ∀ n, IsGap (gap n)
  gap_nonempty : ∀ n, gap n ≠ ""
  trail_isGap : IsGap trail

/-- Words in a row, with a gap after each that is not the last. -/
def between (gap : ℕ → String) : List String → String
  | [] => ""
  | [word] => word
  | word :: next :: rest => word ++ (gap 0 ++ between (fun n => gap (n + 1)) (next :: rest))

def Separators.join (separators : Separators) (words : List String) : String :=
  separators.lead ++ between separators.gap words ++ separators.trail

/-- A word with a capital first; a word of digits stays as it is. -/
def capitalize (word : String) : String := String.ofList (word.toList.modifyHead Char.toUpper)

def pascalCase (words : List String) : String := String.join (words.map capitalize)

def camelCase : List String → String
  | [] => ""
  | first :: rest => first ++ pascalCase rest

/-- No two words of digits are neighbours: they would run into one. -/
def NoDigitsMeet (words : List String) : Prop := words.IsChain fun word next => ¬ (IsDigits word ∧ IsDigits next)

/-- No word of one letter stands before another word of letters: as capitals they would run into one. -/
def NoCapitalsMeet (words : List String) : Prop :=
  words.IsChain fun word next => ¬ (IsLetters word ∧ word.length = 1 ∧ IsLetters next)

instance (words : List String) : Decidable (NoDigitsMeet words) := inferInstanceAs (Decidable (List.IsChain _ _))

instance (words : List String) : Decidable (NoCapitalsMeet words) := inferInstanceAs (Decidable (List.IsChain _ _))

section Pieces
variable {piece text gap : List Char}

theorem pieces_gap (h : ∀ c ∈ gap, Separates c) (text : List Char) : pieces (gap ++ text) = pieces text := by
  induction gap with
  | nil => rfl
  | cons c gap ih =>
    obtain ⟨hc, hgap⟩ := List.forall_mem_cons.1 h
    rw [List.cons_append, pieces, addChar_separator hc, ih hgap]

theorem pieces_piece (h : IsPiece piece) (hends : EndsBefore piece text) :
    pieces (piece ++ text) = piece :: pieces text := by
  induction piece with
  | nil => exact absurd rfl h.nonempty
  | cons c piece ih =>
    cases piece with
    | nil => exact addChar_alone (h.solid c List.mem_cons_self) hends
    | cons d piece =>
      obtain ⟨hc, hcd, hpiece⟩ := isPiece_cons.1 h
      have hrest : EndsBefore (d :: piece) text := by
        rwa [EndsBefore, List.getLast?_cons_cons] at hends
      rw [List.cons_append, pieces, ih hpiece hrest]
      exact addChar_joined hc (hpiece.solid d List.mem_cons_self) hcd

end Pieces

/-- A way to write a word: one piece, and the word in lowercase. -/
structure Spells (written word : String) : Prop extends IsPiece written.toList where
  lowercase_eq : Text.lowercase written.toList = word.toList

section Tokens
variable {gap written word rest : String}

theorem tokens_gap (h : IsGap gap) (rest : String) : tokens (gap ++ rest) = tokens rest := by
  rw [tokens, tokens, String.toList_append, pieces_gap h]

private theorem tokens_of_isGap (h : IsGap gap) : tokens gap = [] := by
  rw [← String.append_empty (s := gap), tokens_gap h]
  rfl

theorem tokens_written (h : Spells written word) (hends : EndsBefore written.toList rest.toList) :
    tokens (written ++ rest) = word :: tokens rest := by
  rw [tokens, tokens, String.toList_append, pieces_piece h.toIsPiece hends, List.map_cons, h.lowercase_eq,
    String.ofList_toList]

end Tokens

section Written
variable {written words : List String}

private theorem tokens_between {gap : ℕ → String} (hgap : ∀ n, IsGap (gap n)) (hne : ∀ n, gap n ≠ "")
    {trail : String} (htrail : IsGap trail) (h : List.Forall₂ Spells written words) :
    tokens (between gap written ++ trail) = words := by
  have hend := tokens_of_isGap htrail
  -- the gaps after the first word are a sequence of their own
  induction h generalizing gap with
  | nil => rw [between, String.empty_append, hend]
  | @cons writing word rest others hword hrest ih =>
    cases rest with
    | nil =>
      cases hrest
      have hends : EndsBefore writing.toList (trail.toList ++ []) := endsBefore_gap htrail (.inr rfl)
      rw [List.append_nil] at hends
      rw [between, tokens_written hword hends, hend]
    | cons next rest =>
      have hnext := ih (fun n => hgap (n + 1)) (fun n => hne (n + 1))
      have hends (others : String) : EndsBefore writing.toList (gap 0 ++ others).toList := by
        rw [String.toList_append]
        exact endsBefore_gap (hgap 0) (.inl (by simpa using hne 0))
      rw [between, String.append_assoc, String.append_assoc, tokens_written hword (hends _), tokens_gap (hgap 0), hnext]

/-- Words with separators between them, in whatever way each is written. -/
theorem tokens_join (separators : Separators) (h : List.Forall₂ Spells written words) :
    tokens (separators.join written) = words := by
  rw [Separators.join, String.append_assoc, tokens_gap separators.lead_isGap]
  exact tokens_between separators.gap_isGap separators.gap_nonempty separators.trail_isGap h

/-- Words that are put together as they stand, when each ends where the next begins. -/
theorem tokens_runTogether (h : List.Forall₂ Spells written words)
    (hends : written.IsChain fun word next => EndsBefore word.toList next.toList) :
    tokens (String.join written) = words := by
  induction h with
  | nil => rfl
  | @cons writing word rest others hword hrest ih =>
    obtain ⟨hfirst, hothers⟩ := List.isChain_cons.1 hends
    have hbefore : EndsBefore writing.toList (String.join rest).toList := by
      cases hrest with
      | nil => exact fun d hd => by cases hd
      | @cons next _ rest _ hnext _ =>
        rw [EndsBefore, String.toList_join, List.flatMap_cons, List.head?_append_of_ne_nil _ hnext.nonempty]
        exact hfirst next rfl
    rw [String.join_cons, tokens_written hword hbefore, ih hothers]

end Written

/-- A word with its first letters as capitals. -/
def raise (n : ℕ) (word : String) : String :=
  String.ofList ((word.toList.take n).map Char.toUpper ++ word.toList.drop n)

section Characters
variable {c : Char}

private theorem isSmall_of_isLower (h : c.isLower = true) :
    IsSmall c ∧ IsCapital c.toUpper ∧ LowersTo c c ∧ LowersTo c.toUpper c := by
  have hle : c.val ≤ 'z'.val := of_decide_eq_true ((Bool.and_eq_true_iff).1 h).2
  have hlt : c.toNat < 128 := lt_of_le_of_lt (UInt32.le_iff_toNat_le.1 hle) (by decide)
  rw [← charKind_eq_letter, ← charKind_eq_upper]
  exact of_ascii (p := fun c => c.isLower = true → charKind c = .letter ∧ charKind c.toUpper = .upper ∧
    (c ≠ 'Σ' ∧ Text.lowercaseChar c = [c]) ∧ c.toUpper ≠ 'Σ' ∧ Text.lowercaseChar c.toUpper = [c])
    (by decide +kernel) hlt h

private theorem isDigit_of_isDigit (h : c.isDigit = true) : IsDigit c ∧ c.toUpper = c ∧ LowersTo c c := by
  have hlt : c.toNat < 128 := lt_of_le_of_lt (Char.isDigit_iff_toNat.1 h).2 (by decide)
  rw [← charKind_eq_digit]
  exact of_ascii (p := fun c => c.isDigit = true → charKind c = .digit ∧ c.toUpper = c ∧
    c ≠ 'Σ' ∧ Text.lowercaseChar c = [c]) (by decide +kernel) hlt h

end Characters

section Kinds
variable {c d : Char}

private theorem not_isDigit_of_isLetter (h : IsLetter c) : ¬ IsDigit c := by
  rintro ⟨hnumeric, hcapital⟩
  rcases h with h | h
  · exact hcapital h
  · exact h.2.1 hnumeric

private theorem not_areApart_letters (hc : IsLetter c) (hd : IsLetter d) (h : IsCapital c ∨ IsSmall d) :
    ¬ AreApart c d := by
  rintro (⟨hsmall, hcapital⟩ | ⟨hdigit, -⟩ | ⟨-, hdigit⟩)
  · exact h.elim hsmall.2.2 fun h => h.2.2 hcapital
  · exact not_isDigit_of_isLetter hc hdigit
  · exact not_isDigit_of_isLetter hd hdigit

private theorem not_areApart_digits (hc : IsDigit c) (hd : IsDigit d) : ¬ AreApart c d := by
  rintro (⟨-, hcapital⟩ | ⟨-, hletter⟩ | ⟨hletter, -⟩)
  · exact hd.2 hcapital
  · exact not_isDigit_of_isLetter hletter hd
  · exact not_isDigit_of_isLetter hletter hc

end Kinds

section Raised
variable {c : Char} {word next : String} {n : ℕ}

theorem raise_zero (word : String) : raise 0 word = word := by
  rw [raise, List.take_zero, List.map_nil, List.nil_append, List.drop_zero, String.ofList_toList]

theorem raise_one (word : String) : raise 1 word = capitalize word := by
  rw [raise, capitalize]
  cases word.toList <;> rfl

theorem raise_length (word : String) : raise word.length word = word.toUpper := by
  rw [← String.toList_inj, String.toUpper, String.toList_map, raise, String.toList_ofList, ← String.length_toList,
    List.take_length, List.drop_length, List.append_nil]

private theorem toList_ne_nil (h : word ≠ "") : word.toList ≠ [] := by
  rwa [ne_eq, String.toList_eq_nil_iff]

private theorem toList_raise_ne_nil (h : word ≠ "") : (raise n word).toList ≠ [] := by
  rw [raise, String.toList_ofList]
  intro hnil
  have hlength := congrArg List.length hnil
  rw [List.length_append, List.length_map, ← List.length_append, List.take_append_drop] at hlength
  exact toList_ne_nil h (List.length_eq_zero_iff.1 hlength)

private theorem raise_digits (h : IsDigits word) : raise n word = word := by
  have hsame : (word.toList.take n).map Char.toUpper = word.toList.take n :=
    (List.map_congr_left fun c hc => (isDigit_of_isDigit (h.2 c (List.mem_of_mem_take hc))).2.1).trans (List.map_id _)
  rw [raise, hsame, List.take_append_drop, String.ofList_toList]

/-- A word of letters keeps its order of kinds when its first letters are raised: capitals, then small letters. -/
private theorem forall_mem_raise_letters (h : IsLetters word) (n : ℕ) :
    (∀ c ∈ (word.toList.take n).map Char.toUpper, IsCapital c) ∧ ∀ c ∈ word.toList.drop n, IsSmall c := by
  refine ⟨fun c hc => ?_, fun c hc => (isSmall_of_isLower (h.2 c (List.mem_of_mem_drop hc))).1⟩
  obtain ⟨d, hd, rfl⟩ := List.mem_map.1 hc
  exact (isSmall_of_isLower (h.2 d (List.mem_of_mem_take hd))).2.1

private theorem isLetter_of_mem_raise (h : IsLetters word) (hc : c ∈ (raise n word).toList) : IsLetter c := by
  obtain ⟨hcapital, hsmall⟩ := forall_mem_raise_letters h n
  rw [raise, String.toList_ofList, List.mem_append] at hc
  exact hc.imp (hcapital c) (hsmall c)

private theorem spells_letters (h : IsLetters word) (n : ℕ) : Spells (raise n word) word := by
  obtain ⟨hcapital, hsmall⟩ := forall_mem_raise_letters h n
  refine ⟨⟨toList_raise_ne_nil h.1, fun c hc hsep => hsep.1 (isLetter_of_mem_raise h hc), ?_⟩, ?_⟩
  · rw [raise, String.toList_ofList]
    refine (List.pairwise_append.2 ⟨?_, ?_, fun c hc d hd => ?_⟩).isChain
    · exact List.pairwise_of_forall_mem_list fun c hc d hd =>
        not_areApart_letters (.inl (hcapital c hc)) (.inl (hcapital d hd)) (.inl (hcapital c hc))
    · exact List.pairwise_of_forall_mem_list fun c hc d hd =>
        not_areApart_letters (.inr (hsmall c hc)) (.inr (hsmall d hd)) (.inr (hsmall d hd))
    · exact not_areApart_letters (.inl (hcapital c hc)) (.inr (hsmall d hd)) (.inl (hcapital c hc))
  · apply lowercase_of_lowersTo
    rw [raise, String.toList_ofList]
    nth_rewrite 3 [← List.take_append_drop n word.toList]
    apply List.rel_append
    · rw [List.forall₂_map_left_iff, List.forall₂_same]
      exact fun c hc => (isSmall_of_isLower (h.2 c (List.mem_of_mem_take hc))).2.2.2
    · rw [List.forall₂_same]
      exact fun c hc => (isSmall_of_isLower (h.2 c (List.mem_of_mem_drop hc))).2.2.1

private theorem spells_digits (h : IsDigits word) : Spells word word := by
  have hdigit := fun c hc => (isDigit_of_isDigit (h.2 c hc)).1
  refine ⟨⟨toList_ne_nil h.1, fun c hc hsep => hsep.2 (hdigit c hc), ?_⟩, ?_⟩
  · exact (List.pairwise_of_forall_mem_list fun c hc d hd => not_areApart_digits (hdigit c hc) (hdigit d hd)).isChain
  · exact lowercase_of_lowersTo (List.forall₂_same.2 fun c hc => (isDigit_of_isDigit (h.2 c hc)).2.2)

/-- However many of its letters are raised, a word is still written. -/
theorem spells_raise (h : IsWord word) (n : ℕ) : Spells (raise n word) word := by
  rcases h with h | h
  · exact spells_letters h n
  · rw [raise_digits h]
    exact spells_digits h

private theorem getLast_letters (h : IsLetters word) (hn : n < word.length) :
    ∃ c ∈ (raise n word).toList.getLast?, IsSmall c := by
  rw [← String.length_toList] at hn
  have hdrop : word.toList.drop n ≠ [] := List.drop_eq_nil_iff.not.2 (not_le.2 hn)
  rw [raise, String.toList_ofList, List.getLast?_append_of_ne_nil _ hdrop, List.getLast?_eq_some_getLast hdrop]
  exact ⟨_, rfl, (forall_mem_raise_letters h n).2 _ (List.getLast_mem hdrop)⟩

private theorem head_capitalize (h : IsWord next) :
    ∀ d ∈ (capitalize next).toList.head?, IsLetters next ∧ IsCapital d ∨ IsDigits next ∧ IsDigit d := by
  intro d hd
  rcases h with h | h
  · left
    rw [capitalize, String.toList_ofList, List.head?_modifyHead] at hd
    obtain ⟨c, hc, rfl⟩ := Option.map_eq_some_iff.1 hd
    exact ⟨h, (isSmall_of_isLower (h.2 c (List.mem_of_mem_head? hc))).2.1⟩
  · right
    rw [← raise_one, raise_digits h] at hd
    exact ⟨h, (isDigit_of_isDigit (h.2 d (List.mem_of_mem_head? hd))).1⟩

/-- A word ends before a capitalized one, unless both are digits or both are letters and the word is all capitals. -/
private theorem endsBefore_capitalize (hword : IsWord word) (hnext : IsWord next)
    (hdigits : ¬ (IsDigits word ∧ IsDigits next)) (hletters : IsLetters word → IsLetters next → n < word.length) :
    EndsBefore (raise n word).toList (capitalize next).toList := by
  intro d hd
  right
  have hne := (spells_raise hword n).nonempty
  have hlast := List.getLast?_eq_some_getLast hne
  have hmem := List.getLast_mem hne
  rcases hword with hword | hword <;> rcases head_capitalize hnext d hd with ⟨hnext, hd⟩ | ⟨hnext, hd⟩
  · obtain ⟨c, hc, hsmall⟩ := getLast_letters hword (hletters hword hnext)
    exact ⟨c, hc, .capital hsmall hd⟩
  · exact ⟨_, hlast, .digit (isLetter_of_mem_raise hword hmem) hd⟩
  · simp only [raise_digits hword] at hlast hmem ⊢
    exact ⟨_, hlast, .letter (isDigit_of_isDigit (hword.2 _ hmem)).1 (.inl hd)⟩
  · exact absurd ⟨hword, hnext⟩ hdigits

theorem spells_word (h : IsWord word) : Spells word word := by
  have hzero := spells_raise h 0
  rwa [raise_zero] at hzero

theorem spells_toUpper (h : IsWord word) : Spells word.toUpper word := by
  rw [← raise_length]
  exact spells_raise h _

theorem spells_capitalize (h : IsWord word) : Spells (capitalize word) word := by
  rw [← raise_one]
  exact spells_raise h 1

end Raised

section Names
variable {words : List String}

private theorem length_pos (h : IsWord word) : 0 < word.length := by
  rw [← String.length_toList]
  exact List.length_pos_iff.2 (h.elim (fun h => toList_ne_nil h.1) fun h => toList_ne_nil h.1)

private theorem capitalized_ends (h : ∀ word ∈ words, IsWord word) (hdigits : NoDigitsMeet words)
    (hcapitals : NoCapitalsMeet words) :
    (words.map capitalize).IsChain fun word next => EndsBefore word.toList next.toList := by
  induction words with
  | nil => exact .nil
  | cons word rest ih =>
    cases rest with
    | nil => exact .singleton _
    | cons next rest =>
      obtain ⟨hword, hrest⟩ := List.forall_mem_cons.1 h
      obtain ⟨hd, hdigits⟩ := List.isChain_cons_cons.1 hdigits
      obtain ⟨hc, hcapitals⟩ := List.isChain_cons_cons.1 hcapitals
      have hlong : IsLetters word → IsLetters next → 1 < word.length := fun hw hn =>
        lt_of_le_of_ne (length_pos hword) fun hone => hc ⟨hw, hone.symm, hn⟩
      refine List.isChain_cons_cons.2 ⟨?_, ih hrest hdigits hcapitals⟩
      rw [← raise_one word]
      exact endsBefore_capitalize hword (hrest next List.mem_cons_self) hd hlong

private theorem spelled_words (h : ∀ word ∈ words, IsWord word) : List.Forall₂ Spells words words :=
  List.forall₂_same.2 fun word hword => spells_word (h word hword)

private theorem spelled_capitals (h : ∀ word ∈ words, IsWord word) :
    List.Forall₂ Spells (words.map String.toUpper) words :=
  List.forall₂_map_left_iff.2 (List.forall₂_same.2 fun word hword => spells_toUpper (h word hword))

private theorem spelled_capitalized (h : ∀ word ∈ words, IsWord word) :
    List.Forall₂ Spells (words.map capitalize) words :=
  List.forall₂_map_left_iff.2 (List.forall₂_same.2 fun word hword => spells_capitalize (h word hword))

theorem tokens_pascalCase (h : ∀ word ∈ words, IsWord word) (hdigits : NoDigitsMeet words)
    (hcapitals : NoCapitalsMeet words) : tokens (pascalCase words) = words :=
  tokens_runTogether (spelled_capitalized h) (capitalized_ends h hdigits hcapitals)

theorem tokens_camelCase (h : ∀ word ∈ words, IsWord word) (hdigits : NoDigitsMeet words)
    (hcapitals : NoCapitalsMeet words.tail) : tokens (camelCase words) = words := by
  cases words with
  | nil => rfl
  | cons first rest =>
    obtain ⟨hfirst, hrest⟩ := List.forall_mem_cons.1 h
    obtain ⟨hd, hdigits⟩ := List.isChain_cons.1 hdigits
    rw [camelCase, pascalCase, ← String.join_cons]
    refine tokens_runTogether (.cons (spells_word hfirst) (spelled_capitalized hrest)) (List.isChain_cons.2 ⟨?_, ?_⟩)
    · intro next hnext
      rw [List.head?_map] at hnext
      obtain ⟨second, hsecond, rfl⟩ := Option.map_eq_some_iff.1 hnext
      rw [← raise_zero first]
      exact endsBefore_capitalize hfirst (hrest second (List.mem_of_mem_head? hsecond)) (hd second hsecond)
        fun _ _ => length_pos hfirst
    · exact capitalized_ends hrest hdigits hcapitals

/-- The same separator between all words, and none around them. -/
def Separators.same (gap : String) (hne : gap ≠ "") (h : IsGap gap) : Separators where
  lead := ""
  gap _ := gap
  trail := ""
  lead_isGap := by simp [IsGap]
  gap_isGap _ := h
  gap_nonempty _ := hne
  trail_isGap := by simp [IsGap]

theorem Separators.join_same {gap : String} (hne : gap ≠ "") (h : IsGap gap) (words : List String) :
    (Separators.same gap hne h).join words = gap.intercalate words := by
  have hbetween : between (fun _ => gap) words = gap.intercalate words := by
    induction words with
    | nil => rfl
    | cons word rest ih =>
      cases rest with
      | nil => exact String.intercalate_singleton.symm
      | cons next rest => rw [between, ih, String.intercalate_cons_cons, String.append_assoc]
  rw [join, same, hbetween, String.empty_append, String.append_empty]

/-- The tokens of a name are the words it is made of: if separators stand between them, in small letters or in capitals,
and if their first letters are capitals and no two of them run into one. -/
theorem naming_conventions_interchangeable (words : List String) (h : ∀ word ∈ words, IsWord word) :
    (∀ separators : Separators, tokens (separators.join words) = words ∧
      tokens (separators.join (words.map String.toUpper)) = words) ∧
    (∀ separator ∈ ["_", "-", ".", "::", "->"], tokens (separator.intercalate words) = words ∧
      tokens (separator.intercalate (words.map String.toUpper)) = words) ∧
    (NoDigitsMeet words → NoCapitalsMeet words.tail → tokens (camelCase words) = words) ∧
    (NoDigitsMeet words → NoCapitalsMeet words → tokens (pascalCase words) = words) := by
  have hjoin (separators : Separators) : tokens (separators.join words) = words ∧
      tokens (separators.join (words.map String.toUpper)) = words :=
    ⟨tokens_join separators (spelled_words h), tokens_join separators (spelled_capitals h)⟩
  refine ⟨hjoin, fun separator hseparator => ?_, tokens_camelCase h, tokens_pascalCase h⟩
  have hall : ∀ gap ∈ ["_", "-", ".", "::", "->"], gap ≠ "" ∧ IsGap gap := by decide +kernel
  obtain ⟨hne, hgap⟩ := hall separator hseparator
  rw [← Separators.join_same hne hgap, ← Separators.join_same hne hgap]
  exact hjoin _

/-- Separators of several kinds, the first gap another than the rest. -/
def mixedSeparators : Separators where
  lead := "__"
  gap n := if n = 0 then "->" else "._"
  trail := "-"
  lead_isGap := by decide +kernel
  gap_isGap n := by split <;> decide +kernel
  gap_nonempty n := by split <;> decide
  trail_isGap := by decide +kernel

theorem naming_conventions_interchangeable_decoder :
    let words := ["utf", "8", "x", "2", "decoder"]
    (∀ word ∈ words, IsWord word) ∧ NoDigitsMeet words ∧ NoCapitalsMeet words ∧
      mixedSeparators.join (words.map String.toUpper) = "__UTF->8._X._2._DECODER-" ∧
      tokens "__UTF->8._X._2._DECODER-" = words ∧ tokens "utf::8::x::2::decoder" = words ∧
      camelCase words = "utf8X2Decoder" ∧ tokens "utf8X2Decoder" = words ∧ tokens "Utf8X2Decoder" = words := by
  intro words
  have hwords : ∀ word ∈ words, IsWord word := by decide +kernel
  have hdigits : NoDigitsMeet words := by decide +kernel
  have hcapitals : NoCapitalsMeet words := by decide +kernel
  have hmixed : mixedSeparators.join (words.map String.toUpper) = "__UTF->8._X._2._DECODER-" := by decide +kernel
  have hcolons : "::".intercalate words = "utf::8::x::2::decoder" := by decide +kernel
  have hcamel : camelCase words = "utf8X2Decoder" := by decide +kernel
  have hpascal : pascalCase words = "Utf8X2Decoder" := by decide +kernel
  obtain ⟨hjoin, hsame, hcamels, hpascals⟩ := naming_conventions_interchangeable words hwords
  refine ⟨hwords, hdigits, hcapitals, hmixed, ?_, ?_, hcamel, ?_, ?_⟩
  · rw [← hmixed]
    exact (hjoin mixedSeparators).2
  · rw [← hcolons]
    exact (hsame "::" (by decide)).1
  · rw [← hcamel]
    exact hcamels hdigits hcapitals.tail
  · rw [← hpascal]
    exact hpascals hdigits hcapitals

end Names

end CallOrder.Identifier
