import CallOrder.Proofs.Components
import CallOrder.Proofs.Conventions

/-! Tokens as names. A token is cut before it is put in lowercase, so it can have boundaries of its own: those at
capitals without a lowercase form, at Roman numerals, and at the dot of a dotted capital I. Any other token, read as a
name, is its own only token. -/
namespace CallOrder.Identifier

/-- Neighbours whose lowercase forms have no boundary between them. -/
structure StaysTogether (c d : Char) : Prop where
  number : Text.isNumeric c = true ↔ Text.isNumeric d = true
  rigid : IsRigid d → IsRigid c

section Boundaries
variable {c d c' d' : Char}

private theorem areApart_iff (hc : ¬ Separates c) (hd : ¬ Separates d) :
    AreApart c d ↔ ¬ IsDigit c ∧ ¬ IsCapital c ∧ IsCapital d ∨ ¬ (IsDigit c ↔ IsDigit d) := by
  rw [← isSeparator_iff, isSeparator, beq_iff_eq] at hc hd
  simp only [← isBoundary_iff, isBoundary, ← charKind_eq_digit, ← charKind_eq_upper]
  revert hc hd
  cases charKind c <;> cases charKind d <;> simp [CharKind.endsBefore]

/-- Where two characters meet, their lowercase forms meet without a boundary exactly if they stay together. -/
theorem LowersAs.not_areApart_iff (h : LowersAs c c') (h' : LowersAs d d') (hc : ¬ Separates c) (hd : ¬ Separates d) :
    ¬ AreApart c' d' ↔ StaysTogether c d := by
  have hnumber : IsCapital d' → ¬ IsDigit d' := fun hcapital hdigit => hdigit.2 hcapital
  rw [areApart_iff (h.solid hc) (h'.solid hd), h.isDigit_iff, h'.isDigit_iff, h.isCapital_iff, h'.isCapital_iff]
  rw [h'.isDigit_iff, h'.isCapital_iff] at hnumber
  constructor
  · intro hn
    exact ⟨by tauto, by tauto⟩
  · rintro ⟨hn, hrigid⟩
    tauto

end Boundaries

section Pieces
variable {piece word text : List Char}

theorem isPiece_of_mem_pieces (h : piece ∈ pieces text) : IsPiece piece := by
  rw [← Segmentation.pieces_ofText] at h
  obtain ⟨part, hpart, rfl⟩ := List.mem_map.1 h
  exact ((Segmentation.ofText_isOf text).parts part hpart).toIsPiece

private theorem isChain_lowercase_iff (h : List.Forall₂ LowersAs piece word) (hsolid : ∀ c ∈ piece, ¬ Separates c) :
    (word.IsChain fun c d => ¬ AreApart c d) ↔ piece.IsChain StaysTogether := by
  induction h with
  | nil => exact iff_of_true .nil .nil
  | @cons c c' piece word hc hpiece ih =>
    obtain ⟨hsep, hsolid⟩ := List.forall_mem_cons.1 hsolid
    cases hpiece with
    | nil => exact iff_of_true (.singleton _) (.singleton _)
    | cons hd _ =>
      rw [List.isChain_cons_cons, List.isChain_cons_cons, ih hsolid,
        hc.not_areApart_iff hd hsep (hsolid _ List.mem_cons_self)]

private theorem solid_lowercase (h : List.Forall₂ LowersAs piece word) (hsolid : ∀ c ∈ piece, ¬ Separates c) :
    ∀ d ∈ word, ¬ Separates d := by
  induction h with
  | nil => exact List.forall_mem_nil _
  | cons hc _ ih =>
    obtain ⟨hsep, hsolid⟩ := List.forall_mem_cons.1 hsolid
    exact List.forall_mem_cons.2 ⟨hc.solid hsep, ih hsolid⟩

/-- Only the dot of a dotted capital I is a separator in a piece that is put in lowercase. -/
theorem solid_lowercase_iff (h : IsPiece piece) : (∀ d ∈ Text.lowercase piece, ¬ Separates d) ↔ 'İ' ∉ piece := by
  constructor
  · intro hsolid hdotted
    exact hsolid _ (dot_mem_lowercase hdotted) (by decide +kernel)
  · exact fun hplain => solid_lowercase (lowercase_lowersAs hplain) h.solid

theorem isPiece_lowercase_iff (h : IsPiece piece) :
    IsPiece (Text.lowercase piece) ↔ 'İ' ∉ piece ∧ piece.IsChain StaysTogether := by
  constructor
  · intro hlower
    have hplain := (solid_lowercase_iff h).1 hlower.solid
    exact ⟨hplain, (isChain_lowercase_iff (lowercase_lowersAs hplain) h.solid).1 hlower.whole⟩
  · rintro ⟨hplain, hchain⟩
    have hlowers := lowercase_lowersAs hplain
    refine ⟨fun hnil => ?_, (solid_lowercase_iff h).2 hplain, (isChain_lowercase_iff hlowers h.solid).2 hchain⟩
    rw [hnil, List.forall₂_nil_right_iff] at hlowers
    exact h.nonempty hlowers

end Pieces

/-- A text in lowercase is its own only token exactly if it is a piece. -/
theorem tokens_eq_singleton_iff {token : String} (h : ∀ c ∈ token.toList, LowersTo c c) :
    tokens token = [token] ↔ IsPiece token.toList := by
  constructor
  · intro heq
    obtain ⟨piece, hpiece, hlower⟩ := List.map_eq_singleton_iff.1 heq
    -- the piece leaves out separators only, and its characters are in lowercase as those of the token are
    have hflat := (Segmentation.ofText_isOf token.toList).flatten_pieces
    rw [Segmentation.pieces_ofText, hpiece, List.flatten_singleton] at hflat
    have hsettled : Text.lowercase piece = piece :=
      lowercase_of_settled fun c hc => h c (List.mem_of_mem_filter (hflat ▸ hc))
    rw [← hlower, String.toList_ofList, hsettled]
    exact isPiece_of_mem_pieces (hpiece ▸ List.mem_singleton_self piece)
  · intro hpiece
    have hends : EndsBefore token.toList "".toList := fun d hd => by cases hd
    have hspells : Spells token token := ⟨hpiece, lowercase_of_settled h⟩
    rw [← String.append_empty (s := token), tokens_written hspells hends, String.append_empty]
    rfl

/-- A token and the piece it comes from: what is in lowercase in it, what divides it, and when it is read as itself. -/
structure ReadsAgain (piece : List Char) (token : String) : Prop where
  token_eq : token = String.ofList (Text.lowercase piece)
  settled : Text.lowercase token.toList = token.toList
  solid_iff : (∀ c ∈ token.toList, ¬ Separates c) ↔ 'İ' ∉ piece
  tokens_iff : tokens token = [token] ↔ 'İ' ∉ piece ∧ piece.IsChain StaysTogether
  morphemes_eq : tokens token = [token] → ∀ policy : MorphemePolicy, policy.keeps token = true →
    (policy.morphemes token).toList = [token]

theorem IsPiece.readsAgain {piece : List Char} (h : IsPiece piece) :
    ReadsAgain piece (String.ofList (Text.lowercase piece)) := by
  have hsettled : ∀ c ∈ (String.ofList (Text.lowercase piece)).toList, LowersTo c c := by
    rw [String.toList_ofList]
    exact fun _ => lowersTo_of_mem_lowercase
  refine ⟨rfl, ?_, ?_, ?_, fun hself policy hkeeps => ?_⟩
  · rw [String.toList_ofList, lowercase_lowercase]
  · rw [String.toList_ofList, solid_lowercase_iff h]
  · rw [tokens_eq_singleton_iff hsettled, String.toList_ofList, isPiece_lowercase_iff h]
  · rw [MorphemePolicy.morphemes, hself, List.filter_singleton, hkeeps]
    rfl

/-- Every token is in lowercase. Read as a name it is its own only token exactly if its piece has no dotted capital I,
no capital without a lowercase form after a character that is no such capital, and no number beside a character that is
none. -/
theorem tokens_read_again (name : String) : List.Forall₂ ReadsAgain (pieces name.toList) (tokens name) := by
  rw [tokens, List.forall₂_map_right_iff, List.forall₂_same]
  exact fun piece hpiece => (isPiece_of_mem_pieces hpiece).readsAgain

/-- A bold capital has no lowercase form, so there is a boundary before it once the letter before it is small. -/
theorem tokens_not_normal : ¬ ∀ name, ∀ token ∈ tokens name, tokens token = [token] := by
  intro h
  have hmem : "x𝐀" ∈ tokens "X𝐀" := by decide +kernel
  exact absurd (h _ _ hmem) (by decide +kernel)

end CallOrder.Identifier
