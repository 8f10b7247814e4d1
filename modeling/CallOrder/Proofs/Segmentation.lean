import CallOrder.Identifier
import Mathlib.Data.List.Chain

/-! The segmentation of an identifier. A text can be cut in one way only so that the pieces are as long as its
separators and boundaries allow; the tokens are these pieces in lowercase. -/
namespace CallOrder.Identifier

/-- A capital, whatever else the character is. -/
def IsCapital (c : Char) : Prop := Text.isUppercase c = true

/-- A digit, or another number. -/
def IsDigit (c : Char) : Prop := Text.isNumeric c = true ∧ ¬ IsCapital c

/-- A lowercase letter; a letter without case counts as one. -/
def IsSmall (c : Char) : Prop := Text.isAlphabetic c = true ∧ ¬ Text.isNumeric c = true ∧ ¬ IsCapital c

def IsLetter (c : Char) : Prop := IsCapital c ∨ IsSmall c

/-- A character that belongs to no piece. -/
def Separates (c : Char) : Prop := ¬ IsLetter c ∧ ¬ IsDigit c

/-- Two characters that do not belong to one piece. -/
inductive AreApart (c d : Char) : Prop where
  | capital (h : IsSmall c) (h' : IsCapital d)
  | letter (h : IsDigit c) (h' : IsLetter d)
  | digit (h : IsLetter c) (h' : IsDigit d)

/-- What the rules of identifiers ask of a piece. -/
structure IsPiece (piece : List Char) : Prop where
  nonempty : piece ≠ []
  solid : ∀ c ∈ piece, ¬ Separates c
  whole : piece.IsChain fun c d => ¬ AreApart c d

section Kinds
variable {c d : Char}

theorem charKind_eq_upper : charKind c = .upper ↔ IsCapital c := by
  unfold charKind IsCapital
  split_ifs with h₁ h₂ h₃ <;> simp [h₁]

theorem charKind_eq_digit : charKind c = .digit ↔ IsDigit c := by
  unfold charKind IsDigit IsCapital
  split_ifs with h₁ h₂ h₃ <;> simp [*]

theorem charKind_eq_letter : charKind c = .letter ↔ IsSmall c := by
  unfold charKind IsSmall IsCapital
  split_ifs with h₁ h₂ h₃ <;> simp [*]

theorem isSeparator_iff : isSeparator c = true ↔ Separates c := by
  rw [isSeparator, beq_iff_eq, Separates, IsLetter, ← charKind_eq_upper, ← charKind_eq_letter, ← charKind_eq_digit]
  cases charKind c <;> simp

theorem isBoundary_iff : isBoundary c d = true ↔ AreApart c d := by
  have happart : AreApart c d ↔ IsSmall c ∧ IsCapital d ∨ IsDigit c ∧ IsLetter d ∨ IsLetter c ∧ IsDigit d := by
    constructor
    · rintro (⟨h, h'⟩ | ⟨h, h'⟩ | ⟨h, h'⟩)
      · exact .inl ⟨h, h'⟩
      · exact .inr (.inl ⟨h, h'⟩)
      · exact .inr (.inr ⟨h, h'⟩)
    · rintro (⟨h, h'⟩ | ⟨h, h'⟩ | ⟨h, h'⟩)
      · exact .capital h h'
      · exact .letter h h'
      · exact .digit h h'
  simp only [happart, isBoundary, IsLetter, ← charKind_eq_upper, ← charKind_eq_letter, ← charKind_eq_digit]
  cases charKind c <;> cases charKind d <;> simp [CharKind.endsBefore]

end Kinds

instance (c : Char) : Decidable (Separates c) := decidable_of_iff _ isSeparator_iff

section Pieces
variable {c d : Char} {piece : List Char}

theorem isPiece_singleton (hc : ¬ Separates c) : IsPiece [c] :=
  ⟨List.cons_ne_nil _ _, by simpa using hc, List.isChain_singleton c⟩

theorem isPiece_cons : IsPiece (c :: d :: piece) ↔ ¬ Separates c ∧ ¬ AreApart c d ∧ IsPiece (d :: piece) := by
  constructor
  · rintro ⟨-, hsolid, hwhole⟩
    obtain ⟨hc, hrest⟩ := List.forall_mem_cons.1 hsolid
    obtain ⟨hcd, hchain⟩ := List.isChain_cons_cons.1 hwhole
    exact ⟨hc, hcd, List.cons_ne_nil _ _, hrest, hchain⟩
  · rintro ⟨hc, hcd, -, hsolid, hwhole⟩
    exact ⟨List.cons_ne_nil _ _, List.forall_mem_cons.2 ⟨hc, hsolid⟩, List.isChain_cons_cons.2 ⟨hcd, hwhole⟩⟩

end Pieces

section AddChar
variable {c d : Char} {piece text : List Char} {others : List (List Char)}

/-- A piece ends where a text begins: a separator stands there, or the characters that meet do not belong to one
piece. -/
def EndsBefore (piece text : List Char) : Prop :=
  ∀ d ∈ text.head?, Separates d ∨ ∃ c ∈ piece.getLast?, AreApart c d

theorem endsBefore_gap {gap : List Char} (h : ∀ c ∈ gap, Separates c) (hgap : gap ≠ [] ∨ text = []) :
    EndsBefore piece (gap ++ text) := by
  intro d hd
  cases gap with
  | nil =>
    obtain rfl := hgap.resolve_left (not_not.2 rfl)
    cases hd
  | cons c gap =>
    cases hd
    exact .inl (h _ List.mem_cons_self)

theorem addChar_separator (hc : Separates c) : addChar c text others = others := by
  unfold addChar
  rw [if_pos (isSeparator_iff.2 hc)]

theorem addChar_alone (hc : ¬ Separates c) (h : EndsBefore [c] text) : addChar c text others = [c] :: others := by
  unfold addChar
  rw [if_neg (mt isSeparator_iff.1 hc)]
  split
  · rename_i d rest piece others
    have hd : isSeparator d || isBoundary c d := by
      rw [Bool.or_eq_true, isSeparator_iff, isBoundary_iff]
      simpa [EndsBefore] using h
    rw [if_pos hd]
  · rfl

theorem addChar_joined (hc : ¬ Separates c) (hd : ¬ Separates d) (h : ¬ AreApart c d) :
    addChar c (d :: text) (piece :: others) = (c :: piece) :: others := by
  have hjoined : ¬ (isSeparator d || isBoundary c d) = true := by
    rw [Bool.or_eq_true, isSeparator_iff, isBoundary_iff]
    exact not_or.2 ⟨hd, h⟩
  simp only [addChar, if_neg (mt isSeparator_iff.1 hc), if_neg hjoined]

end AddChar

/-- A text as pieces with gaps: what stands before the first piece, and each piece with what stands after it. -/
@[ext]
structure Segmentation where
  lead : List Char
  parts : List (List Char × List Char)

namespace Segmentation

def text (s : Segmentation) : List Char := s.lead ++ s.parts.flatMap fun part => part.1 ++ part.2

def pieces (s : Segmentation) : List (List Char) := s.parts.map Prod.fst

/-- Neighbouring pieces end where they do for a reason: a separator stands between, or the characters that meet do not
belong to one piece. -/
def AreDivided (part next : List Char × List Char) : Prop :=
  part.2 ≠ [] ∨ ∃ c ∈ part.1.getLast?, ∃ d ∈ next.1.head?, AreApart c d

/-- A piece as the rules of identifiers ask for, with the gap after it. -/
structure IsPart (part : List Char × List Char) : Prop extends IsPiece part.1 where
  gap : ∀ c ∈ part.2, Separates c

/-- The segmentation of a text as the rules of identifiers ask for. -/
structure IsOf (s : Segmentation) (text : List Char) : Prop where
  text_eq : s.text = text
  lead : ∀ c ∈ s.lead, Separates c
  parts : ∀ part ∈ s.parts, IsPart part
  divided : s.parts.IsChain AreDivided

/-- Puts a character before a segmentation: it joins the first piece if that starts the text and they belong
together. -/
def cons (c : Char) (s : Segmentation) : Segmentation :=
  if Separates c then ⟨c :: s.lead, s.parts⟩
  else match s.lead, s.parts with
    | [], (d :: piece, gap) :: others =>
      if isBoundary c d then ⟨[], ([c], []) :: (d :: piece, gap) :: others⟩
      else ⟨[], (c :: d :: piece, gap) :: others⟩
    | lead, parts => ⟨[], ([c], lead) :: parts⟩

section Parts
variable {c d : Char} {piece gap : List Char} {next : List Char × List Char}

theorem isPart_cons : IsPart (c :: d :: piece, gap) ↔ ¬ Separates c ∧ ¬ AreApart c d ∧ IsPart (d :: piece, gap) := by
  constructor
  · rintro ⟨hpiece, hgap⟩
    obtain ⟨hc, hcd, hpiece⟩ := isPiece_cons.1 hpiece
    exact ⟨hc, hcd, hpiece, hgap⟩
  · rintro ⟨hc, hcd, hpiece, hgap⟩
    exact ⟨isPiece_cons.2 ⟨hc, hcd, hpiece⟩, hgap⟩

theorem areDivided_cons : AreDivided (c :: d :: piece, gap) next ↔ AreDivided (d :: piece, gap) next := by
  rw [AreDivided, AreDivided, List.getLast?_cons_cons]

theorem areDivided_singleton : AreDivided ([c], []) (d :: piece, gap) ↔ AreApart c d := by
  simp [AreDivided]

end Parts

section Cons
variable {s : Segmentation} {c d : Char} {piece gap text : List Char} {others : List (List Char × List Char)}

theorem cons_separator (hc : Separates c) (s : Segmentation) : s.cons c = ⟨c :: s.lead, s.parts⟩ := if_pos hc

theorem cons_alone (hc : ¬ Separates c) (h : s.lead ≠ [] ∨ s.parts = []) :
    s.cons c = ⟨[], ([c], s.lead) :: s.parts⟩ := by
  rw [cons, if_neg hc]
  split
  · rename_i hlead hparts
    exact absurd h (by simp [hlead, hparts])
  · rfl

theorem cons_apart (hc : ¬ Separates c) (h : AreApart c d) :
    cons c ⟨[], (d :: piece, gap) :: others⟩ = ⟨[], ([c], []) :: (d :: piece, gap) :: others⟩ := by
  simp only [cons, if_neg hc, if_pos (isBoundary_iff.2 h)]

theorem cons_joined (hc : ¬ Separates c) (h : ¬ AreApart c d) :
    cons c ⟨[], (d :: piece, gap) :: others⟩ = ⟨[], (c :: d :: piece, gap) :: others⟩ := by
  simp only [cons, if_neg hc, if_neg (mt isBoundary_iff.1 h)]

/-- A text starts with a piece, unless it starts with a separator or is empty. -/
theorem IsOf.starts (h : s.IsOf text) :
    (s.lead ≠ [] ∨ s.parts = []) ∨ ∃ d piece gap others, s = ⟨[], (d :: piece, gap) :: others⟩ := by
  cases s with
  | mk lead parts =>
    cases lead with
    | cons x lead => exact .inl (.inl (List.cons_ne_nil x lead))
    | nil =>
      cases parts with
      | nil => exact .inl (.inr rfl)
      | cons part others =>
        obtain ⟨piece, gap⟩ := part
        cases piece with
        | nil => exact absurd rfl (h.parts _ List.mem_cons_self).nonempty
        | cons d piece => exact .inr ⟨d, piece, gap, others, rfl⟩

theorem IsOf.cons (h : s.IsOf text) (c : Char) : (s.cons c).IsOf (c :: text) := by
  by_cases hc : Separates c
  · rw [cons_separator hc]
    exact ⟨congrArg _ h.text_eq, List.forall_mem_cons.2 ⟨hc, h.lead⟩, h.parts, h.divided⟩
  · rcases h.starts with halone | ⟨d, piece, gap, others, rfl⟩
    · rw [cons_alone hc halone]
      refine ⟨congrArg _ h.text_eq, List.forall_mem_nil _,
        List.forall_mem_cons.2 ⟨⟨isPiece_singleton hc, h.lead⟩, h.parts⟩,
        List.isChain_cons.2 ⟨fun next hnext => .inl (halone.resolve_right fun hnil => ?_), h.divided⟩⟩
      rw [hnil] at hnext
      cases hnext
    · by_cases hcd : AreApart c d
      · rw [cons_apart hc hcd]
        exact ⟨congrArg _ h.text_eq, List.forall_mem_nil _,
          List.forall_mem_cons.2 ⟨⟨isPiece_singleton hc, List.forall_mem_nil _⟩, h.parts⟩,
          List.isChain_cons_cons.2 ⟨areDivided_singleton.2 hcd, h.divided⟩⟩
      · rw [cons_joined hc hcd]
        obtain ⟨hpart, hparts⟩ := List.forall_mem_cons.1 h.parts
        obtain ⟨hnext, hdivided⟩ := List.isChain_cons.1 h.divided
        exact ⟨congrArg _ h.text_eq, List.forall_mem_nil _,
          List.forall_mem_cons.2 ⟨isPart_cons.2 ⟨hc, hcd, hpart⟩, hparts⟩,
          List.isChain_cons.2 ⟨fun next hmem => areDivided_cons.2 (hnext next hmem), hdivided⟩⟩

/-- Every segmentation of a text comes from one of its rest. -/
theorem IsOf.exists_cons (h : s.IsOf (c :: text)) : ∃ t : Segmentation, t.IsOf text ∧ s = t.cons c := by
  rcases h.starts with halone | ⟨d, piece, gap, others, rfl⟩
  · obtain ⟨_ | ⟨x, lead⟩, parts⟩ := s
    · obtain rfl := halone.resolve_left (not_not.2 rfl)
      cases h.text_eq
    · obtain ⟨rfl, htext⟩ := List.cons.inj h.text_eq
      obtain ⟨hx, hlead⟩ := List.forall_mem_cons.1 h.lead
      exact ⟨⟨lead, parts⟩, ⟨htext, hlead, h.parts, h.divided⟩, (cons_separator hx ⟨lead, parts⟩).symm⟩
  · obtain ⟨rfl, htext⟩ := List.cons.inj h.text_eq
    obtain ⟨hpart, hparts⟩ := List.forall_mem_cons.1 h.parts
    obtain ⟨hnext, hdivided⟩ := List.isChain_cons.1 h.divided
    cases piece with
    | nil =>
      have hd := hpart.solid d List.mem_cons_self
      have hrest : IsOf ⟨gap, others⟩ text := ⟨htext, hpart.gap, hparts, hdivided⟩
      refine ⟨⟨gap, others⟩, hrest, ?_⟩
      rcases hrest.starts with halone | ⟨x, piece, gap', others', heq⟩
      · exact (cons_alone hd halone).symm
      · cases heq
        exact (cons_apart hd (areDivided_singleton.1 (hnext _ rfl))).symm
    | cons x piece =>
      obtain ⟨hd, hdx, hpart⟩ := isPart_cons.1 hpart
      refine ⟨⟨[], (x :: piece, gap) :: others⟩,
        ⟨htext, List.forall_mem_nil _, List.forall_mem_cons.2 ⟨hpart, hparts⟩, ?_⟩, (cons_joined hd hdx).symm⟩
      exact List.isChain_cons.2 ⟨fun next hmem => areDivided_cons.1 (hnext next hmem), hdivided⟩

theorem IsOf.endsBefore (h : s.IsOf text) (halone : s.lead ≠ [] ∨ s.parts = []) : EndsBefore piece text := by
  rw [← h.text_eq, Segmentation.text]
  exact endsBefore_gap h.lead (halone.imp_right fun hnil => by rw [hnil, List.flatMap_nil])

/-- The pieces of a text are extended as its segmentation is. -/
theorem IsOf.pieces_cons (h : s.IsOf text) (c : Char) : (s.cons c).pieces = addChar c text s.pieces := by
  by_cases hc : Separates c
  · rw [cons_separator hc, addChar_separator hc]
    rfl
  · rcases h.starts with halone | ⟨d, piece, gap, others, rfl⟩
    · rw [cons_alone hc halone, addChar_alone hc (h.endsBefore halone)]
      rfl
    · have hd := (h.parts _ List.mem_cons_self).solid d List.mem_cons_self
      rw [← h.text_eq]
      by_cases hcd : AreApart c d
      · have hends : EndsBefore [c] (Segmentation.text ⟨[], (d :: piece, gap) :: others⟩) := by
          intro x hx
          cases hx
          exact .inr ⟨c, rfl, hcd⟩
        rw [cons_apart hc hcd, addChar_alone hc hends]
        rfl
      · rw [cons_joined hc hcd]
        exact (addChar_joined hc hd hcd).symm

end Cons

/-- The segmentation of a text. -/
def ofText : List Char → Segmentation
  | [] => ⟨[], []⟩
  | c :: rest => (ofText rest).cons c

theorem ofText_isOf (text : List Char) : (ofText text).IsOf text := by
  induction text with
  | nil => exact ⟨rfl, List.forall_mem_nil _, List.forall_mem_nil _, .nil⟩
  | cons c rest ih => exact ih.cons c

theorem IsOf.eq_ofText {s : Segmentation} {text : List Char} (h : s.IsOf text) : s = ofText text := by
  induction text generalizing s with
  | nil =>
    rcases h.starts with halone | ⟨d, piece, gap, others, rfl⟩
    · obtain ⟨hlead, hparts⟩ := List.append_eq_nil_iff.1 h.text_eq
      exact Segmentation.ext hlead (halone.resolve_left (not_not.2 hlead))
    · cases h.text_eq
  | cons c rest ih =>
    obtain ⟨t, ht, rfl⟩ := h.exists_cons
    rw [ofText, ih ht]

theorem pieces_ofText (text : List Char) : (ofText text).pieces = Identifier.pieces text := by
  induction text with
  | nil => rfl
  | cons c rest ih => rw [ofText, (ofText_isOf rest).pieces_cons, ih, Identifier.pieces]

theorem IsOf.pieces_eq {s : Segmentation} {text : List Char} (h : s.IsOf text) : Identifier.pieces text = s.pieces := by
  rw [h.eq_ofText, pieces_ofText]

/-- The pieces hold the characters that are no separators, in order. -/
theorem IsOf.flatten_pieces {s : Segmentation} {text : List Char} (h : s.IsOf text) :
    s.pieces.flatten = text.filter fun c => ¬ Separates c := by
  rw [← h.text_eq, Segmentation.text, List.filter_append, List.filter_eq_nil_iff.2 (by simpa using h.lead),
    List.nil_append, List.filter_flatMap, pieces, ← List.flatMap_def]
  refine List.flatMap_congr fun part hpart => ?_
  rw [List.filter_append, List.filter_eq_self.2 (by simpa using (h.parts part hpart).solid),
    List.filter_eq_nil_iff.2 (by simpa using (h.parts part hpart).gap), List.append_nil]

end Segmentation

/-- A text has one segmentation, whose pieces hold all its characters but the separators, in order. The tokens of an
identifier are these pieces, each in lowercase. -/
theorem tokens_of_unique_segmentation (name : String) :
    ∃ s : Segmentation, (∀ other : Segmentation, other.IsOf name.toList ↔ other = s) ∧
      s.pieces.flatten = (name.toList.filter fun c => ¬ Separates c) ∧
      tokens name = s.pieces.map fun piece => String.ofList (Text.lowercase piece) := by
  have h := Segmentation.ofText_isOf name.toList
  refine ⟨_, fun other => ⟨fun hother => hother.eq_ofText, ?_⟩, h.flatten_pieces, ?_⟩
  · rintro rfl
    exact h
  · rw [tokens, h.pieces_eq]

/-- Capitals in a row stay together. -/
example : tokens "fooBAR__x2y" = ["foo", "bar", "x", "2", "y"] := by decide +kernel

end CallOrder.Identifier
