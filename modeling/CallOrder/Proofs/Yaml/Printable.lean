import CallOrder.Yaml.Writing
import Mathlib.Algebra.Ring.Nat
import Mathlib.Data.Int.Notation
import Mathlib.Data.List.Basic

/-! Characters that stand for themselves in YAML, the place behind them, and the white space between them. -/
namespace CallOrder.Yaml

theorem isBreak_of_isPrintable {c : Char} (h : isPrintable c = true) (hbreak : isBreak c = true) :
    c = '\n' ∨ c = '\u2028' ∨ c = '\u2029' := by
  simp only [isBreak, Bool.or_eq_true, decide_eq_true_eq] at hbreak
  rcases hbreak with (((rfl | rfl) | rfl) | rfl) | rfl
  · exact absurd h (by decide)
  · exact .inl rfl
  · exact absurd h (by decide)
  · exact .inr (.inl rfl)
  · exact .inr (.inr rfl)

theorem ne_return_of_not_isBreak {c : Char} (hbreak : isBreak c = false) : c ≠ '\r' := by
  rintro rfl
  exact absurd hbreak (by decide)

theorem not_isBlank_of_isPrintable {c : Char} (h : isPrintable c = true) (hspace : c ≠ ' ') : isBlank c = false := by
  have htab : c ≠ '\t' := by
    rintro rfl
    exact absurd h (by decide)
  simp [isBlank, hspace, htab]

namespace Mark

@[simp]
theorem forward_line (mark : Mark) (count : ℕ) : (mark.forward count).line = mark.line := rfl

@[simp]
theorem forward_column (mark : Mark) (count : ℕ) : (mark.forward count).column = mark.column + count := rfl

@[simp]
theorem over_line (mark : Mark) (c : Char) : (mark.over c).line = mark.line := rfl

@[simp]
theorem over_column (mark : Mark) (c : Char) : (mark.over c).column = mark.column + 1 := rfl

@[simp]
theorem nextLine_line (mark : Mark) (bytes : ℕ) : (mark.nextLine bytes).line = mark.line + 1 := rfl

@[simp]
theorem nextLine_column (mark : Mark) (bytes : ℕ) : (mark.nextLine bytes).column = 0 := rfl

theorem forward_forward (mark : Mark) (m n : ℕ) : (mark.forward m).forward n = mark.forward (m + n) := by
  simp [forward, Nat.add_assoc]

theorem foldl_over (text : List Char) (mark : Mark) : (text.foldl Mark.over mark).line = mark.line ∧
    (text.foldl Mark.over mark).column = mark.column + text.length ∧
    (text.foldl Mark.over mark).index = mark.index + (text.map Char.utf8Size).sum := by
  induction text generalizing mark with
  | nil => exact ⟨rfl, rfl, rfl⟩
  | cons c text ih =>
    obtain ⟨hline, hcolumn, hindex⟩ := ih (mark.over c)
    rw [List.foldl_cons]
    refine ⟨hline, ?_, ?_⟩
    · rw [hcolumn, Mark.over_column, List.length_cons]
      omega
    · rw [hindex, List.map_cons, List.sum_cons]
      exact Nat.add_assoc _ _ _

end Mark

theorem spaces_succ (count : ℕ) : spaces (count + 1) = ' ' :: spaces count := rfl

/-- Blanks that were passed within a line. -/
def Gap.ofSpaces (count : ℕ) : Gap := { blanks := List.replicate count ' ' }

/-- Separators of lines or paragraphs that were passed. -/
def Gap.ofBreaks (first : Char) (more : List Char) : Gap := { lineBreak := some [first], moreBreaks := more }

/-- Whether a character separates lines or paragraphs, and stands for itself within a text. -/
def IsSeparator (c : Char) : Prop := c = '\u2028' ∨ c = '\u2029'

namespace Gap

@[simp]
theorem ofSpaces_zero : ofSpaces 0 = {} := rfl

theorem ofSpaces_text (count : ℕ) : (ofSpaces count).text = List.replicate count ' ' := rfl

theorem ofSpaces_addBlank (count : ℕ) : (ofSpaces count).addBlank ' ' = ofSpaces (count + 1) := by
  simp [ofSpaces, addBlank, List.replicate_succ']

theorem ofBreaks_text {first : Char} (h : IsSeparator first) (more : List Char) : (ofBreaks first more).text = first :: more := by
  rcases h with rfl | rfl <;> rfl

theorem empty_addBreak {c : Char} (h : IsSeparator c) : ({} : Gap).addBreak c = ofBreaks c [] := by
  rcases h with rfl | rfl <;> rfl

theorem ofBreaks_addBreak {first c : Char} {more : List Char} (h : IsSeparator c) :
    (ofBreaks first more).addBreak c = ofBreaks first (more ++ [c]) := by
  rcases h with rfl | rfl <;> rfl

end Gap

/-- What a line begins with behind its indentation, if there is anything: no white space and no comment. -/
def StartsLine (text : List Char) : Prop :=
  ∀ c ∈ text.head?, isBlank c = false ∧ isBreak c = false ∧ c ≠ '#' ∧ c ≠ '\ufeff'

theorem startsLine_cons {c : Char} (hblank : isBlank c = false) (hbreak : isBreak c = false) (hcomment : c ≠ '#')
    (hmark : c ≠ '\ufeff') (rest : List Char) : StartsLine (c :: rest) := by
  rintro _ ⟨⟩
  exact ⟨hblank, hbreak, hcomment, hmark⟩

/-- A reader of scalars gives a text, and stops before another one at a place where something is true. -/
def ReadsTo (read : Option ScalarRead) (text tail : List Char) (place : Mark → Prop) : Prop :=
  ∃ mark, place mark ∧ read = some { text, cursor := ⟨tail, mark⟩ }

namespace ReadsTo
variable {read : Option ScalarRead} {text tail : List Char} {place place' : Mark → Prop}

theorem prepend (chars : List Char) (h : ReadsTo read text tail place) :
    ReadsTo (read.map (·.prepend chars)) (chars ++ text) tail place := by
  obtain ⟨mark, hmark, rfl⟩ := h
  exact ⟨mark, hmark, rfl⟩

theorem mono (h : ReadsTo read text tail place) (hplace : ∀ mark, place mark → place' mark) :
    ReadsTo read text tail place' := by
  obtain ⟨mark, hmark, hread⟩ := h
  exact ⟨mark, hplace mark hmark, hread⟩

end ReadsTo

end CallOrder.Yaml
