import CallOrder.Text.Alphabetic
import CallOrder.Text.Lowercase
import CallOrder.Text.Numeric
import CallOrder.Text.Uppercase

/-! Identifiers and their tokens. An identifier is cut at separators, before a capital that
follows another letter, and between a digit and a letter; each piece in lowercase is a token. -/
namespace CallOrder.Identifier

/-- What a character is to the segmentation of an identifier. -/
inductive CharKind where
  | upper
  | letter
  | digit
  | separator
deriving DecidableEq, Repr

/-- The kind of a character. A capital is one whatever else it is, and a number is a digit even if
it is alphabetic. -/
def charKind (c : Char) : CharKind :=
  if Text.isUppercase c then .upper
  else if Text.isNumeric c then .digit
  else if Text.isAlphabetic c then .letter
  else .separator

/-- Whether a piece ends between neighbours of these two kinds. Runs of capitals stay together, and
with the letters after them. -/
def CharKind.endsBefore : CharKind → CharKind → Bool
  | .letter, .upper => true
  | .digit, .upper | .digit, .letter => true
  | .upper, .digit | .letter, .digit => true
  | _, _ => false

/-- Whether a character divides identifiers. -/
def isSeparator (c : Char) : Bool := charKind c == .separator

/-- Whether a piece ends between two characters that stand side by side. -/
def isBoundary (c d : Char) : Bool := (charKind c).endsBefore (charKind d)

/-- Puts a character before the pieces of the text that follows it: it joins the first piece if
that starts right after it, with no boundary between. -/
def addChar (c : Char) (rest : List Char) (pieces : List (List Char)) : List (List Char) :=
  if isSeparator c then pieces
  else match rest, pieces with
    | d :: _, piece :: others =>
      if isSeparator d || isBoundary c d then [c] :: piece :: others else (c :: piece) :: others
    | _, _ => [c] :: pieces

/-- The pieces of a text between its separators and boundaries, as they are written. -/
def pieces : List Char → List (List Char)
  | [] => []
  | c :: rest => addChar c rest (pieces rest)

/-- The tokens of an identifier, in order: its pieces, each in lowercase. -/
def tokens (name : String) : List String :=
  (pieces name.toList).map fun piece => String.ofList (Text.lowercase piece)

end CallOrder.Identifier
