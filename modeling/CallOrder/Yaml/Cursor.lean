import CallOrder.Yaml.Char

/-! A place in a YAML text, with the text that follows it. -/
namespace CallOrder.Yaml

/-- A place in a text, by the number of bytes before it, its line and its column. -/
structure Mark where
  index : Nat := 0
  line : Nat := 0
  column : Nat := 0
deriving DecidableEq, Repr, Inhabited

/-- The place behind so many more characters of the line, each of one byte. -/
def Mark.forward (mark : Mark) (count : Nat) : Mark :=
  { mark with index := mark.index + count, column := mark.column + count }

/-- The place behind one more character of the line. -/
def Mark.over (mark : Mark) (c : Char) : Mark :=
  { mark with index := mark.index + c.utf8Size, column := mark.column + 1 }

/-- The place at the beginning of the next line, behind a line break of so many bytes. -/
def Mark.nextLine (mark : Mark) (bytes : Nat) : Mark :=
  { index := mark.index + bytes, line := mark.line + 1, column := 0 }

/-- A place in a text, and what follows there. -/
structure Cursor where
  rest : List Char
  mark : Mark := {}
deriving DecidableEq, Repr, Inhabited

namespace Cursor

/-- Passes over characters within a line. -/
def drop (cursor : Cursor) (count : Nat) : Cursor :=
  ⟨cursor.rest.drop count, (cursor.rest.take count).foldl Mark.over cursor.mark⟩

def takeWhile (p : Char → Bool) (cursor : Cursor) : List Char × Cursor :=
  let taken := cursor.rest.takeWhile p
  (taken, cursor.drop taken.length)

/-- Passes over the characters of a class. -/
def dropWhile (p : Char → Bool) (cursor : Cursor) : Cursor := (cursor.takeWhile p).2

/-- Passes over a byte order mark at the beginning of a line. -/
def dropByteOrderMark (cursor : Cursor) : Cursor :=
  if cursor.mark.column = 0 && cursor.rest.head? = some '\ufeff' then cursor.drop 1 else cursor

/-- Passes over a line break, if there is one. A carriage return with a line feed is one break. -/
def dropBreak (cursor : Cursor) : Cursor :=
  match cursor.rest with
  | '\r' :: '\n' :: rest => ⟨rest, cursor.mark.nextLine 2⟩
  | c :: rest => if isBreak c then ⟨rest, cursor.mark.nextLine c.utf8Size⟩ else cursor
  | [] => cursor

/-- Passes over blanks, and over a comment up to the end of its line. -/
def dropComment (cursor : Cursor) : Cursor :=
  let cursor := cursor.dropWhile isBlank
  if cursor.rest.head? = some '#' then cursor.dropWhile fun c => !isBreak c else cursor

/-- Passes over the rest of a line, which holds nothing but blanks and a comment. -/
def dropLineEnd? (cursor : Cursor) : Option Cursor :=
  let cursor := cursor.dropComment
  if startsBreak cursor.rest then some cursor.dropBreak else none

end Cursor

end CallOrder.Yaml
