import CallOrder.Text.Hexadecimal
import CallOrder.Yaml.Cursor

/-! Scalars in YAML: plain text, text between quotation marks, and blocks of lines. -/
namespace CallOrder.Yaml

/-- How a scalar is written. -/
inductive ScalarStyle where
  | plain
  | singleQuoted
  | doubleQuoted
  | literal
  | folded
deriving DecidableEq, Repr

/-- The white space within a scalar that was passed since the last other character. -/
structure Gap where
  /-- The blanks before the first line break. -/
  blanks : List Char := []
  /-- What the first line break means, if there is one. -/
  lineBreak : Option (List Char) := none
  moreBreaks : List Char := []
deriving DecidableEq, Repr

namespace Gap

/-- A blank after a line break is indentation and does not count. -/
def addBlank (gap : Gap) (c : Char) : Gap :=
  if gap.lineBreak.isSome then gap else { gap with blanks := gap.blanks ++ [c] }

def addBreak (gap : Gap) (c : Char) : Gap :=
  if gap.lineBreak.isSome then { gap with moreBreaks := gap.moreBreaks ++ breakText c }
  else { gap with lineBreak := some (breakText c) }

/-- What the white space means: blanks stand for themselves, one line break for a space, and of
several line breaks the first is dropped. -/
def text (gap : Gap) : List Char :=
  match gap.lineBreak with
  | none => gap.blanks
  | some ['\n'] => if gap.moreBreaks.isEmpty then [' '] else gap.moreBreaks
  | some first => first ++ gap.moreBreaks

end Gap

/-- A scalar that was read, with the place behind it. -/
structure ScalarRead where
  text : List Char
  cursor : Cursor
  /-- Whether a new line began after the last character of the scalar. -/
  onNewLine : Bool := false
deriving DecidableEq, Repr

/-- Puts characters before the text of a scalar. -/
def ScalarRead.prepend (chars : List Char) (read : ScalarRead) : ScalarRead :=
  { read with text := chars ++ read.text }

/-- Whether a plain scalar ends before this text: at a colon with white space after it, and within
brackets also at a comma or a bracket. -/
def endsPlain (inFlow : Bool) : List Char → Bool
  | [] => true
  | c :: rest => c = ':' && startsBlank rest || inFlow && "[]\x7b\x7d,".toList.contains c

/-- Whether a plain scalar goes wrong before this text: within brackets a colon must not stand
right before an indicator. -/
def breaksPlain (inFlow : Bool) : List Char → Bool
  | ':' :: c :: _ => inFlow && ",?[]\x7b\x7d".toList.contains c
  | _ => false

/-- Reads a plain scalar. Its lines, after the first one, are indented by so much at least, unless
it stands within brackets. It ends before a comment and before a mark of a document. -/
def readPlain (inFlow : Bool) (indent : Int) : Gap → Mark → List Char → Option ScalarRead
  | gap, mark, [] => some { text := [], cursor := ⟨[], mark⟩, onNewLine := gap.lineBreak.isSome }
  | gap, mark, '\r' :: '\n' :: rest => readPlain inFlow indent (gap.addBreak '\n') (mark.nextLine 2) rest
  | gap, mark, c :: rest =>
    let here : ScalarRead :=
      { text := [], cursor := ⟨c :: rest, mark⟩, onNewLine := gap.lineBreak.isSome }
    if isBreak c then readPlain inFlow indent (gap.addBreak c) (mark.nextLine c.utf8Size) rest
    else if isBlank c then
      if gap.lineBreak.isSome && mark.column < indent && c = '\t' then none
      else readPlain inFlow indent (gap.addBlank c) (mark.forward 1) rest
    else
      let afterGap := gap != {}
      if afterGap && !inFlow && mark.column < indent then some here
      else if mark.column = 0 && startsDocumentMark (c :: rest) then some here
      else if afterGap && c = '#' then some here
      else if breaksPlain inFlow (c :: rest) then none
      else if endsPlain inFlow (c :: rest) then some here
      else
        (readPlain inFlow indent {} (mark.over c) rest).map (·.prepend (gap.text ++ [c]))

/-- Reads a scalar between single quotation marks, from behind the first. A quotation mark within
it is written twice. -/
def readSingleQuoted : Gap → Mark → List Char → Option ScalarRead
  | _, _, [] => none
  | gap, mark, '\r' :: '\n' :: rest => readSingleQuoted (gap.addBreak '\n') (mark.nextLine 2) rest
  | gap, mark, '\'' :: '\'' :: rest =>
    (readSingleQuoted {} (mark.forward 2) rest).map (·.prepend (gap.text ++ ['\'']))
  | gap, mark, c :: rest =>
    if isBreak c then readSingleQuoted (gap.addBreak c) (mark.nextLine c.utf8Size) rest
    else if isBlank c then readSingleQuoted (gap.addBlank c) (mark.forward 1) rest
    else if mark.column = 0 && startsDocumentMark (c :: rest) then none
    else if c = '\'' then some { text := gap.text, cursor := ⟨rest, mark.forward 1⟩ }
    else (readSingleQuoted {} (mark.over c) rest).map (·.prepend (gap.text ++ [c]))

/-- The number that hexadecimal digits denote. -/
def valueOfHex? (digits : List Char) : Option Nat :=
  digits.foldlM (fun n c => (Text.hexValue? c).map (16 * n + ·)) 0

/-- The character with this code point, if there is one. -/
def charOf? (n : Nat) : Option Char := if n.isValidChar then some (Char.ofNat n) else none

/-- The character that a short escape names. -/
def shortEscape? (c : Char) : Option Char :=
  if c = '0' then some '\x00'
  else if c = 'a' then some '\x07'
  else if c = 'b' then some '\x08'
  else if c = 't' || c = '\t' then some '\t'
  else if c = 'n' then some '\n'
  else if c = 'v' then some '\x0b'
  else if c = 'f' then some '\x0c'
  else if c = 'r' then some '\r'
  else if c = 'e' then some '\x1b'
  else if c = ' ' || c = '"' || c = '/' || c = '\\' then some c
  else if c = 'N' then some '\u0085'
  else if c = '_' then some '\u00a0'
  else if c = 'L' then some '\u2028'
  else if c = 'P' then some '\u2029'
  else none

/-- The white space after an escaped line break: the break itself means nothing. -/
def escapedBreak : Gap := { lineBreak := some [] }

/-- Reads a scalar between double quotation marks, from behind the first. -/
def readDoubleQuoted : Gap → Mark → List Char → Option ScalarRead
  | _, _, [] => none
  | gap, mark, '\r' :: '\n' :: rest => readDoubleQuoted (gap.addBreak '\n') (mark.nextLine 2) rest
  | gap, mark, '\\' :: '\r' :: '\n' :: rest =>
    (readDoubleQuoted escapedBreak (mark.nextLine 3) rest).map (·.prepend gap.text)
  | gap, mark, '\\' :: 'x' :: a :: b :: rest => do
    let c ← (valueOfHex? [a, b]).bind charOf?
    return (← readDoubleQuoted {} (mark.forward 4) rest).prepend (gap.text ++ [c])
  | gap, mark, '\\' :: 'u' :: a :: b :: c :: d :: rest => do
    let e ← (valueOfHex? [a, b, c, d]).bind charOf?
    return (← readDoubleQuoted {} (mark.forward 6) rest).prepend (gap.text ++ [e])
  | gap, mark, '\\' :: 'U' :: a :: b :: c :: d :: e :: f :: g :: h :: rest => do
    let i ← (valueOfHex? [a, b, c, d, e, f, g, h]).bind charOf?
    return (← readDoubleQuoted {} (mark.forward 10) rest).prepend (gap.text ++ [i])
  | gap, mark, '\\' :: c :: rest =>
    if isBreak c then
      (readDoubleQuoted escapedBreak (mark.nextLine (1 + c.utf8Size)) rest).map (·.prepend gap.text)
    else do
      let e ← shortEscape? c
      return (← readDoubleQuoted {} (mark.forward 2) rest).prepend (gap.text ++ [e])
  | gap, mark, c :: rest =>
    if isBreak c then readDoubleQuoted (gap.addBreak c) (mark.nextLine c.utf8Size) rest
    else if isBlank c then readDoubleQuoted (gap.addBlank c) (mark.forward 1) rest
    else if mark.column = 0 && startsDocumentMark (c :: rest) then none
    else if c = '\\' then none
    else if c = '"' then some { text := gap.text, cursor := ⟨rest, mark.forward 1⟩ }
    else (readDoubleQuoted {} (mark.over c) rest).map (·.prepend (gap.text ++ [c]))

/-- What becomes of the line breaks at the end of a block. -/
inductive Chomping where
  | clip
  | strip
  | keep
deriving DecidableEq, Repr

/-- The heading of a block: what is kept at its end, and by how much it is indented beyond its
parent, if that is said. -/
structure BlockHead where
  chomping : Chomping := .clip
  increment : Option Nat := none
deriving DecidableEq, Repr

namespace BlockHead

def chomping? (c : Char) : Option Chomping :=
  if c = '+' then some .keep else if c = '-' then some .strip else none

/-- The meaning of a digit in a heading. Zero has none. -/
def digit? (c : Char) : Option Nat :=
  if '1' ≤ c && c ≤ '9' then some (c.toNat - '0'.toNat) else none

/-- Reads a heading: a sign and a digit in any order, either of which may be missing. -/
def read (cursor : Cursor) : Option (BlockHead × Cursor) :=
  match cursor.rest with
  | [] => some ({}, cursor)
  | c :: more =>
    match chomping? c, digit? c, more.head? with
    | some chomping, _, some d =>
      if d = '0' then none
      else
        match digit? d with
        | some n => some ({ chomping, increment := some n }, cursor.drop 2)
        | none => some ({ chomping }, cursor.drop 1)
    | some chomping, _, none => some ({ chomping }, cursor.drop 1)
    | none, some n, some d =>
      match chomping? d with
      | some chomping => some ({ chomping, increment := some n }, cursor.drop 2)
      | none => some ({ increment := some n }, cursor.drop 1)
    | none, some n, none => some ({ increment := some n }, cursor.drop 1)
    | none, none, _ => if c = '0' then none else some ({}, cursor)

end BlockHead

/-- Where the reading of a block stands. -/
structure BlockState where
  /-- The column of its lines; zero as long as no line showed it. -/
  indent : Nat
  /-- The deepest column that was seen before the first line. -/
  deepest : Nat := 0
  /-- What the break of the last line means. -/
  lineBreak : List Char := []
  /-- What the breaks of the empty lines after it mean. -/
  moreBreaks : List Char := []
  /-- Whether the last line began with a blank. -/
  afterBlank : Bool := false
deriving DecidableEq, Repr

namespace BlockState

/-- The text that comes before a line that begins with this character. Folding puts a space for a
single break between lines that do not begin with blanks. -/
def joint (state : BlockState) (folds : Bool) (c : Char) : List Char :=
  if folds && state.lineBreak = ['\n'] && !state.afterBlank && !isBlank c then
    (if state.moreBreaks.isEmpty then [' '] else []) ++ state.moreBreaks
  else state.lineBreak ++ state.moreBreaks

def tail (state : BlockState) : Chomping → List Char
  | .clip => state.lineBreak
  | .strip => []
  | .keep => state.lineBreak ++ state.moreBreaks

end BlockState

/-- Reads the lines of a block. Between two lines the indentation is passed; the first line that is
not empty shows it, if the heading did not. Within a line all characters count. The block ends
before a line that is not empty and stands at another column. -/
def readBlock (folds : Bool) (chomping : Chomping) (least : Nat) :
    BlockState → Bool → Mark → List Char → Option ScalarRead
  | state, _, mark, [] => some { text := state.tail chomping, cursor := ⟨[], mark⟩ }
  | state, true, mark, '\r' :: '\n' :: rest =>
    readBlock folds chomping least { state with lineBreak := ['\n'], moreBreaks := [] } false
      (mark.nextLine 2) rest
  | state, false, mark, '\r' :: '\n' :: rest =>
    readBlock folds chomping least
      { state with
        deepest := max state.deepest mark.column
        moreBreaks := state.moreBreaks ++ ['\n'] }
      false (mark.nextLine 2) rest
  | state, true, mark, c :: rest =>
    if isBreak c then
      readBlock folds chomping least { state with lineBreak := breakText c, moreBreaks := [] } false
        (mark.nextLine c.utf8Size) rest
    else (readBlock folds chomping least state true (mark.over c) rest).map (·.prepend [c])
  | state, false, mark, c :: rest =>
    let within := state.indent = 0 || mark.column < state.indent
    if within && c = ' ' then readBlock folds chomping least state false (mark.forward 1) rest
    else if within && c = '\t' then none
    else
      let deepest := max state.deepest mark.column
      if isBreak c then
        readBlock folds chomping least
          { state with deepest, moreBreaks := state.moreBreaks ++ breakText c } false
          (mark.nextLine c.utf8Size) rest
      else
        let indent := if state.indent = 0 then max deepest least else state.indent
        if mark.column = indent then
          (readBlock folds chomping least
            { state with indent, deepest, lineBreak := [], moreBreaks := [], afterBlank := isBlank c }
            true (mark.over c) rest).map (·.prepend (state.joint folds c ++ [c]))
        else some { text := state.tail chomping, cursor := ⟨c :: rest, mark⟩ }

/-- Reads a block from behind its indicator. The parent is indented by so much. -/
def readBlockScalar (folds : Bool) (parent : Int) (cursor : Cursor) : Option ScalarRead := do
  let (head, cursor) ← BlockHead.read cursor
  let cursor ← cursor.dropLineEnd?
  let indent :=
    match head.increment with
    | some n => if 0 ≤ parent then parent.toNat + n else n
    | none => 0
  readBlock folds head.chomping (max (parent + 1).toNat 1) { indent } false cursor.mark cursor.rest

end CallOrder.Yaml
