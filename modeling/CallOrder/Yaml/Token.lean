import CallOrder.Yaml.Tag

/-! The tokens of a YAML text. Indentation becomes tokens for the beginning and the end of blocks.
Whether a scalar is a key shows only at the colon after it; the token for the key is then put
before it. -/
namespace CallOrder.Yaml

/-- A token of a YAML text. -/
inductive Token where
  | directive (d : Directive)
  | documentStart
  | documentEnd
  | blockSequenceStart
  | blockMappingStart
  | blockEnd
  | flowSequenceStart
  | flowSequenceEnd
  | flowMappingStart
  | flowMappingEnd
  | blockEntry
  | flowEntry
  | key
  | value
  | alias (name : List Char)
  | anchor (name : List Char)
  | tag (t : Tag)
  | scalar (style : ScalarStyle) (text : List Char)
  | streamEnd
deriving DecidableEq, Repr

/-- The place of a token that may turn out to begin a key. -/
structure KeyPlace where
  tokenCount : Nat
  mark : Mark
  /-- Whether it must be a key, because it stands where the keys of a mapping stand. -/
  required : Bool
deriving DecidableEq, Repr

/-- Where the reading of tokens stands. -/
structure Lexer where
  cursor : Cursor
  tokens : List Token := []
  /-- The column of the innermost block; nothing lies left of column minus one. -/
  indent : Int := -1
  outerIndents : List Int := []
  keyAllowed : Bool := true
  /-- The token that may begin a key, outside all brackets or within the innermost ones. -/
  keyPlace : Option KeyPlace := none
  /-- The same for the levels of brackets around it; their number is that of the open brackets. -/
  outerKeyPlaces : List (Option KeyPlace) := []
deriving Repr

namespace Lexer

def inFlow (lexer : Lexer) : Bool := !lexer.outerKeyPlaces.isEmpty

def push (lexer : Lexer) (token : Token) : Lexer := { lexer with tokens := lexer.tokens ++ [token] }

/-- Appends a token that takes so many characters. -/
def pushOver (lexer : Lexer) (count : Nat) (token : Token) : Lexer :=
  { lexer with tokens := lexer.tokens ++ [token], cursor := lexer.cursor.drop count }

def insertAt (lexer : Lexer) (place : Nat) (token : Token) : Lexer :=
  { lexer with tokens := lexer.tokens.take place ++ token :: lexer.tokens.drop place }

/-- Begins a block at a column if it lies further in than the innermost one, with a token at a
place. Within brackets there are no blocks. -/
def openBlock (lexer : Lexer) (column place : Nat) (token : Token) : Lexer :=
  if lexer.inFlow || (column : Int) ≤ lexer.indent then lexer
  else
    { lexer.insertAt place token with
      indent := column
      outerIndents := lexer.indent :: lexer.outerIndents }

/-- Ends the blocks that lie further in than a column, as many as there are. -/
def closeBlocksFrom (column : Int) : Int → List Int → Int × List Int × Nat
  | indent, [] => (indent, [], 0)
  | indent, outer :: rest =>
    if column < indent then
      let (indent, outers, count) := closeBlocksFrom column outer rest
      (indent, outers, count + 1)
    else (indent, outer :: rest, 0)

/-- Ends the blocks that lie further in than a column. -/
def closeBlocks (lexer : Lexer) (column : Int) : Lexer :=
  if lexer.inFlow then lexer
  else
    let (indent, outerIndents, count) := closeBlocksFrom column lexer.indent lexer.outerIndents
    { lexer with indent, outerIndents, tokens := lexer.tokens ++ List.replicate count .blockEnd }

/-- Gives up the place of a possible key, unless a key is required there. -/
def dropKey? (lexer : Lexer) : Option Lexer :=
  if lexer.keyPlace.any KeyPlace.required then none else some { lexer with keyPlace := none }

/-- Notes that the next token may begin a key, if a key is allowed here. -/
def noteKey? (lexer : Lexer) : Option Lexer :=
  if lexer.keyAllowed then do
    let lexer ← lexer.dropKey?
    let mark := lexer.cursor.mark
    return { lexer with
      keyPlace := some
        { tokenCount := lexer.tokens.length
          mark
          required := !lexer.inFlow && lexer.indent = mark.column } }
  else some lexer

/-- Whether a key that begins at a place could not end here any more: it must be on one line, and
not longer than 1024 bytes. -/
def isStale (mark : Mark) (place : KeyPlace) : Bool :=
  place.mark.line < mark.line || place.mark.index + 1024 < mark.index

/-- A possible key that was not given up. -/
def freshKey? (mark : Mark) (place : Option KeyPlace) : Option (Option KeyPlace) :=
  match place with
  | none => some none
  | some place =>
    if isStale mark place then if place.required then none else some none else some (some place)

/-- Gives up the places of keys that could not end here any more. -/
def dropStaleKeys? (lexer : Lexer) : Option Lexer := do
  let mark := lexer.cursor.mark
  let keyPlace ← freshKey? mark lexer.keyPlace
  let outerKeyPlaces ← lexer.outerKeyPlaces.mapM (freshKey? mark)
  return { lexer with keyPlace, outerKeyPlaces }

/-- Passes over white space and comments, at most so many lines. Where a key may begin outside
brackets, a tab is no white space. After a line break a key may begin. A byte order mark at the
beginning of a line means nothing, but takes a column. -/
def dropSpace : Nat → Lexer → Lexer
  | 0, lexer => lexer
  | count + 1, lexer =>
    let tabs := lexer.inFlow || !lexer.keyAllowed
    let cursor := lexer.cursor.dropByteOrderMark.dropWhile fun c => c = ' ' || tabs && c = '\t'
    let cursor := if cursor.rest.head? = some '#' then cursor.dropWhile fun c => !isBreak c else cursor
    if cursor.rest.head?.any isBreak then
      dropSpace count
        { lexer with cursor := cursor.dropBreak, keyAllowed := lexer.keyAllowed || !lexer.inFlow }
    else { lexer with cursor }

/-- Ends all blocks, for what stands between documents. -/
def leaveBlocks? (lexer : Lexer) : Option Lexer := do
  let lexer ← (lexer.closeBlocks (-1)).dropKey?
  return { lexer with keyAllowed := false }

/-- The end of the text, which counts as the beginning of a line. -/
def lexEnd? (lexer : Lexer) : Option Lexer := do
  let lexer ← lexer.leaveBlocks?
  return lexer.push .streamEnd

def lexDirective? (lexer : Lexer) : Option Lexer := do
  let lexer ← lexer.leaveBlocks?
  let (directive, cursor) ← Directive.read? lexer.cursor
  return { lexer.push (.directive directive) with cursor }

def lexDocumentMark? (lexer : Lexer) (token : Token) : Option Lexer := do
  let lexer ← lexer.leaveBlocks?
  return lexer.pushOver 3 token

/-- An opening bracket, which may begin a key. -/
def lexOpening? (lexer : Lexer) (token : Token) : Option Lexer := do
  let lexer ← lexer.noteKey?
  return { lexer.pushOver 1 token with
    keyPlace := none
    outerKeyPlaces := lexer.keyPlace :: lexer.outerKeyPlaces
    keyAllowed := true }

def lexClosing? (lexer : Lexer) (token : Token) : Option Lexer := do
  let lexer ← lexer.dropKey?
  let lexer :=
    match lexer.outerKeyPlaces with
    | [] => lexer
    | keyPlace :: outerKeyPlaces => { lexer with keyPlace, outerKeyPlaces }
  return { lexer.pushOver 1 token with keyAllowed := false }

def lexComma? (lexer : Lexer) : Option Lexer := do
  let lexer ← lexer.dropKey?
  return { lexer.pushOver 1 .flowEntry with keyAllowed := true }

def lexDash? (lexer : Lexer) : Option Lexer :=
  if !lexer.inFlow && !lexer.keyAllowed then none
  else do
    let lexer := lexer.openBlock lexer.cursor.mark.column lexer.tokens.length .blockSequenceStart
    let lexer ← lexer.dropKey?
    return { lexer.pushOver 1 .blockEntry with keyAllowed := true }

def lexKey? (lexer : Lexer) : Option Lexer :=
  if !lexer.inFlow && !lexer.keyAllowed then none
  else do
    let lexer := lexer.openBlock lexer.cursor.mark.column lexer.tokens.length .blockMappingStart
    let lexer ← lexer.dropKey?
    return { lexer.pushOver 1 .key with keyAllowed := !lexer.inFlow }

/-- The colon before a value. If a key may have begun before, it did. -/
def lexValue? (lexer : Lexer) : Option Lexer :=
  match lexer.keyPlace with
  | some place =>
    let lexer := lexer.insertAt place.tokenCount .key
    let lexer := lexer.openBlock place.mark.column place.tokenCount .blockMappingStart
    some { lexer.pushOver 1 .value with keyPlace := none, keyAllowed := false }
  | none =>
    if !lexer.inFlow && !lexer.keyAllowed then none
    else
      let lexer := lexer.openBlock lexer.cursor.mark.column lexer.tokens.length .blockMappingStart
      some { lexer.pushOver 1 .value with keyAllowed := !lexer.inFlow }

/-- A token that may begin a key, and after which none may begin. -/
def lexNode? (lexer : Lexer) (read : Cursor → Option (Token × Cursor)) : Option Lexer := do
  let lexer ← lexer.noteKey?
  let (token, cursor) ← read lexer.cursor
  return { lexer.push token with cursor, keyAllowed := false }

def lexAlias? (lexer : Lexer) : Option Lexer :=
  lexer.lexNode? fun cursor => (readAnchor? cursor).map fun (name, after) => (.alias name, after)

def lexAnchor? (lexer : Lexer) : Option Lexer :=
  lexer.lexNode? fun cursor => (readAnchor? cursor).map fun (name, after) => (.anchor name, after)

def lexTag? (lexer : Lexer) : Option Lexer :=
  lexer.lexNode? fun cursor => (Tag.read? lexer.inFlow cursor).map fun (tag, after) => (.tag tag, after)

def lexBlockScalar? (lexer : Lexer) (style : ScalarStyle) : Option Lexer := do
  let lexer ← lexer.dropKey?
  let read ← readBlockScalar (style = .folded) lexer.indent (lexer.cursor.drop 1)
  return { lexer.push (.scalar style read.text) with cursor := read.cursor, keyAllowed := true }

def lexQuoted? (lexer : Lexer) (style : ScalarStyle) : Option Lexer :=
  lexer.lexNode? fun cursor => do
    let start := cursor.drop 1
    let read ←
      if style = .singleQuoted then readSingleQuoted {} start.mark start.rest
      else readDoubleQuoted {} start.mark start.rest
    return (.scalar style read.text, read.cursor)

/-- A plain scalar. If a new line began after it, a key may begin there. -/
def lexPlain? (lexer : Lexer) : Option Lexer := do
  let lexer ← lexer.noteKey?
  let read ← readPlain lexer.inFlow (lexer.indent + 1) {} lexer.cursor.mark lexer.cursor.rest
  return { lexer.push (.scalar .plain read.text) with
    cursor := read.cursor
    keyAllowed := read.onNewLine }

/-- Whether a plain scalar can begin with this character before this text. -/
def beginsPlain (inFlow : Bool) (c : Char) (rest : List Char) : Bool :=
  !(isBlank c || isBreak c || "-?:,[]\x7b\x7d#&*!|>'\"%@`".toList.contains c) ||
  c = '-' && !(rest.head?.any isBlank) ||
  !inFlow && (c = '?' || c = ':') && !startsBlank rest

/-- Reads the next token, which begins with this character. -/
def lexFrom? (lexer : Lexer) (c : Char) (rest : List Char) : Option Lexer :=
  let inFlow := lexer.inFlow
  let atLineStart := lexer.cursor.mark.column = 0
  if atLineStart && c = '%' then lexer.lexDirective?
  else if atLineStart && startsDocumentMark (c :: rest) then
    lexer.lexDocumentMark? (if c = '-' then .documentStart else .documentEnd)
  else if c = '[' then lexer.lexOpening? .flowSequenceStart
  else if c = '{' then lexer.lexOpening? .flowMappingStart
  else if c = ']' then lexer.lexClosing? .flowSequenceEnd
  else if c = '}' then lexer.lexClosing? .flowMappingEnd
  else if c = ',' then lexer.lexComma?
  else if c = '-' && startsBlank rest then lexer.lexDash?
  else if c = '?' && (inFlow || startsBlank rest) then lexer.lexKey?
  else if c = ':' && (inFlow || startsBlank rest) then lexer.lexValue?
  else if c = '*' then lexer.lexAlias?
  else if c = '&' then lexer.lexAnchor?
  else if c = '!' then lexer.lexTag?
  else if c = '|' && !inFlow then lexer.lexBlockScalar? .literal
  else if c = '>' && !inFlow then lexer.lexBlockScalar? .folded
  else if c = '\'' then lexer.lexQuoted? .singleQuoted
  else if c = '"' then lexer.lexQuoted? .doubleQuoted
  else if beginsPlain inFlow c rest then lexer.lexPlain?
  else none

/-- Reads tokens to the end of the text, at most so many. -/
def run : Nat → Lexer → Option (List Token)
  | 0, _ => none
  | count + 1, lexer => do
    let lexer ← (lexer.dropSpace (lexer.cursor.rest.length + 1)).dropStaleKeys?
    let lexer := lexer.closeBlocks lexer.cursor.mark.column
    match lexer.cursor.rest with
    | [] => return (← lexer.lexEnd?).tokens
    | c :: rest => run count (← lexer.lexFrom? c rest)

end Lexer

/-- The tokens of a text, if it is well formed. Each token but the last takes at least one
character. -/
def Token.ofText? (text : String) : Option (List Token) :=
  let chars := text.toList
  if chars.all isAllowed then Lexer.run (chars.length + 1) { cursor := ⟨chars, {}⟩ } else none

end CallOrder.Yaml
