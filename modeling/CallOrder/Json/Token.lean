import CallOrder.Json.Numeral
import CallOrder.Json.Quoted

/-! The tokens of a JSON text. White space between tokens is dropped, and a token with a fault in
its spelling is the last one. -/
namespace CallOrder.Json

/-- The three values that are words. -/
inductive Word where
  | null
  | no
  | yes
deriving DecidableEq, Repr

def Word.letters : Word → List Char
  | .null => "null".toList
  | .no => "false".toList
  | .yes => "true".toList

/-- A token of a JSON text. -/
inductive Token where
  | openList
  | closeList
  | openObject
  | closeObject
  | comma
  | colon
  | word (w : Word)
  /-- A word that ends too early or goes on wrongly. -/
  | badWord (fault : Fault)
  | number (n : Numeral)
  | string (q : Quoted)
  /-- A character with which no token begins. -/
  | stray
deriving DecidableEq

namespace Token

/-- White space in JSON: space, tab, line feed and carriage return. -/
def isSpace (c : Char) : Bool := c = ' ' || c = '\t' || c = '\n' || c = '\r'

/-- Whether the text cannot be read beyond this token. -/
def isLast : Token → Bool
  | .badWord _ | .stray => true
  | .number n => n.ending != .complete
  | .string q => q.ending != .closed
  | _ => false

/-- Reads the rest of a word; letters are compared one by one. -/
def readWord (w : Word) : List Char → List Char → Token × List Char
  | [], rest => (.word w, rest)
  | _ :: _, [] => (.badWord .endInValue, [])
  | letter :: letters, c :: rest =>
    if c = letter then readWord w letters rest else (.badWord .misspelledWord, rest)

/-- Reads the token that begins with this character. -/
def readFrom (c : Char) (rest : List Char) : Token × List Char :=
  if c = '[' then (.openList, rest)
  else if c = ']' then (.closeList, rest)
  else if c = '{' then (.openObject, rest)
  else if c = '}' then (.closeObject, rest)
  else if c = ',' then (.comma, rest)
  else if c = ':' then (.colon, rest)
  else if c = '"' then
    let (quoted, after) := Quoted.read rest
    (.string quoted, after)
  else if c = '-' || Decimal.isDigit c then
    let (numeral, after) := Numeral.read (c :: rest)
    (.number numeral, after)
  else if c = 'n' then readWord .null Word.null.letters (c :: rest)
  else if c = 'f' then readWord .no Word.no.letters (c :: rest)
  else if c = 't' then readWord .yes Word.yes.letters (c :: rest)
  else (.stray, rest)

/-- The tokens of a text, at most so many. -/
def readSome : Nat → List Char → List Token
  | 0, _ => []
  | count + 1, text =>
    match text.dropWhile isSpace with
    | [] => []
    | c :: rest =>
      let (token, after) := readFrom c rest
      token :: if token.isLast then [] else readSome count after

/-- The tokens of a text. Each one takes at least one character. -/
def ofText (text : String) : List Token := readSome text.toList.length text.toList

end Token

end CallOrder.Json
