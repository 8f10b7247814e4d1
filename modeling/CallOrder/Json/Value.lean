import CallOrder.Decimal.Notation
import CallOrder.Text.Quoted

/-! JSON values, and the two ways in which they are written: without any space, and with one item
or member on each line. -/
namespace CallOrder.Json

/-- A JSON value. The members of an object keep their order. -/
inductive Value where
  | null
  | boolean (b : Bool)
  | integer (n : Nat)
  | real (x : Float)
  | string (s : String)
  | list (items : List Value)
  | object (members : List (String × Value))
deriving Inhabited

namespace Value

def escapeChar (c : Char) : List Char :=
  if c = '"' || c = '\\' then ['\\', c]
  else if c = '\x08' then ['\\', 'b']
  else if c = '\x0c' then ['\\', 'f']
  else if c = '\n' then ['\\', 'n']
  else if c = '\r' then ['\\', 'r']
  else if c = '\t' then ['\\', 't']
  else if c.toNat < 0x20 then
    let digits := Text.hexDigits c.toNat
    '\\' :: 'u' :: List.replicate (4 - digits.length) '0' ++ digits
  else [c]

def quote (s : String) : List Char := '"' :: s.toList.flatMap escapeChar ++ ['"']

/-- A value that is no list or object. Numbers that are not finite cannot be written. -/
def writeReal (x : Float) : List Char :=
  if x.isFinite then Decimal.dataNotation.spellParts (.ofFloat x) else "null".toList

def joinCommas : List (List Char) → List Char
  | [] => []
  | [text] => text
  | text :: rest => text ++ ',' :: joinCommas rest

mutual

def compact : Value → List Char
  | .null => "null".toList
  | .boolean b => if b then "true".toList else "false".toList
  | .integer n => Decimal.digitsOf n
  | .real x => writeReal x
  | .string s => quote s
  | .list items => '[' :: joinCommas (compactItems items) ++ [']']
  | .object members => '{' :: joinCommas (compactMembers members) ++ ['}']

def compactItems : List Value → List (List Char)
  | [] => []
  | item :: rest => compact item :: compactItems rest

def compactMembers : List (String × Value) → List (List Char)
  | [] => []
  | (key, value) :: rest => (quote key ++ ':' :: compact value) :: compactMembers rest

end

/-- The beginning of a line at some level. -/
def newLine (level : Nat) : List Char := '\n' :: List.replicate (2 * level) ' '

/-- Brackets around lines, and nothing between them if there is no line. -/
def bracketLines (level : Nat) (opening closing : Char) (lines : List (List Char)) : List Char :=
  if lines.isEmpty then [opening, closing]
  else
    opening :: joinCommas (lines.map (newLine (level + 1) ++ ·)) ++ newLine level ++ [closing]

mutual

/-- A value with its items or members on lines of their own, each level two spaces further in. -/
def indented : Nat → Value → List Char
  | level, .list items => bracketLines level '[' ']' (indentedItems (level + 1) items)
  | level, .object members => bracketLines level '{' '}' (indentedMembers (level + 1) members)
  | _, .null => "null".toList
  | _, .boolean b => if b then "true".toList else "false".toList
  | _, .integer n => Decimal.digitsOf n
  | _, .real x => writeReal x
  | _, .string s => quote s

def indentedItems : Nat → List Value → List (List Char)
  | _, [] => []
  | level, item :: rest => indented level item :: indentedItems level rest

def indentedMembers : Nat → List (String × Value) → List (List Char)
  | _, [] => []
  | level, (key, value) :: rest =>
    (quote key ++ ':' :: ' ' :: indented level value) :: indentedMembers level rest

end

def toText (value : Value) : String := String.ofList value.compact

def toLines (value : Value) : String := String.ofList (indented 0 value)

/-- Puts a member before the first one with a greater key. -/
def insertMember (member : String × Value) : List (String × Value) → List (String × Value)
  | [] => [member]
  | next :: rest =>
    if next.1 < member.1 then next :: insertMember member rest else member :: next :: rest

mutual

/-- The same value with the members of each object in ascending order of their keys. -/
def sortKeys : Value → Value
  | .list items => .list (sortItems items)
  | .object members => .object (sortMembers members)
  | value => value

def sortItems : List Value → List Value
  | [] => []
  | item :: rest => sortKeys item :: sortItems rest

def sortMembers : List (String × Value) → List (String × Value)
  | [] => []
  | (key, value) :: rest => insertMember (key, sortKeys value) (sortMembers rest)

end

end Value

end CallOrder.Json
