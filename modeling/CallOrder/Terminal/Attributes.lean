import CallOrder.Decimal.Notation
import CallOrder.Decimal.Reading
import CallOrder.Terminal.Control

/-! The attributes that control sequences give to the text after them. -/
namespace CallOrder.Terminal

/-- The attributes of text at a place. -/
structure Attributes where
  /-- The numbers that turned an attribute on. -/
  switches : List Nat := []
  font : Option Nat := none
  /-- The numbers that set the colour of the text, of its ground, and of the line below it. -/
  ink : Option (List Nat) := none
  ground : Option (List Nat) := none
  underline : Option (List Nat) := none
deriving DecidableEq, Repr

/-- The numbers that turn an attribute on, with those that turn it off. -/
def switchTable : List (Nat × Nat) :=
  [(1, 22), (2, 22), (3, 23), (4, 24), (21, 24), (5, 25), (6, 25), (7, 27), (8, 28), (9, 29),
    (20, 23), (26, 50), (51, 54), (52, 54), (53, 55), (60, 65), (61, 65), (62, 65), (63, 65),
    (64, 65), (73, 75), (74, 75)]

/-- The numbers that turn attributes off, each once. -/
def offSwitches : List Nat := [22, 23, 24, 25, 27, 28, 29, 50, 54, 55, 65, 75]

namespace Attributes

/-- What a single number changes. One without a meaning changes nothing. -/
def set (attributes : Attributes) (n : Nat) : Attributes :=
  if n = 0 then {}
  else if n = 10 then { attributes with font := none }
  else if 11 ≤ n && n ≤ 19 then { attributes with font := some n }
  else if 30 ≤ n && n ≤ 37 || 90 ≤ n && n ≤ 97 then { attributes with ink := some [n] }
  else if 40 ≤ n && n ≤ 47 || 100 ≤ n && n ≤ 107 then { attributes with ground := some [n] }
  else if n = 39 then { attributes with ink := none }
  else if n = 49 then { attributes with ground := none }
  else if n = 59 then { attributes with underline := none }
  else if offSwitches.contains n then
    { attributes with
      switches := attributes.switches.filter fun on => switchTable.lookup on != some n }
  else if (switchTable.lookup n).isSome && !attributes.switches.contains n then
    { attributes with switches := n :: attributes.switches }
  else attributes

/-- Sets a colour that is given by several numbers. -/
def setColour (attributes : Attributes) (n : Nat) (colour : List Nat) : Attributes :=
  if n = 38 then { attributes with ink := some colour }
  else if n = 48 then { attributes with ground := some colour }
  else { attributes with underline := some colour }

/-- What the numbers of a sequence change. A colour may be given by its place in a palette or by
three parts. -/
def setAll : Attributes → List Nat → Attributes
  | attributes, [] => attributes
  | attributes, n :: 5 :: i :: rest =>
    if n = 38 || n = 48 || n = 58 then setAll (attributes.setColour n [n, 5, i]) rest
    else setAll (attributes.set n) (5 :: i :: rest)
  | attributes, n :: 2 :: r :: g :: b :: rest =>
    if n = 38 || n = 48 || n = 58 then setAll (attributes.setColour n [n, 2, r, g, b]) rest
    else setAll (attributes.set n) (2 :: r :: g :: b :: rest)
  | attributes, n :: rest => setAll (attributes.set n) rest
termination_by _ numbers => numbers.length

/-- A control sequence that sets attributes. -/
def spell (numbers : List Nat) : List Char :=
  "\x1b[".toList ++ [';'].intercalate (numbers.map Decimal.digitsOf) ++ ['m']

/-- The sequences that give these attributes to text. -/
def opening (attributes : Attributes) : List Char :=
  let switches := (switchTable.map Prod.fst).filter attributes.switches.contains
  (switches ++ attributes.font.toList).flatMap (fun n => spell [n]) ++
    (attributes.ink.toList ++ attributes.ground.toList ++ attributes.underline.toList).flatMap spell

/-- The sequences that take these attributes from text. -/
def closing (attributes : Attributes) : List Char :=
  let switches :=
    offSwitches.filter fun off => attributes.switches.any fun on => switchTable.lookup on == some off
  let numbers :=
    (if attributes.font.isSome then [10] else []) ++ switches ++
      (if attributes.ink.isSome then [39] else []) ++
      (if attributes.ground.isSome then [49] else []) ++
      (if attributes.underline.isSome then [59] else [])
  numbers.flatMap fun n => spell [n]

/-- The numbers of a sequence, which semicolons separate. A missing one is zero. If something else
stands there, there are none. -/
def numbersOf (body : List Char) : List Nat :=
  if body.all fun c => Decimal.isDigit c || c = ';' then
    (body.splitOn ';').map Decimal.valueOfDigits
  else []

/-- The attributes behind a line, from those before it. -/
def after (attributes : Attributes) (line : List Char) : Attributes :=
  (attributeBodies .text line).foldl (fun attributes body => attributes.setAll (numbersOf body))
    attributes

/-- Lines that are shown apart, each with the attributes that it had behind the lines before it. An
empty line stays empty. -/
def carry : Attributes → List (List Char) → List (List Char)
  | _, [] => []
  | attributes, line :: rest =>
    if line.isEmpty then line :: carry attributes rest
    else
      let behind := attributes.after line
      (attributes.opening ++ line ++ behind.closing) :: carry behind rest

end Attributes

end CallOrder.Terminal
