import CallOrder.Yaml.Scalar

/-! Tags, anchors and directives in YAML. -/
namespace CallOrder.Yaml

/-- A tag as it is written: a handle, which a directive may define, and what follows it. -/
structure Tag where
  handle : List Char
  suffix : List Char
deriving DecidableEq, Repr

/-- What a line that begins with a percent sign says. -/
inductive Directive where
  | version (major minor : Nat)
  | tag (handle replacement : List Char)
deriving DecidableEq, Repr

namespace Tag

def standardHandles : List (List Char × List Char) :=
  [("!".toList, "!".toList), ("!!".toList, "tag:yaml.org,2002:".toList)]

/-- The full tag. Its handle must be defined. -/
def resolve? (handles : List (List Char × List Char)) (tag : Tag) : Option (List Char) :=
  if tag.handle.isEmpty then some tag.suffix
  else (handles.lookup tag.handle).map (· ++ tag.suffix)

/-- The characters that a tag may hold, besides those of names. Within angle brackets, three more
are allowed. -/
def isTagChar (bracketed : Bool) (c : Char) : Bool :=
  isNameChar c || ";/?:@&=+$.%!~*'()".toList.contains c || bracketed && ",[]".toList.contains c

/-- The number of bytes of a character that begins with this byte, and whether it is one. -/
def byteCount? (byte : Nat) : Option Nat :=
  if byte < 0x80 then some 1
  else if 0xC0 ≤ byte && byte < 0xE0 then some 2
  else if 0xE0 ≤ byte && byte < 0xF0 then some 3
  else if 0xF0 ≤ byte && byte < 0xF8 then some 4
  else none

/-- Reads the characters of a tag. Bytes may be given by two hexadecimal digits after a percent
sign; of a character, all bytes must be given so. Characters of several bytes do not occur in any
tag that has a meaning here, and one sign stands for all of them. The number is that of bytes that
are still to come. -/
def readChars? (bracketed : Bool) : Nat → List Char → Option (List Char × List Char)
  | missing, '%' :: a :: b :: rest => do
    let byte ← valueOfHex? [a, b]
    if missing = 0 then
      let count ← byteCount? byte
      let (text, after) ← readChars? bracketed (count - 1) rest
      return ((if count = 1 then Char.ofNat byte else '\ufffd') :: text, after)
    else if 0x80 ≤ byte && byte < 0xC0 then readChars? bracketed (missing - 1) rest
    else none
  | missing, c :: rest =>
    if missing != 0 || c = '%' then none
    else if isTagChar bracketed c then do
      let (text, after) ← readChars? bracketed 0 rest
      return (c :: text, after)
    else some ([], c :: rest)
  | missing, [] => if missing = 0 then some ([], []) else none

/-- Reads the characters of a tag at a place. -/
def readSuffix? (bracketed : Bool) (cursor : Cursor) : Option (List Char × Cursor) := do
  let (text, after) ← readChars? bracketed 0 cursor.rest
  return (text, cursor.drop (cursor.rest.length - after.length))

/-- What counts of the characters of a tag: those before a null character. -/
def beforeNull (text : List Char) : List Char := text.takeWhile (· != '\x00')

/-- Reads a handle: an exclamation mark, a name, and, unless something else follows, a second
exclamation mark. -/
def readHandle? (cursor : Cursor) : Option (List Char × Cursor) :=
  match cursor.rest with
  | '!' :: _ =>
    let (name, after) := (cursor.drop 1).takeWhile isNameChar
    if after.rest.head? = some '!' then some ('!' :: name ++ ['!'], after.drop 1)
    else some ('!' :: name, after)
  | _ => none

/-- Reads a tag: between angle brackets, with a handle, or without. -/
def readForm? (cursor : Cursor) : Option (Tag × Cursor) :=
  if cursor.rest[1]? = some '<' then do
    let (suffix, after) ← readSuffix? true (cursor.drop 2)
    if suffix.isEmpty || after.rest.head? != some '>' then none
    else some (⟨[], beforeNull suffix⟩, after.drop 1)
  else do
    let (handle, after) ← readHandle? cursor
    if 1 < handle.length && handle.getLast? = some '!' then
      let (suffix, after) ← readSuffix? false after
      if suffix.isEmpty then none else some (⟨handle, beforeNull suffix⟩, after)
    else
      let (more, after) ← readSuffix? false after
      let suffix := beforeNull (handle.drop 1 ++ more)
      if suffix.isEmpty then some (⟨[], ['!']⟩, after) else some (⟨['!'], suffix⟩, after)

/-- Reads a tag with what must follow it: white space, or a comma within brackets. -/
def read? (inFlow : Bool) (cursor : Cursor) : Option (Tag × Cursor) := do
  let (tag, after) ← readForm? cursor
  if inFlow && after.rest.head? = some ',' || startsBlank after.rest then some (tag, after) else none

end Tag

/-- Reads the name of an anchor with what must follow it: white space or an indicator. -/
def readAnchor? (cursor : Cursor) : Option (List Char × Cursor) :=
  let (name, after) := (cursor.drop 1).takeWhile isNameChar
  let ends :=
    match after.rest with
    | [] => true
    | c :: _ => isBlank c || isBreak c || "?:,]\x7d%@`".toList.contains c
  if name.isEmpty || !ends then none else some (name, after)

namespace Directive

/-- Reads a number of a version, which has at most nine digits. -/
def readNumber? (cursor : Cursor) : Option (Nat × Cursor) :=
  let (digits, after) := cursor.takeWhile fun c => '0' ≤ c && c ≤ '9'
  if digits.isEmpty || 9 < digits.length then none
  else some (digits.foldl (fun n c => 10 * n + (c.toNat - '0'.toNat)) 0, after)

/-- Reads what stands between the name of a directive and the end of its line. -/
def readValue? (name : List Char) (cursor : Cursor) : Option (Directive × Cursor) :=
  let cursor := cursor.dropWhile isBlank
  if name = "YAML".toList then do
    let (major, after) ← readNumber? cursor
    if after.rest.head? != some '.' then none
    else
      let (minor, after) ← readNumber? (after.drop 1)
      return (.version major minor, after)
  else if name = "TAG".toList then do
    let (handle, after) ← Tag.readHandle? cursor
    if handle != ['!'] && handle.getLast? != some '!' then none
    else if !(after.rest.head?.any isBlank) then none
    else
      let (replacement, after) ← Tag.readSuffix? true (after.dropWhile isBlank)
      if replacement.isEmpty || !startsBlank after.rest then none
      else return (.tag handle (Tag.beforeNull replacement), after)
  else none

/-- Reads a directive and the rest of its line. -/
def read? (cursor : Cursor) : Option (Directive × Cursor) := do
  let (name, after) := (cursor.drop 1).takeWhile isNameChar
  if name.isEmpty || !startsBlank after.rest then none
  else
    let (directive, after) ← readValue? name after
    return (directive, ← after.dropLineEnd?)

end Directive

end CallOrder.Yaml
