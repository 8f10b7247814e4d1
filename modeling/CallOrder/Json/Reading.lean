import CallOrder.Json.Token

/-! What a JSON text shows when it is read as far as possible. Whether a flaw matters, and which of
several comes first, depends on what the reader looks for; so flaws are kept where they stand. -/
namespace CallOrder.Json

/-- How a list goes on after its last item, or after its opening bracket. -/
inductive ListEnd where
  | closed
  | cut
  | cutAfterComma
  | closedAfterComma
  /-- Something else than a comma or a bracket follows. -/
  | noSeparator
deriving DecidableEq, Repr

/-- How an object goes on after its last member, or after its opening brace. -/
inductive ObjectEnd where
  | closed
  | cut
  | cutAfterComma
  | closedAfterComma
  /-- Something else than a string stands where a key is wanted. -/
  | noKey
  | noKeyAfterComma
  /-- Something else than a comma or a brace follows. -/
  | noSeparator
deriving DecidableEq, Repr

/-- A value as far as it can be read. -/
inductive Reading where
  | word (w : Word)
  | number (n : Numeral)
  | string (q : Quoted)
  | list (items : List Reading) (ending : ListEnd)
  | object (members : List (Quoted × Reading)) (ending : ObjectEnd)
  | flaw (fault : Fault)

namespace Reading

mutual

/-- Reads a value. The count bounds the number of steps. -/
def readValue : Nat → List Token → Reading × List Token
  | 0, tokens => (.flaw .endInValue, tokens)
  | _ + 1, [] => (.flaw .endInValue, [])
  | count + 1, token :: rest =>
    match token with
    | .word w => (.word w, rest)
    | .badWord fault => (.flaw fault, rest)
    | .number n => (.number n, rest)
    | .string q => (.string q, rest)
    | .openList =>
      match rest with
      | [] => (.list [] .cut, [])
      | .closeList :: rest => (.list [] .closed, rest)
      | _ =>
        let (items, ending, rest) := readItems count rest
        (.list items ending, rest)
    | .openObject =>
      match rest with
      | [] => (.object [] .cut, [])
      | .closeObject :: rest => (.object [] .closed, rest)
      | .string key :: rest =>
        let (members, ending, rest) := readMembers count key rest
        (.object members ending, rest)
      | _ => (.object [] .noKey, rest)
    | _ => (.flaw .noValue, rest)

/-- Reads an item of a list and what follows it. -/
def readItems : Nat → List Token → List Reading × ListEnd × List Token
  | 0, tokens => ([], .cut, tokens)
  | count + 1, tokens =>
    let (item, rest) := readValue count tokens
    match rest with
    | [] => ([item], .cut, [])
    | .closeList :: rest => ([item], .closed, rest)
    | [.comma] => ([item], .cutAfterComma, [])
    | .comma :: .closeList :: rest => ([item], .closedAfterComma, rest)
    | .comma :: rest =>
      let (items, ending, rest) := readItems count rest
      (item :: items, ending, rest)
    | _ => ([item], .noSeparator, rest)

/-- Reads a member of an object from behind its key, and what follows it. -/
def readMembers : Nat → Quoted → List Token → List (Quoted × Reading) × ObjectEnd × List Token
  | 0, _, tokens => ([], .cut, tokens)
  | _ + 1, key, [] => ([(key, .flaw .endInObject)], .cut, [])
  | count + 1, key, .colon :: tokens =>
    let (value, rest) := readValue count tokens
    match rest with
    | [] => ([(key, value)], .cut, [])
    | .closeObject :: rest => ([(key, value)], .closed, rest)
    | [.comma] => ([(key, value)], .cutAfterComma, [])
    | .comma :: .closeObject :: rest => ([(key, value)], .closedAfterComma, rest)
    | .comma :: .string next :: rest =>
      let (members, ending, rest) := readMembers count next rest
      ((key, value) :: members, ending, rest)
    | .comma :: rest => ([(key, value)], .noKeyAfterComma, rest)
    | _ => ([(key, value)], .noSeparator, rest)
  | _ + 1, key, tokens => ([(key, .flaw .noColon)], .noSeparator, tokens)

end

/-- The value at the beginning of a text, and whether something follows it. A step takes a token,
or is followed by one that does. -/
def ofText (text : String) : Reading × Bool :=
  let tokens := Token.ofText text
  let (reading, rest) := readValue (2 * tokens.length + 1) tokens
  (reading, !rest.isEmpty)

end Reading

/-- The fault of a list's end, for one who reads its items. -/
def ListEnd.check : ListEnd → Except Fault Unit
  | .closed => .ok ()
  | .cut => .error .endInList
  | .cutAfterComma => .error .endInValue
  | .closedAfterComma => .error .trailingComma
  | .noSeparator => .error .noListSeparator

/-- The fault of a list's end, for one who has read all the items that he wants. -/
def ListEnd.checkFull : ListEnd → Except Fault Unit
  | .closed => .ok ()
  | .cut => .error .endInList
  | .closedAfterComma => .error .trailingComma
  | .cutAfterComma | .noSeparator => .error .trailingText

/-- The fault of a list's end, for one who passes over it. -/
def ListEnd.skip : ListEnd → Except Fault Unit
  | .closedAfterComma => .error .noValue
  | ending => ending.check

/-- The fault of an object's end, for one who reads its members. -/
def ObjectEnd.check : ObjectEnd → Except Fault Unit
  | .closed => .ok ()
  | .cut => .error .endInObject
  | .cutAfterComma => .error .endInValue
  | .closedAfterComma => .error .trailingComma
  | .noKey | .noKeyAfterComma => .error .keyNotString
  | .noSeparator => .error .noObjectSeparator

/-- The fault of an object's end, for one who passes over it. -/
def ObjectEnd.skip : ObjectEnd → Except Fault Unit
  | .cutAfterComma => .error .endInObject
  | .closedAfterComma => .error .keyNotString
  | ending => ending.check

namespace Reading

mutual

/-- Passes over a value that is not wanted. It must be well formed, but may stand for no text and
no number, and may nest to any depth. -/
def skip : Reading → Except Fault Unit
  | .word _ => .ok ()
  | .number n => n.skip
  | .string q => q.skip
  | .list items ending => do
    skipItems items
    ending.skip
  | .object members ending => do
    skipMembers members
    ending.skip
  | .flaw fault => .error fault

def skipItems : List Reading → Except Fault Unit
  | [] => .ok ()
  | item :: rest => do
    skip item
    skipItems rest

def skipMembers : List (Quoted × Reading) → Except Fault Unit
  | [] => .ok ()
  | (key, value) :: rest => do
    key.skip
    skip value
    skipMembers rest

end

/-- Goes one level down, if a level is left. -/
def descend (depth : Nat) : Except Fault Nat :=
  if depth ≤ 1 then .error .tooDeep else .ok (depth - 1)

mutual

/-- Reads a value of any kind to its end, through at most so many levels. -/
def readThrough : Nat → Reading → Except Fault Unit
  | _, .word _ => .ok ()
  | _, .number n => do
    let _ ← n.value
  | _, .string q => do
    let _ ← q.text
  | depth, .list items ending => do
    readItemsThrough (← descend depth) items
    ending.check
  | depth, .object members ending => do
    readMembersThrough (← descend depth) members
    ending.check
  | _, .flaw fault => .error fault

def readItemsThrough : Nat → List Reading → Except Fault Unit
  | _, [] => .ok ()
  | depth, item :: rest => do
    readThrough depth item
    readItemsThrough depth rest

def readMembersThrough : Nat → List (Quoted × Reading) → Except Fault Unit
  | _, [] => .ok ()
  | depth, (key, value) :: rest => do
    let _ ← key.text
    readThrough depth value
    readMembersThrough depth rest

end

/-- What a value is. A list or an object is known by how it begins. -/
def found : Reading → Except Fault Found
  | .word .null => .ok .null
  | .word .no => .ok (.boolean false)
  | .word .yes => .ok (.boolean true)
  | .number n => do
    match ← n.value with
    | .whole i => return .integer i
    | .real x => return .real x
  | .string q => do return .text (← q.text)
  | .list .. => .ok .list
  | .object .. => .ok .object
  | .flaw fault => .error fault

/-- The fault of a value that is of another kind than the one that is wanted. -/
def mismatch {α : Type} (reading : Reading) (wanted : String) : Except Fault α := do
  throw (.wrongKind (← reading.found) wanted)

end Reading

end CallOrder.Json
