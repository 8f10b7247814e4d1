import CallOrder.Json.Reading
import CallOrder.Json.Value
import CallOrder.NameMap

/-! How the types of the library are written in JSON, and read from it. A format is both at once,
so that each record is described in one place. -/
namespace CallOrder.Json

/-- How values of a type are written and read. A reader is told through how many more levels of
lists and objects it may go. -/
structure Format (α : Type) where
  read : Nat → Reading → Except Fault α
  write : α → Value

namespace Format

/-- The number of levels through which a whole text may nest, plus one. -/
def depthLimit : Nat := 128

def readText {α : Type} (format : Format α) (text : String) : Except Fault α :=
  let (reading, goesOn) := Reading.ofText text
  match format.read depthLimit reading with
  | .error fault => .error fault
  | .ok value => if goesOn then .error .trailingText else .ok value

/-- A type that is written as another one. -/
def via {α β : Type} (format : Format α) (into : α → β) (back : β → α) : Format β where
  read depth reading := (format.read depth reading).map into
  write value := format.write (back value)

def text : Format String where
  read _
    | .string q => q.text
    | reading => reading.mismatch "a string"
  write := .string

def flag : Format Bool where
  read _
    | .word .yes => .ok true
    | .word .no => .ok false
    | reading => reading.mismatch "a boolean"
  write := .boolean

/-- A whole number of 64 bits without a sign, under the name of its kind. -/
def natural (wanted : String) : Format Nat where
  read _ reading := do
    match reading with
    | .number n =>
      match ← n.value with
      | .whole (.ofNat n) => return n
      | .whole i => throw (.wrongValue (.integer i) wanted)
      | .real x => throw (.wrongKind (.real x) wanted)
    | _ => reading.mismatch wanted
  write := .integer

def count : Format Nat := natural "usize"

def size : Format UInt64 := count.via Nat.toUInt64 UInt64.toNat

/-- A number that stands for something, such as a line or a file. -/
def word : Format UInt64 := (natural "u64").via Nat.toUInt64 UInt64.toNat

/-- A number of double precision. Whole numbers are rounded to it. -/
def real : Format Float where
  read _ reading := do
    match reading with
    | .number n =>
      match ← n.value with
      | .whole (.ofNat n) => return n.toUInt64.toFloat
      | .whole (.negSucc n) => return -((n + 1).toUInt64.toFloat)
      | .real x => return x
    | _ => reading.mismatch "f64"
  write := .real

def optional {α : Type} (format : Format α) : Format (Option α) where
  read depth
    | .word .null => .ok none
    | .flaw fault => .error fault
    | reading => (format.read depth reading).map some
  write
    | none => .null
    | some value => format.write value

def list {α : Type} (format : Format α) : Format (List α) where
  read depth
    | .list items ending => do
      let depth ← Reading.descend depth
      let values ← items.mapM (format.read depth)
      ending.check
      return values
    | reading => reading.mismatch "a sequence"
  write values := .list (values.map format.write)

/-- Reads the members of a map one after the other. -/
def readEntries {α : Type} (format : Format α) (depth : Nat) :
    List (Quoted × Reading) → NameMap α → Except Fault (NameMap α)
  | [], map => .ok map
  | (key, value) :: rest, map => do
    let name ← key.text
    let value ← format.read depth value
    readEntries format depth rest (map.insert name value)

/-- A map from names. Of several members with one name the last counts. -/
def nameMap {α : Type} (format : Format α) : Format (NameMap α) where
  read depth
    | .object members ending => do
      let map ← readEntries format (← Reading.descend depth) members ∅
      ending.check
      return map
    | reading => reading.mismatch "a map"
  write map := .object (map.entries.map fun (name, value) => (name, format.write value))

end Format

/-- What a missing field stands for. -/
inductive Absent (α : Type) where
  | refused
  /-- The field may miss in an object, but not in a list. -/
  | inObject (value : α)
  | anywhere (value : α)

/-- The fields of a record, each with its name, its format, and what it stands for if it is
missing. -/
inductive Fields : List Type → Type 1
  | nil : Fields []
  | cons {α : Type} {types : List Type} (name : String) (format : Format α) (absent : Absent α)
      (rest : Fields types) : Fields (α :: types)

def Row : List Type → Type
  | [] => Unit
  | type :: types => type × Row types

/-- The values of the fields that were read so far. -/
def Slots : List Type → Type
  | [] => Unit
  | type :: types => Option type × Slots types

def Slots.empty : {types : List Type} → Slots types
  | [] => ()
  | _ :: _ => (none, Slots.empty)

namespace Fields

def count : {types : List Type} → Fields types → Nat
  | _, .nil => 0
  | _, .cons _ _ _ rest => rest.count + 1

/-- Reads the value of a member into its field; nothing if there is no field of that name. A field
must not be there twice. -/
def put? (depth : Nat) (key : String) (value : Reading) :
    {types : List Type} → Fields types → Slots types → Option (Except Fault (Slots types))
  | _, .nil, _ => none
  | _, .cons name format _ rest, (slot, slots) =>
    if key = name then
      match slot with
      | some _ => some (.error (.duplicateField name))
      | none => some ((format.read depth value).map fun value => (some value, slots))
    else (rest.put? depth key value slots).map fun result => result.map fun slots => (slot, slots)

/-- Reads members one after the other. Those that are no fields are passed over. -/
def readMembers (depth : Nat) {types : List Type} (fields : Fields types) :
    List (Quoted × Reading) → Slots types → Except Fault (Slots types)
  | [], slots => .ok slots
  | (key, value) :: rest, slots => do
    let name ← key.text
    match fields.put? depth name value slots with
    | some result => readMembers depth fields rest (← result)
    | none =>
      value.skip
      readMembers depth fields rest slots

/-- The values of all fields, with what the missing ones stand for. -/
def complete : {types : List Type} → Fields types → Slots types → Except Fault (Row types)
  | _, .nil, _ => .ok ()
  | _, .cons name _ absent rest, (slot, slots) => do
    let value ←
      match slot, absent with
      | some value, _ => .ok value
      | none, .refused => .error (.missingField name)
      | none, .inObject value | none, .anywhere value => .ok value
    return (value, ← rest.complete slots)

/-- Reads the fields from the items of a list, in order. The number is that of the fields before
these. Fields beyond the end of the list are missing. -/
def readItems (depth : Nat) (wanted : String) (ending : ListEnd) :
    {types : List Type} → Fields types → Nat → List Reading → Except Fault (Row types)
  | _, .nil, _, [] => do
    ending.checkFull
    return ()
  | _, .nil, _, _ :: _ => .error .trailingText
  | _, .cons _ _ absent rest, before, [] => do
    ending.check
    match absent with
    | .anywhere value => return (value, ← readItems depth wanted ending rest (before + 1) [])
    | _ => .error (.wrongLength before wanted)
  | _, .cons _ format _ rest, before, item :: items => do
    let value ← format.read depth item
    return (value, ← readItems depth wanted ending rest (before + 1) items)

/-- The members of an object with all fields. -/
def write : {types : List Type} → Fields types → Row types → List (String × Value)
  | _, .nil, _ => []
  | _, .cons name format _ rest, (value, values) => (name, format.write value) :: rest.write values

end Fields

/-- A record under its name. It is written as an object, and read from an object, or from a list
of the values of its fields. -/
def Format.record {α : Type} {types : List Type} (name : String) (fields : Fields types)
    (ofRow : Row types → α) (toRow : α → Row types) : Format α where
  read depth reading := do
    let wanted := "struct " ++ name
    match reading with
    | .object members ending =>
      let slots ← fields.readMembers (← Reading.descend depth) members .empty
      ending.check
      return ofRow (← fields.complete slots)
    | .list items ending =>
      let elements := if fields.count = 1 then " element" else " elements"
      let wanted := wanted ++ " with " ++ String.ofList (Decimal.digitsOf fields.count) ++ elements
      return ofRow (← fields.readItems (← Reading.descend depth) wanted ending 0 items)
    | _ => reading.mismatch wanted
  write value := .object (fields.write (toRow value))

end CallOrder.Json
