import CallOrder.Yaml.Node
import CallOrder.Yaml.Plain

/-! What a node says to one who wants a value of some type. Aliases are followed within the
document. -/
namespace CallOrder.Yaml.Node

/-- The prefix of the tags of the standard types. -/
def standardTag (name : String) : List Char := ("tag:yaml.org,2002:" ++ name).toList

/-- The node that an alias stands for within a document. -/
def follow? (document : Node) : Node → Option Node
  | .alias n => lastNumbered? n document
  | node => some node

/-- The text of a scalar, however it is written. -/
def text? (document node : Node) : Option String :=
  match follow? document node with
  | some (.scalar _ _ _ text) => some text
  | _ => none

/-- The text of a scalar whose meaning counts: a plain one, or a literal one with the tag of the
wanted type. -/
def meaningful? (type : String) (document node : Node) : Option (List Char) :=
  match follow? document node with
  | some (.scalar _ _ .plain text) => some text.toList
  | some (.scalar _ tag .literal text) => if tag = some (standardTag type) then some text.toList else none
  | _ => none

def flag? (document node : Node) : Option Bool := (meaningful? "bool" document node).bind flagOf?

/-- A whole number of 64 bits without a sign. -/
def size? (document node : Node) : Option UInt64 := do
  let n ← unsignedOf? (← meaningful? "int" document node)
  if n < UInt64.size then some n.toUInt64 else none

def real? (document node : Node) : Option Float := (meaningful? "float" document node).bind realOf?

/-- The items of a list. Where nothing is written the list is empty. -/
def items? (document node : Node) : Option (List Node) :=
  match follow? document node with
  | some (.sequence _ items) => some items
  | some (.scalar _ _ .plain "") => some []
  | _ => none

def texts? (document node : Node) : Option (List String) := do
  (← items? document node).mapM (text? document)

/-- The entries of a mapping. Where nothing is written there are none. -/
def entries? (document node : Node) : Option (List (Node × Node)) :=
  match follow? document node with
  | some (.mapping _ entries) => some entries
  | some (.scalar _ _ .plain "") => some []
  | _ => none

/-- Reads a value that may be left open. A tag that says that there is no value must tell the
truth. -/
def optional? {α : Type} (read : Node → Option α) (document node : Node) : Option (Option α) :=
  match follow? document node with
  | some (.scalar _ tag .plain text) =>
    match tag with
    | none => if text = "" || isNull text.toList then some none else (read node).map some
    | some tag =>
      if tag != standardTag "null" then (read node).map some
      else if isNull text.toList then some none
      else none
  | _ => (read node).map some

/-- The values of the fields of a record, in the order in which they are listed. All keys must be
scalars, and no field may be there twice; other keys do not matter. -/
def fieldsIn? (document node : Node) (names : List String) : Option (List (Option Node)) := do
  let entries ← entries? document node
  let named ← entries.mapM fun (key, value) => (text? document key).map (·, value)
  names.mapM fun name =>
    match named.filter fun entry => entry.1 = name with
    | [] => some none
    | [(_, value)] => some (some value)
    | _ => none

def fieldOr? {α : Type} (read : Node → Option α) (default : α) : Option Node → Option α
  | none => some default
  | some node => read node

end CallOrder.Yaml.Node
