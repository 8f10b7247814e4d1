import CallOrder.Yaml.Token

/-! The nodes of a YAML document. An alias stands for the node with its number; a number belongs
to the last node that carries it. -/
namespace CallOrder.Yaml

/-- A node of a document. -/
inductive Node where
  | scalar (number : Option Nat) (tag : Option (List Char)) (style : ScalarStyle) (text : String)
  | sequence (number : Option Nat) (items : List Node)
  | mapping (number : Option Nat) (entries : List (Node × Node))
  | alias (number : Nat)
deriving Inhabited

namespace Node

/-- The node that stands where nothing is written. -/
def nothing : Node := .scalar none none .plain ""

def number : Node → Option Nat
  | .scalar n .. | .sequence n _ | .mapping n _ => n
  | .alias _ => none

mutual

/-- The last node within this one that carries a number. -/
def lastNumbered? (n : Nat) : Node → Option Node
  | .scalar m t s x => if m = some n then some (.scalar m t s x) else none
  | .sequence m items =>
    (lastInItems? n items).or (if m = some n then some (.sequence m items) else none)
  | .mapping m entries =>
    (lastInEntries? n entries).or (if m = some n then some (.mapping m entries) else none)
  | .alias _ => none

/-- The last node within items that carries a number. -/
def lastInItems? (n : Nat) : List Node → Option Node
  | [] => none
  | item :: rest => (lastInItems? n rest).or (lastNumbered? n item)

/-- The last node within entries that carries a number. -/
def lastInEntries? (n : Nat) : List (Node × Node) → Option Node
  | [] => none
  | (key, value) :: rest => ((lastInEntries? n rest).or (lastNumbered? n value)).or (lastNumbered? n key)

end

end Node

/-- What the nodes of a document depend on: the handles of its tags, and the numbers of its
anchors. -/
structure Scope where
  handles : List (List Char × List Char) := Tag.standardHandles
  anchors : List (List Char × Nat) := []

/-- Gives a name a number, which is that of the names that were given one before. A name that was
among them gets a new number. -/
def Scope.define (scope : Scope) (name : List Char) : Nat × Scope :=
  let n := scope.anchors.length
  (n, { scope with anchors := (name, n) :: scope.anchors.filter fun entry => entry.1 != name })

/-- What stands before a node. -/
structure Properties where
  anchor : Option (List Char) := none
  tag : Option Tag := none

/-- Takes an anchor and a tag from before a node, in any order, each at most once. -/
def Properties.take : List Token → Properties × List Token
  | .anchor a :: .tag t :: rest => ({ anchor := some a, tag := some t }, rest)
  | .tag t :: .anchor a :: rest => ({ anchor := some a, tag := some t }, rest)
  | .anchor a :: rest => ({ anchor := some a }, rest)
  | .tag t :: rest => ({ tag := some t }, rest)
  | rest => ({}, rest)

/-- Which collections may stand at a place. -/
inductive Position where
  /-- Within brackets, where no block may stand. -/
  | flow
  | block
  /-- In a block mapping, where also the dashes of a list may stand without a block of their own. -/
  | inMapping
deriving DecidableEq, Repr

/-- What was parsed, with the scope and the tokens after it. -/
abbrev Parsed (α : Type) := α × Scope × List Token

namespace Node

/-- Whether nothing is written for a key or a value of a block mapping before this token. -/
def endsMappingPart : List Token → Bool
  | .key :: _ | .value :: _ | .blockEnd :: _ => true
  | _ => false

/-- Whether nothing is written for an item of a block list before this token. -/
def endsItem : List Token → Bool
  | .blockEntry :: _ | .blockEnd :: _ => true
  | _ => false

/-- The same for a list without a block of its own. -/
def endsLooseItem (tokens : List Token) : Bool := endsItem tokens || endsMappingPart tokens

/-- Whether nothing is written for a value within brackets of a list before this token. -/
def endsFlowItem : List Token → Bool
  | .flowEntry :: _ | .flowSequenceEnd :: _ => true
  | _ => false

/-- Whether nothing is written for a value within braces before this token. -/
def endsFlowValue : List Token → Bool
  | .flowEntry :: _ | .flowMappingEnd :: _ => true
  | _ => false

mutual

/-- Parses a node at a position. Where nothing follows an anchor or a tag, they belong to an empty
scalar. The count bounds the number of steps. -/
def parse? : Nat → Position → Scope → List Token → Option (Parsed Node)
  | 0, _, _, _ => none
  | _ + 1, _, scope, .alias name :: rest => do return (.alias (← scope.anchors.lookup name), scope, rest)
  | count + 1, position, scope, tokens => do
    let (properties, tokens) := Properties.take tokens
    let tag ←
      match properties.tag with
      | none => some none
      | some tag => (tag.resolve? scope.handles).map some
    let (number, scope) :=
      match properties.anchor with
      | none => (none, scope)
      | some name => (some (scope.define name).1, (scope.define name).2)
    let unwritten : Option (Parsed Node) :=
      if properties.anchor.isSome || properties.tag.isSome then
        some (.scalar number tag .plain "", scope, tokens)
      else none
    match tokens with
    | .scalar style text :: rest => return (.scalar number tag style (String.ofList text), scope, rest)
    | .blockEntry :: rest =>
      if position = .inMapping then
        let (items, scope, rest) ← parseLooseItems? count scope (.blockEntry :: rest)
        return (.sequence number items, scope, rest)
      else unwritten
    | .flowSequenceStart :: rest =>
      let (items, scope, rest) ← parseFlowItems? count true scope rest
      return (.sequence number items, scope, rest)
    | .flowMappingStart :: rest =>
      let (entries, scope, rest) ← parseFlowPairs? count true scope rest
      return (.mapping number entries, scope, rest)
    | .blockSequenceStart :: rest =>
      if position = .flow then none
      else
        let (items, scope, rest) ← parseItems? count scope rest
        return (.sequence number items, scope, rest)
    | .blockMappingStart :: rest =>
      if position = .flow then none
      else
        let (entries, scope, rest) ← parseEntries? count scope rest
        return (.mapping number entries, scope, rest)
    | _ => unwritten

/-- Parses a node, or nothing where nothing is written. -/
def parseUnless? : Nat → Bool → Position → Scope → List Token → Option (Parsed Node)
  | 0, _, _, _, _ => none
  | count + 1, isNothing, position, scope, tokens =>
    if isNothing then some (nothing, scope, tokens) else parse? count position scope tokens

/-- Parses the items of a block list to its end. -/
def parseItems? : Nat → Scope → List Token → Option (Parsed (List Node))
  | 0, _, _ => none
  | _ + 1, scope, .blockEnd :: rest => some ([], scope, rest)
  | count + 1, scope, .blockEntry :: rest => do
    let (item, scope, rest) ← parseUnless? count (endsItem rest) .block scope rest
    let (items, scope, rest) ← parseItems? count scope rest
    return (item :: items, scope, rest)
  | _ + 1, _, _ => none

/-- Parses the items of a list without a block of its own; it ends before another token. -/
def parseLooseItems? : Nat → Scope → List Token → Option (Parsed (List Node))
  | 0, _, _ => none
  | count + 1, scope, .blockEntry :: rest => do
    let (item, scope, rest) ← parseUnless? count (endsLooseItem rest) .block scope rest
    let (items, scope, rest) ← parseLooseItems? count scope rest
    return (item :: items, scope, rest)
  | _ + 1, scope, rest => some ([], scope, rest)

/-- Parses the entries of a block mapping to its end. A key may be without a value. -/
def parseEntries? : Nat → Scope → List Token → Option (Parsed (List (Node × Node)))
  | 0, _, _ => none
  | _ + 1, scope, .blockEnd :: rest => some ([], scope, rest)
  | count + 1, scope, .key :: rest => do
    let (key, scope, rest) ← parseUnless? count (endsMappingPart rest) .inMapping scope rest
    let (value, scope, rest) ← parseValue? count scope rest
    let (entries, scope, rest) ← parseEntries? count scope rest
    return ((key, value) :: entries, scope, rest)
  | _ + 1, _, _ => none

/-- Parses the value of an entry of a block mapping. -/
def parseValue? : Nat → Scope → List Token → Option (Parsed Node)
  | 0, _, _ => none
  | count + 1, scope, .value :: rest => parseUnless? count (endsMappingPart rest) .inMapping scope rest
  | _ + 1, scope, rest => some (nothing, scope, rest)

/-- Parses the items of a list in brackets to its end. A single entry of a mapping may be an item
without braces. -/
def parseFlowItems? : Nat → Bool → Scope → List Token → Option (Parsed (List Node))
  | 0, _, _, _ => none
  | _ + 1, _, scope, .flowSequenceEnd :: rest => some ([], scope, rest)
  | count + 1, false, scope, .flowEntry :: rest =>
    match rest with
    | .flowSequenceEnd :: rest => some ([], scope, rest)
    | rest => parseFlowItem? count scope rest
  | count + 1, true, scope, rest => parseFlowItem? count scope rest
  | _ + 1, false, _, _ => none

/-- Parses an item in brackets and those that follow it. -/
def parseFlowItem? : Nat → Scope → List Token → Option (Parsed (List Node))
  | 0, _, _ => none
  | count + 1, scope, .key :: rest => do
    let (key, scope, rest) ←
      match rest with
      | .value :: rest | .flowEntry :: rest | .flowSequenceEnd :: rest => some (nothing, scope, rest)
      | rest => parse? count .flow scope rest
    let (value, scope, rest) ←
      match rest with
      | .value :: rest => parseUnless? count (endsFlowItem rest) .flow scope rest
      | rest => some (nothing, scope, rest)
    let (items, scope, rest) ← parseFlowItems? count false scope rest
    return (.mapping none [(key, value)] :: items, scope, rest)
  | count + 1, scope, rest => do
    let (item, scope, rest) ← parse? count .flow scope rest
    let (items, scope, rest) ← parseFlowItems? count false scope rest
    return (item :: items, scope, rest)

/-- Parses the entries in braces to their end. -/
def parseFlowPairs? : Nat → Bool → Scope → List Token → Option (Parsed (List (Node × Node)))
  | 0, _, _, _ => none
  | _ + 1, _, scope, .flowMappingEnd :: rest => some ([], scope, rest)
  | count + 1, false, scope, .flowEntry :: rest =>
    match rest with
    | .flowMappingEnd :: rest => some ([], scope, rest)
    | rest => parseFlowPair? count scope rest
  | count + 1, true, scope, rest => parseFlowPair? count scope rest
  | _ + 1, false, _, _ => none

/-- Parses an entry in braces and those that follow it. A node that is no key stands for a key
without a value. -/
def parseFlowPair? : Nat → Scope → List Token → Option (Parsed (List (Node × Node)))
  | 0, _, _ => none
  | count + 1, scope, .key :: rest => do
    let isNothing := endsFlowValue rest || rest.head? = some .value
    let (key, scope, rest) ← parseUnless? count isNothing .flow scope rest
    let (value, scope, rest) ←
      match rest with
      | .value :: rest => parseUnless? count (endsFlowValue rest) .flow scope rest
      | rest => some (nothing, scope, rest)
    let (entries, scope, rest) ← parseFlowPairs? count false scope rest
    return ((key, value) :: entries, scope, rest)
  | count + 1, scope, rest => do
    let (key, scope, rest) ← parse? count .flow scope rest
    let (entries, scope, rest) ← parseFlowPairs? count false scope rest
    return ((key, nothing) :: entries, scope, rest)

end

/-- Takes the directives before a document: a version at most once, which must be known, and
handles, each at most once. -/
def takeDirectives? : Bool → List (List Char × List Char) → List Token →
    Option (List (List Char × List Char) × List Token)
  | hasVersion, handles, .directive (.version major minor) :: rest =>
    if hasVersion || major != 1 || (minor != 1 && minor != 2) then none
    else takeDirectives? true handles rest
  | hasVersion, handles, .directive (.tag handle replacement) :: rest =>
    if handles.any fun entry => entry.1 = handle then none
    else takeDirectives? hasVersion (handles ++ [(handle, replacement)]) rest
  | _, handles, rest => some (handles, rest)

/-- Whether a document without content ends before this token. -/
def endsDocument : List Token → Bool
  | .directive _ :: _ | .documentStart :: _ | .documentEnd :: _ | .streamEnd :: _ => true
  | _ => false

def dropDocumentEnds : List Token → List Token
  | .documentEnd :: rest => dropDocumentEnds rest
  | rest => rest

/-- The node of a document, if after it nothing but the end of the text follows. -/
def onlyDocument? (parsed : Option (Parsed Node)) : Option Node := do
  let (node, _, rest) ← parsed
  if dropDocumentEnds rest = [.streamEnd] then some node else none

/-- The node of the only document of a text; a text without a document counts as one in which
nothing is written. -/
def ofTokens? (tokens : List Token) : Option Node :=
  let count := 4 * tokens.length + 4
  if tokens = [.streamEnd] then some nothing
  else
    match tokens with
    | .directive _ :: _ | .documentStart :: _ => do
      let (handles, rest) ← takeDirectives? false [] tokens
      match rest with
      | .documentStart :: rest =>
        let scope : Scope := { handles := handles ++ Tag.standardHandles }
        onlyDocument? (parseUnless? count (endsDocument rest) .block scope rest)
      | _ => none
    | _ => onlyDocument? (parse? count .block {} tokens)

/-- The node of a text, if it is well formed and has at most one document. -/
def ofText? (text : String) : Option Node := (Token.ofText? text).bind ofTokens?

end Node

end CallOrder.Yaml
