import CallOrder.Morphemes

/-! Calls: what is known of a function's parameters, and what one call of it passes. -/
namespace CallOrder

/-- What is known of the called function. -/
structure Signature where
  callee : Option String := none
  /-- The names of the parameters; nothing if the declaration is not known. -/
  parameters : Option (List String) := none
  isVariadic : Bool := false
deriving DecidableEq, Repr, Inhabited

/-- The name of the called function for a reader. -/
def Signature.displayName (signature : Signature) : String := signature.callee.getD "<anonymous>"

/-- The morphemes of the first parameters. -/
def Signature.morphemes (signature : Signature) (count : Nat) (policy : MorphemePolicy) :
    List MorphemeSet :=
  ((signature.parameters.getD []).take count).map policy.morphemes

/-- An argument, as the names of which it is composed. -/
structure Argument where
  components : List String
deriving DecidableEq, Repr, Inhabited

/-- An argument that is one name; an empty name is no component. -/
def Argument.named (name : String) : Argument := ⟨if name = "" then [] else [name]⟩

/-- The morphemes of an argument. -/
def Argument.morphemes (argument : Argument) (policy : MorphemePolicy) : MorphemeSet :=
  policy.morphemesOfAll argument.components

/-- One call of a function. -/
structure CallSite where
  arguments : List Argument
deriving DecidableEq, Repr, Inhabited

/-- A call whose arguments are plain names. -/
def CallSite.ofNames (names : List String) : CallSite := ⟨names.map .named⟩

/-- Whether nothing is passed. -/
def CallSite.isEmpty (site : CallSite) : Bool := site.arguments.isEmpty

/-- The morphemes of the first arguments. -/
def CallSite.morphemes (site : CallSite) (count : Nat) (policy : MorphemePolicy) :
    List MorphemeSet :=
  (site.arguments.take count).map fun argument => argument.morphemes policy

/-- The number of positions that have both a parameter and an argument. -/
def Signature.scoredRange (signature : Signature) (site : CallSite) : Nat :=
  match signature.parameters with
  | none => 0
  | some names => min names.length site.arguments.length

end CallOrder
