import CallOrder.Command.Slot
import CallOrder.Decimal.Reading

/-! What was given on a command line, and what is wrong with it. -/
namespace CallOrder.Command

/-- Why a command line cannot be understood. -/
inductive UsageError where
  | unknownArgument (word : String)
  | unknownCommand (word : String)
  | missingCommand
  | nothingGiven
  | missingOperand
  | missingValue (slot : Slot)
  | repeated (slot : Slot)
  | surplusValue (slot : Slot) (value : String)
  | badValue (slot : Slot) (value : String) (reason : Option String)
deriving DecidableEq, Repr

/-- What the program can do, for those who ask. -/
def helpText : String :=
  "Usage: argswap [OPTIONS] <COMMAND>\n\nCommands:\n" ++
  "  check                 Check a single call site\n" ++
  "  scan                  Scan a JSON-lines call-site corpus\n" ++
  "  print-default-config  Print default configuration in YAML format\n" ++
  "  validate-config       Validate an argswap configuration file\n"

def versionText : String := "argswap 0.1.0\n"

def UsageError.message : UsageError → String
  | .unknownArgument word => "error: unexpected argument '" ++ word ++ "' found\n"
  | .unknownCommand word => "error: unrecognized subcommand '" ++ word ++ "'\n"
  | .missingCommand => "error: 'argswap' requires a subcommand but one was not provided\n"
  | .nothingGiven => helpText
  | .missingOperand => "error: the following required arguments were not provided:\n"
  | .missingValue slot =>
    "error: a value is required for '" ++ slot.display ++ "' but none was supplied\n"
  | .repeated slot =>
    "error: the argument '" ++ slot.display ++ "' cannot be used multiple times\n"
  | .surplusValue slot value =>
    "error: unexpected value '" ++ value ++ "' for '" ++ slot.display ++
      "' found; no more were expected\n"
  | .badValue slot value reason =>
    "error: invalid value '" ++ value ++ "' for '" ++ slot.display ++ "'" ++
      (match reason with
        | none => ""
        | some text => ": " ++ text) ++ "\n"

/-- How findings are shown. -/
inductive Layout where
  | text
  | json
deriving DecidableEq, Repr

/-- The values that were given to each slot of a command line. -/
structure Given where
  config : Option String := none
  verbose : Bool := false
  arguments : List String := []
  parameters : Option (List String) := none
  function : Option String := none
  isVariadic : Bool := false
  threshold : Option Float := none
  layout : Option Layout := none
  showsAll : Bool := false
  failsOnIssues : Bool := false
  isDetailed : Bool := false
  operand : Option String := none
deriving Inhabited

namespace Given

/-- The value of a slot that takes one, and that must not have been filled before. -/
def single {α : Type} (slot : Slot) (former : Option α) (read : String → Except UsageError α)
    (values : List String) : Except UsageError (Option α) :=
  match values with
  | [] => .error (.missingValue slot)
  | value :: _ =>
    if former.isSome then .error (.repeated slot) else (read value).map some

/-- A flag that must not have been set before. -/
def flag (slot : Slot) (former : Bool) : Except UsageError Bool :=
  if former then .error (.repeated slot) else .ok true

def readPath (slot : Slot) (value : String) : Except UsageError String :=
  if value.isEmpty then .error (.missingValue slot) else .ok value

def readThreshold (value : String) : Except UsageError Float :=
  match Decimal.readFloat? value.toList with
  | some x => .ok x
  | none =>
    let reason :=
      if value.isEmpty then "cannot parse float from empty string" else "invalid float literal"
    .error (.badValue .threshold value (some reason))

def readLayout (value : String) : Except UsageError Layout :=
  match value with
  | "text" => .ok .text
  | "json" => .ok .json
  | "" => .error (.missingValue .format)
  | _ => .error (.badValue .format value none)

/-- Puts values into a slot. Names add up; every other slot can be filled once. -/
def put (given : Given) (slot : Slot) (values : List String) : Except UsageError Given := do
  match slot with
  | .help => return given
  | .version => return given
  | .config => return { given with config := ← single slot given.config (readPath slot) values }
  | .verbose => return { given with verbose := ← flag slot given.verbose }
  | .arguments => return { given with arguments := given.arguments ++ values }
  | .parameters => return { given with parameters := some (given.parameters.getD [] ++ values) }
  | .function => return { given with function := ← single slot given.function .ok values }
  | .variadic => return { given with isVariadic := ← flag slot given.isVariadic }
  | .threshold =>
    return { given with threshold := ← single slot given.threshold readThreshold values }
  | .format => return { given with layout := ← single slot given.layout readLayout values }
  | .corpus => return { given with operand := ← single slot given.operand (readPath slot) values }
  | .all => return { given with showsAll := ← flag slot given.showsAll }
  | .failOnIssues => return { given with failsOnIssues := ← flag slot given.failsOnIssues }
  | .file => return { given with operand := ← single slot given.operand (readPath slot) values }
  | .detailed => return { given with isDetailed := ← flag slot given.isDetailed }

end Given

end CallOrder.Command
