/-! What can be given on a command line, and which command takes what. -/
namespace CallOrder.Command

/-- Something that can be given on a command line: an option, or an operand. -/
inductive Slot where
  | help
  | version
  | config
  | verbose
  | arguments
  | parameters
  | function
  | variadic
  | threshold
  | format
  | corpus
  | all
  | failOnIssues
  | file
  | detailed
deriving DecidableEq, Repr

/-- How many values follow the name of an option. -/
inductive Intake where
  | nothing
  | one
  | any
deriving DecidableEq

namespace Slot

/-- The name after two dashes. Operands have none. -/
def long? : Slot → Option String
  | .help => some "help"
  | .version => some "version"
  | .config => some "config"
  | .verbose => some "verbose"
  | .arguments => some "args"
  | .parameters => some "params"
  | .function => some "function"
  | .variadic => some "variadic"
  | .threshold => some "threshold"
  | .format => some "format"
  | .corpus => none
  | .all => some "all"
  | .failOnIssues => some "fail-on-issues"
  | .file => none
  | .detailed => some "detailed"

def short? : Slot → Option Char
  | .help => some 'h'
  | .version => some 'V'
  | .config => some 'c'
  | .verbose => some 'v'
  | .threshold => some 't'
  | .format => some 'f'
  | .detailed => some 'd'
  | _ => none

/-- How many values a slot takes at a time. -/
def intake : Slot → Intake
  | .arguments => .any
  | .parameters => .any
  | .config => .one
  | .function => .one
  | .threshold => .one
  | .format => .one
  | .corpus => .one
  | .file => .one
  | _ => .nothing

/-- What stands for the value of a slot in messages. -/
def placeholder : Slot → String
  | .config => "<CONFIG>"
  | .threshold => "<THRESHOLD>"
  | .format => "<FORMAT>"
  | .corpus => "<CORPUS>"
  | .file => "<FILE>"
  | _ => "<NAME>"

def display (slot : Slot) : String :=
  match slot.long?, slot.intake with
  | none, _ => slot.placeholder
  | some name, .nothing => "--" ++ name
  | some name, .one => "--" ++ name ++ " " ++ slot.placeholder
  | some name, .any => "--" ++ name ++ " [" ++ slot.placeholder ++ "...]"

end Slot

/-- What the program is asked to do. -/
inductive Verb where
  | check
  | scan
  | printDefaults
  | validate
deriving DecidableEq, Repr

namespace Verb

def name : Verb → String
  | .check => "check"
  | .scan => "scan"
  | .printDefaults => "print-default-config"
  | .validate => "validate-config"

def ofName? (word : String) : Option Verb :=
  [check, scan, printDefaults, validate].find? (·.name = word)

/-- The options that only this command takes. -/
def ownOptions : Verb → List Slot
  | .check => [.arguments, .parameters, .function, .variadic, .threshold, .format]
  | .scan => [.threshold, .format, .all, .failOnIssues]
  | .printDefaults => []
  | .validate => [.detailed]

/-- The options of a command with those that every command takes. -/
def options (verb : Verb) : List Slot := [.help, .config, .verbose] ++ verb.ownOptions

def operand? : Verb → Option Slot
  | .scan => some .corpus
  | .validate => some .file
  | _ => none

end Verb

/-- The options that may stand before the command. -/
def leadingOptions : List Slot := [.help, .version, .config, .verbose]

end CallOrder.Command
