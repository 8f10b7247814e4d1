import CallOrder.Command.Usage

/-! Reading a command line. Words are read from left to right. The values of an option are taken
when the next option or operand begins, so a word that is unknown is reported before a bad value
that stands right before it, and after any other. -/
namespace CallOrder.Command

/-- What ends the reading of a command line before its end. -/
inductive Stop where
  | fault (error : UsageError)
  | help
  | version
deriving DecidableEq, Repr

/-- How far a command line has been read. -/
structure Progress where
  given : Given := {}
  /-- The slot that was filled last, with values that are not yet taken. -/
  pending : Option (Slot × List String) := none
  /-- Whether a word that is no option is one more value of the pending slot. -/
  isOpen : Bool := false
  /-- Whether all further words are operands, as two dashes say. -/
  isLiteral : Bool := false
  isUsed : Bool := false

namespace Progress

def put (progress : Progress) (slot : Slot) (values : List String) : Except Stop Progress :=
  match progress.given.put slot values with
  | .ok given => .ok { progress with given }
  | .error error => .error (.fault error)

def settle (progress : Progress) : Except Stop Progress :=
  match progress.pending with
  | none => .ok progress
  | some (slot, values) => { progress with pending := none, isOpen := false }.put slot values

def setFlag (progress : Progress) (slot : Slot) : Except Stop Progress := do
  let progress ← progress.settle
  match slot with
  | .help => throw .help
  | .version => throw .version
  | _ => progress.put slot []

/-- Fills an option whose value stands in the same word. -/
def attach (progress : Progress) (slot : Slot) (value : String) : Except Stop Progress := do
  (← progress.settle).put slot [value]

/-- Begins to collect values from the words that follow. -/
def begin (progress : Progress) (slot : Slot) : Except Stop Progress := do
  return { ← progress.settle with pending := some (slot, []), isOpen := true }

def addValue (progress : Progress) (value : String) : Progress :=
  match progress.pending with
  | none => progress
  | some (slot, values) =>
    { progress with pending := some (slot, values ++ [value]), isOpen := slot.intake = .any }

/-- Fills the operand, unless there is none or it was filled before. -/
def addOperand (progress : Progress) (operand : Option Slot) (word : String) :
    Except Stop Progress := do
  match operand with
  | none => throw (.fault (.unknownArgument word))
  | some slot =>
    if progress.given.operand.isSome || progress.pending.any (·.1 = slot) then
      throw (.fault (.unknownArgument word))
    return { ← progress.settle with pending := some (slot, [word]), isOpen := false }

def readLong (progress : Progress) (options : List Slot) (body : List Char) :
    Except Stop Progress :=
  let name := String.ofList (body.takeWhile (· ≠ '='))
  match options.find? (·.long? = some name), body.dropWhile (· ≠ '=') with
  | none, _ => .error (.fault (.unknownArgument ("--" ++ name)))
  | some slot, [] => if slot.intake = .nothing then progress.setFlag slot else progress.begin slot
  | some slot, _ :: value =>
    if slot.intake = .nothing then .error (.fault (.surplusValue slot (String.ofList value)))
    else progress.attach slot (String.ofList value)

/-- Reads options after one dash, each named by a letter. What follows the letter of an option that
takes a value is its value. -/
def readShort (progress : Progress) (options : List Slot) : List Char → Except Stop Progress
  | [] => .ok progress
  | letter :: rest =>
    match options.find? (·.short? = some letter), rest with
    | none, _ => .error (.fault (.unknownArgument (String.ofList ['-', letter])))
    | some slot, rest =>
      if slot.intake = .nothing then do readShort (← progress.setFlag slot) options rest
      else
        match rest with
        | [] => progress.begin slot
        | '=' :: value => progress.attach slot (String.ofList value)
        | value => progress.attach slot (String.ofList value)

/-- Reads a word that is an option or the value of one; of other words there is no result. -/
def readOption? (progress : Progress) (options : List Slot) (word : String) :
    Except Stop (Option Progress) := do
  if progress.isLiteral then return none
  match word.toList with
  | ['-', '-'] => return some { progress with isLiteral := true }
  | '-' :: '-' :: body => return some { ← progress.readLong options body with isUsed := true }
  | '-' :: letter :: rest =>
    return some { ← progress.readShort options (letter :: rest) with isUsed := true }
  | _ => return if progress.isOpen then some (progress.addValue word) else none

end Progress

/-- Reads the words after the name of a command. -/
def Verb.read (verb : Verb) : Progress → List String → Except Stop Given
  | progress, [] => do
    let given := (← progress.settle).given
    if verb.operand?.isSome && given.operand.isNone then throw (.fault .missingOperand)
    return given
  | progress, word :: rest => do
    match ← progress.readOption? verb.options word with
    | some progress => verb.read progress rest
    | none => verb.read (← progress.addOperand verb.operand? word) rest

/-- The call that is checked. -/
structure CheckTask where
  arguments : List String
  parameters : Option (List String)
  function : Option String
  isVariadic : Bool
  threshold : Option Float
  layout : Layout

/-- The corpus that is scanned. -/
structure ScanTask where
  corpus : String
  threshold : Option Float
  layout : Layout
  showsAll : Bool
  failsOnIssues : Bool

/-- What the program is asked to do, and on what. -/
inductive Task where
  | check (config : Option String) (task : CheckTask)
  | scan (config : Option String) (task : ScanTask)
  | printDefaults
  | validate (file : String) (isDetailed : Bool)

/-- The task of a command with what was given to it. -/
def Task.ofGiven (verb : Verb) (given : Given) : Task :=
  match verb with
  | .check =>
    .check given.config
      { arguments := given.arguments
        parameters := given.parameters
        function := given.function
        isVariadic := given.isVariadic
        threshold := given.threshold
        layout := given.layout.getD .text }
  | .scan =>
    .scan given.config
      { corpus := given.operand.getD ""
        threshold := given.threshold
        layout := given.layout.getD .text
        showsAll := given.showsAll
        failsOnIssues := given.failsOnIssues }
  | .printDefaults => .printDefaults
  | .validate => .validate (given.operand.getD "") given.isDetailed

/-- Which help is asked for: of the program, or of one command. -/
def readHelp : List String → Stop
  | [] => .help
  | word :: rest =>
    if (Verb.ofName? word).isSome || word = "help" then
      match rest with
      | [] => .help
      | other :: _ => .fault (.unknownCommand other)
    else .fault (.unknownCommand word)

/-- Reads a command line from its words. A file of settings that is given after the command counts
before one that is given in front of it. -/
def readTask : Progress → List String → Except Stop Task
  | progress, [] => do
    let progress ← progress.settle
    throw (.fault (if progress.isUsed then .missingCommand else .nothingGiven))
  | progress, word :: rest => do
    match ← progress.readOption? leadingOptions word with
    | some progress => readTask progress rest
    | none =>
      match Verb.ofName? word, progress.isLiteral with
      | some verb, false =>
        let given ← verb.read {} rest
        let leading := (← progress.settle).given
        return .ofGiven verb { given with config := given.config <|> leading.config }
      | none, false => throw (if word = "help" then readHelp rest else .fault (.unknownCommand word))
      | some _, true => throw (.fault (.unknownArgument word))
      | none, true =>
        throw (.fault (if word = "help" then .unknownArgument word else .unknownCommand word))

def Task.ofWords (words : List String) : Except Stop Task := readTask {} words

end CallOrder.Command
