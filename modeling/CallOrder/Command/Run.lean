import CallOrder.Command.Invocation
import CallOrder.Command.Listing
import CallOrder.Corpus.Scanner
import CallOrder.Corpus.Text
import CallOrder.Settings.Format
import CallOrder.Settings.Yaml

/-! What the program answers to a command line, given what is in the files. -/
namespace CallOrder.Command

/-- The bytes of each file, or why it cannot be read. -/
abbrev Files := String → Except FileFault ByteArray

/-- Why a task fails. -/
inductive Failure where
  | settingsFile (path : String) (fault : FileFault)
  | settingsJson (fault : Json.Fault)
  | corpusFile (path : String) (fault : FileFault)
  | refused (error : Error)
deriving DecidableEq

/-- The message of a failure. Of a faulty text it says no more than `Json.Fault.message` and `Error.message` do. -/
def Failure.message : Failure → String
  | .settingsFile path fault => "Failed to read config file " ++ path ++ ": " ++ fault.message
  | .settingsJson fault => fault.message
  | .corpusFile path fault => "Failed to read corpus " ++ path ++ ": " ++ fault.message
  | .refused error => error.message

/-- A result or an error as one of a task. -/
def orRefused {α : Type} (result : Except Error α) : Except Failure α := result.mapError .refused

/-- The last part of a path, after every slash that something follows. -/
def fileName (path : List Char) : List Char :=
  let trimmed := (path.reverse.dropWhile (· = '/')).reverse
  (trimmed.reverse.takeWhile (· ≠ '/')).reverse

/-- What stands after the last dot of a name. A dot at its beginning does not count. -/
def extension? (path : String) : Option (List Char) :=
  let name := (fileName path.toList).reverse
  match name.dropWhile (· ≠ '.') with
  | _ :: _ :: _ => if name = ['.', '.'] then none else some (name.takeWhile (· ≠ '.')).reverse
  | _ => none

/-- Reads settings from a file, in JSON if its name says so, and accepts them if they are valid. -/
def loadSettings (files : Files) (path : String) : Except Failure Settings := do
  let text ← (files path >>= decodeFile).mapError (.settingsFile path)
  let settings ←
    if extension? path = some "json".toList then (Settings.format.readText text).mapError .settingsJson
    else orRefused (Settings.ofYaml text)
  orRefused settings.check
  return settings

/-- The settings of a task: those of a file, or the default ones. -/
def settingsOf (files : Files) : Option String → Except Failure Settings
  | none => .ok {}
  | some path => loadSettings files path

def CheckTask.findings (task : CheckTask) (files : Files) (config : Option String) :
    Except Failure Findings := do
  let settings ← settingsOf files config
  let settings :=
    match task.threshold with
    | none => settings
    | some x => settings.withThreshold x
  let checker ← orRefused (Checker.ofSettings settings)
  orRefused (checker.checkNames task.parameters task.arguments task.function task.isVariadic)

def ScanTask.report (task : ScanTask) (files : Files) (config : Option String) :
    Except Failure Report := do
  let checker ← orRefused (Checker.ofSettings (← settingsOf files config))
  let scanner := Corpus.Scanner.ofChecker checker
  let scanner ←
    match task.threshold with
    | none => pure scanner
    | some x => orRefused (scanner.withThreshold x)
  let text ← (files task.corpus >>= decodeFile).mapError (.corpusFile task.corpus)
  orRefused (scanner.scan (← orRefused (Corpus.read text)))

/-- What a run leaves behind. -/
structure Outcome where
  exitCode : UInt32 := 0
  output : String := ""
  /-- What is said of a failure. The log is written to the same stream, with more lines for a verbose run, but its lines
  are left out here. -/
  complaints : String := ""

def Outcome.ofFailure (failure : Failure) : Outcome where
  exitCode := 1
  complaints := "Error: " ++ failure.message ++ "\n"

/-- Checks a call. It fails if anything is found. -/
def CheckTask.run (task : CheckTask) (files : Files) (config : Option String) : Outcome :=
  match task.findings files config with
  | .error failure => .ofFailure failure
  | .ok found =>
    { exitCode := if found.isEmpty then 0 else 1
      output :=
        match task.layout with
        | .json => (Findings.format.write found).toLines ++ "\n"
        | .text => listFindings (task.function.getD "<anonymous>") found }

def ScanTask.render (task : ScanTask) (report : Report) : String :=
  match task.layout with
  | .json =>
    (if task.showsAll then Report.format.write report else report.flaggedValue).toLines ++ "\n"
  | .text => listReport task.corpus report

/-- Scans a corpus. On request it fails if anything is found. -/
def ScanTask.run (task : ScanTask) (files : Files) (config : Option String) : Outcome :=
  match task.report files config with
  | .error failure => .ofFailure failure
  | .ok report =>
    { exitCode := if task.failsOnIssues && report.hasIssues then 1 else 0
      output := task.render report }

def validateSettings (files : Files) (path : String) (isDetailed : Bool) : Outcome :=
  let head := fileHead "Validating configuration" path ++ "\n"
  match loadSettings files path with
  | .ok settings => { output := head ++ listSettings settings isDetailed }
  | .error failure =>
    { exitCode := 1
      output := head ++ settingsAdvice
      complaints :=
        Terminal.Style.darkRed.paint "❌ Configuration validation failed:" ++ " " ++
          failure.message ++ "\nError: Configuration validation failed: " ++ failure.message ++ "\n" }

def Task.run (files : Files) : Task → Outcome
  | .check config task => task.run files config
  | .scan config task => task.run files config
  | .printDefaults => { output := defaultsHead ++ ({} : Settings).toYaml ++ "\n" }
  | .validate path isDetailed => validateSettings files path isDetailed

def Task.paths : Task → List String
  | .check config _ => config.toList
  | .scan config task => config.toList ++ [task.corpus]
  | .printDefaults => []
  | .validate path _ => [path]

/-- The outcome of a command line that asks for no task. -/
def Stop.outcome : Stop → Outcome
  | .fault error => { exitCode := 2, complaints := error.message }
  | .help => { output := helpText }
  | .version => { output := versionText }

def run (files : Files) (words : List String) : Outcome :=
  match Task.ofWords words with
  | .error stop => stop.outcome
  | .ok task => task.run files

end CallOrder.Command
