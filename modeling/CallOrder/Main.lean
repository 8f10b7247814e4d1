import CallOrder.Command.Run

/-! The program: it reads the files that its task names, and prints the outcome. -/
namespace CallOrder

/-- Why the system could not read a file. A directory can be opened, so the fault comes without the
name of a file. -/
def FileFault.ofSystem : IO.Error → FileFault
  | .noFileOrDirectory .. => .missing
  | .permissionDenied .. => .denied
  | .inappropriateType none .. => .isDirectory
  | error => .other error.toString

def readBytes (path : String) : IO (Except FileFault ByteArray) := do
  match ← (IO.FS.readBinFile path).toBaseIO with
  | .ok bytes => return .ok bytes
  | .error error => return .error (.ofSystem error)

/-- The files at some paths; there are no others. -/
def readFiles (paths : List String) : IO Command.Files := do
  let contents ← paths.mapM fun path => return (path, ← readBytes path)
  return fun path => (contents.lookup path).getD (.error .missing)

end CallOrder

open CallOrder in
/-- Runs the program on the words of its command line. -/
def main (words : List String) : IO UInt32 := do
  let paths :=
    match Command.Task.ofWords words with
    | .ok task => task.paths
    | .error _ => []
  let outcome := Command.run (← readFiles paths) words
  (← IO.getStderr).putStr outcome.complaints
  (← IO.getStdout).putStr outcome.output
  return outcome.exitCode
