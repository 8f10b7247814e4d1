import CallOrder.Corpus.Format
import CallOrder.Text.Blank

/-! The text of a corpus: one document on each line that is not blank. -/
namespace CallOrder.Corpus

/-- A line without the carriage return before its end. -/
def dropReturn (line : List Char) : List Char :=
  match line.getLast? with
  | some '\r' => line.dropLast
  | _ => line

/-- The lines of a text. A line ends at a line feed, which may follow a carriage return; after the
last line feed a line begins only if there is more text. -/
def linesOf (text : List Char) : List (List Char) :=
  go [] text
where
  /-- The lines of a text that goes on a line whose characters are given in reverse. -/
  go (line : List Char) : List Char → List (List Char)
    | [] => if line.isEmpty then [] else [line.reverse]
    | c :: rest => if c = '\n' then dropReturn line.reverse :: go [] rest else go (c :: line) rest

def isBlankLine (line : List Char) : Bool := line.all Text.isBlank

/-- Reads lines from this number on; the first line with a fault is the error. -/
def readLines : Nat → List (List Char) → Except Error (List Document)
  | _, [] => .ok []
  | number, line :: rest =>
    if isBlankLine line then readLines (number + 1) rest
    else
      match Document.format.readText (String.ofList line) with
      | .error fault => .error (.json (some number) fault)
      | .ok document => (readLines (number + 1) rest).map (document :: ·)

def read (text : String) : Except Error (List Document) := readLines 1 (linesOf text.toList)

/-- Reads the file of a corpus, from its bytes or the reason why there are none. -/
def load (path : String) (contents : Except FileFault ByteArray) :
    Except Error (List Document) :=
  match contents.bind decodeFile with
  | .error fault => .error (.file ("Failed to read corpus: " ++ path) fault)
  | .ok text => read text

end CallOrder.Corpus
