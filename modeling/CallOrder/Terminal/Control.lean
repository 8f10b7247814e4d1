/-! Control sequences of a terminal within a text: which characters it shows, and which numbers of
attributes the sequences set. -/
namespace CallOrder.Terminal

/-- Where the reading of a text with control sequences stands. -/
inductive Phase where
  | text
  | escape
  /-- Behind an escape character and the beginning of a longer sequence. -/
  | escapeMore
  /-- Behind an escape character and a bracket, with what has been read of the sequence. -/
  | sequence (body : List Char)
  /-- Within a command to the system around the terminal. -/
  | command
  /-- Within another string that the terminal does not show. -/
  | hidden
deriving DecidableEq, Repr

/-- What a character does. -/
inductive Effect where
  | shown
  | silent
  /-- It ends a sequence that sets attributes, with this body. -/
  | sets (body : List Char)
deriving DecidableEq, Repr

/-- Whether a character is one of the 32 controls. -/
def isControl (c : Char) : Bool := c < ' '

/-- The phase behind an escape character and this character. -/
def Phase.afterEscape (c : Char) : Phase :=
  if c = '[' then .sequence []
  else if c = ']' then .command
  else if "PX^_".toList.contains c then .hidden
  else if ' ' ≤ c && c ≤ '/' then .escapeMore
  else if c ≤ '~' then .text
  else .escape

/-- Reads a character that is neither an escape character nor one that breaks off every sequence. A
sequence lasts to the first character from the at sign on. -/
def Phase.read (phase : Phase) (c : Char) : Phase × Effect :=
  match phase with
  | .text => (.text, if isControl c then .silent else .shown)
  | .escape => (if isControl c then .escape else .afterEscape c, .silent)
  | .escapeMore => (if '0' ≤ c && c ≤ '~' then .text else .escapeMore, .silent)
  | .sequence body =>
    if '@' ≤ c && c ≤ '~' then (.text, if c = 'm' then .sets body else .silent)
    else if ' ' ≤ c && c ≤ '?' then (.sequence (body ++ [c]), .silent)
    else (.sequence body, .silent)
  | .command => (if c = '\x07' then .text else .command, .silent)
  | .hidden => (if c = '\u009c' then .text else .hidden, .silent)

def Phase.next (phase : Phase) (c : Char) : Phase × Effect :=
  if c = '\x1b' then (.escape, .silent)
  else if c = '\x18' || c = '\x1a' then (.text, .silent)
  else phase.read c

/-- The runs of shown characters: that with which a text begins, and those after it. -/
def shownRuns : Phase → List Char → List Char × List (List Char)
  | _, [] => ([], [])
  | phase, c :: rest =>
    let (phase, effect) := phase.next c
    let (run, runs) := shownRuns phase rest
    if effect = .shown then (c :: run, runs) else ([], run :: runs)

/-- The bodies of the sequences that set attributes. -/
def attributeBodies : Phase → List Char → List (List Char)
  | _, [] => []
  | phase, c :: rest =>
    match phase.next c with
    | (phase, .sets body) => body :: attributeBodies phase rest
    | (phase, _) => attributeBodies phase rest

end CallOrder.Terminal
