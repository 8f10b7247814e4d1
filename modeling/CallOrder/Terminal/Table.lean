import CallOrder.Terminal.Attributes
import CallOrder.Text.Columns

/-! Tables in a frame with rounded corners. -/
namespace CallOrder.Terminal

/-- A table of two columns with a head. -/
structure Table where
  head : String × String
  rows : List (String × String)

/-- The first line of a text and those after it. -/
def splitLines : List Char → List Char × List (List Char)
  | [] => ([], [])
  | c :: rest =>
    let (line, lines) := splitLines rest
    if c = '\n' then ([], line :: lines) else (c :: line, lines)

/-- The lines of a cell: each line feed begins a new one. Lines of a cell that has several can be
shown apart. -/
def cellLines (cell : String) : List (List Char) :=
  match splitLines cell.toList with
  | (line, []) => [line]
  | (line, lines) => Attributes.carry {} (line :: lines)

/-- The columns of a line of a cell. Control sequences take none. -/
def lineColumns (line : List Char) : Nat :=
  let (run, runs) := shownRuns .text line
  (run :: runs).foldr (fun shown n => Text.columns shown + n) 0

def widest (lines : List (List Char)) : Nat := (lines.map lineColumns).foldl max 0

/-- A line of a cell, filled up with spaces. -/
def padLine (width : Nat) (line : List Char) : List Char :=
  line ++ List.replicate (width - lineColumns line) ' '

/-- A horizontal rule with its two ends and the crossing between the columns. -/
def rule (start crossing ending : Char) (widths : Nat × Nat) : List Char :=
  start :: List.replicate (widths.1 + 2) '─' ++ crossing :: List.replicate (widths.2 + 2) '─' ++
    [ending]

/-- The lines of a row, whose cells may have different numbers of lines. -/
def rowLines (widths : Nat × Nat) : List (List Char) → List (List Char) → List (List Char)
  | [], [] => []
  | [], second :: rest => line [] second :: rowLines widths [] rest
  | first :: rest, [] => line first [] :: rowLines widths rest []
  | first :: rest, second :: rest' => line first second :: rowLines widths rest rest'
where
  line (first second : List Char) : List Char :=
    '│' :: ' ' :: padLine widths.1 first ++ [' ', '│', ' '] ++ padLine widths.2 second ++ [' ', '│']

namespace Table

/-- The head and the rows, each cell as its lines. -/
def cells (table : Table) : List (List (List Char) × List (List Char)) :=
  (table.head :: table.rows).map fun (first, second) => (cellLines first, cellLines second)

def widths (table : Table) : Nat × Nat :=
  ((table.cells.map (widest ·.1)).foldl max 0, (table.cells.map (widest ·.2)).foldl max 0)

/-- The lines of the table: a rule stands above, below, and under the head. -/
def lines (table : Table) : List (List Char) :=
  let rows := table.cells.map fun (first, second) => rowLines table.widths first second
  rule '╭' '┬' '╮' table.widths :: rows.headD [] ++
    rule '├' '┼' '┤' table.widths :: rows.tail.flatten ++ [rule '╰' '┴' '╯' table.widths]

/-- The text of the table. Every line ends in a line feed. -/
def toText (table : Table) : String :=
  String.ofList (table.lines.flatMap fun line => line ++ ['\n'])

end Table

end CallOrder.Terminal
