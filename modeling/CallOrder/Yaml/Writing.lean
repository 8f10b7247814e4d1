import CallOrder.Yaml.Plain

/-! How texts are written in YAML: plain where that is possible and cannot be taken for something
else, otherwise between quotation marks, or as a block of lines. -/
namespace CallOrder.Yaml

/-- Whether a character may stand in a scalar as itself. -/
def isPrintable (c : Char) : Bool :=
  c = '\n' || ' ' ≤ c && c ≤ '~' || '\u00a0' ≤ c && c != '\ufeff' && c != '\ufffe' && c != '\uffff'

/-- The indicators with which no plain scalar begins. -/
def isLeadingIndicator (c : Char) : Bool := "#,[]\x7b\x7d&*!|>'\"%@`".toList.contains c

/-- Whether a character would end a plain scalar, or not begin one, between its neighbours. A text
has blank neighbours at its ends. -/
def isIndicatorAt (isFirst : Bool) (before : Option Char) (c : Char) (rest : List Char) : Bool :=
  if isFirst then
    isLeadingIndicator c || (c = '?' || c = ':' || c = '-') && startsBlank rest
  else c = ':' && startsBlank rest || c = '#' && before.all fun b => isBlank b || isBreak b

/-- Whether some character of a text, which follows this one, is an indicator. -/
def hasIndicatorAfter (before : Char) : List Char → Bool
  | [] => false
  | c :: rest => isIndicatorAt false (some before) c rest || hasIndicatorAfter c rest

/-- Whether a text could not be told from structure if it were plain. -/
def hasIndicator (text : List Char) : Bool :=
  "---".toList.isPrefixOf text || "...".toList.isPrefixOf text ||
  match text with
  | [] => false
  | c :: rest => isIndicatorAt true none c rest || hasIndicatorAfter c rest

/-- Whether somewhere a character of the first class stands right before one of the second. -/
def hasNeighbours (p q : Char → Bool) : List Char → Bool
  | c :: d :: rest => p c && q d || hasNeighbours p q (d :: rest)
  | _ => false

/-- Whether a text begins or ends with a character of a class. -/
def hasAtEnd (p : Char → Bool) (text : List Char) : Bool := text.head?.any p || text.getLast?.any p

/-- Whether a text can be plain: one line without an indicator, and no space at its ends. -/
def canBePlain (text : List Char) : Bool :=
  text.all isPrintable && !text.any isBreak && !hasAtEnd (· = ' ') text && !hasIndicator text

/-- Whether a text can stand between single quotation marks: no space beside a line break. -/
def canBeSingleQuoted (text : List Char) : Bool :=
  text.all isPrintable && !hasNeighbours (· = ' ') isBreak text && !hasNeighbours isBreak (· = ' ') text

/-- Whether a text can be a block of lines: no space before a line break or at the end. -/
def canBeBlock (text : List Char) : Bool :=
  !text.isEmpty && text.all isPrintable && !hasNeighbours (· = ' ') isBreak text &&
  text.getLast? != some ' '

/-- The style in which a text is written. -/
def styleOf (text : List Char) : ScalarStyle :=
  if text.contains '\n' then if canBeBlock text then .literal else .doubleQuoted
  else if canBePlain text && !readsAsOther text then .plain
  else if canBeSingleQuoted text then .singleQuoted
  else .doubleQuoted

def spaces (indent : Nat) : List Char := List.replicate indent ' '

/-- A text between single quotation marks from a character on; a new line is indented. -/
def singleQuotedFrom (indent : Nat) : Bool → List Char → List Char
  | afterBreak, [] => (if afterBreak then spaces indent else []) ++ ['\'']
  | afterBreak, c :: rest =>
    if isBreak c then c :: singleQuotedFrom indent true rest
    else
      (if afterBreak then spaces indent else []) ++ (if c = '\'' then ['\'', '\''] else [c]) ++
        singleQuotedFrom indent false rest

/-- A number in base sixteen, in uppercase, with so many digits at least. -/
def hexUpper (width n : Nat) : List Char :=
  let digits := (Nat.toDigits 16 n).map Char.toUpper
  List.replicate (width - digits.length) '0' ++ digits

/-- A character between double quotation marks. -/
def doubleQuotedChar (c : Char) : List Char :=
  if isPrintable c && !isBreak c && c != '"' && c != '\\' then [c]
  else if c = '\x00' then ['\\', '0']
  else if c = '\x07' then ['\\', 'a']
  else if c = '\x08' then ['\\', 'b']
  else if c = '\t' then ['\\', 't']
  else if c = '\n' then ['\\', 'n']
  else if c = '\x0b' then ['\\', 'v']
  else if c = '\x0c' then ['\\', 'f']
  else if c = '\r' then ['\\', 'r']
  else if c = '\x1b' then ['\\', 'e']
  else if c = '"' || c = '\\' then ['\\', c]
  else if c = '\u0085' then ['\\', 'N']
  else if c = '\u2028' then ['\\', 'L']
  else if c = '\u2029' then ['\\', 'P']
  else if c.toNat < 0x100 then '\\' :: 'x' :: hexUpper 2 c.toNat
  else if c.toNat < 0x10000 then '\\' :: 'u' :: hexUpper 4 c.toNat
  else '\\' :: 'U' :: hexUpper 8 c.toNat

/-- The heading of a literal block: the indentation beyond its parent if the first line does not
show it, and what becomes of the line breaks at the end. -/
def literalHead (text : List Char) : List Char :=
  let shown := !(text.head?.any fun c => c = ' ' || isBreak c)
  let chomping :=
    match text.reverse with
    | [] => ['-']
    | last :: before =>
      if !isBreak last then ['-']
      else
        match before with
        | [] => ['+']
        | c :: _ => if isBreak c then ['+'] else []
  '|' :: (if shown then [] else ['2']) ++ chomping

/-- The lines of a literal block from a character on. -/
def literalFrom (indent : Nat) : Bool → List Char → List Char
  | _, [] => []
  | afterBreak, c :: rest =>
    if isBreak c then c :: literalFrom indent true rest
    else (if afterBreak then spaces indent else []) ++ c :: literalFrom indent false rest

/-- A text in its style. Lines after the first are indented by so much. A literal block ends where
the next line begins, so a line break follows it unless it ends with one. -/
def writeText (indent : Nat) (text : List Char) : List Char :=
  match styleOf text with
  | .plain => text ++ ['\n']
  | .singleQuoted => '\'' :: singleQuotedFrom indent false text ++ ['\n']
  | .literal =>
    literalHead text ++ '\n' :: literalFrom indent true text ++
      if text.getLast?.any isBreak then [] else ['\n']
  | _ => '"' :: text.flatMap doubleQuotedChar ++ ['"', '\n']

end CallOrder.Yaml
