/-! The classes of characters in YAML. -/
namespace CallOrder.Yaml

/-- Whether a character may stand in a YAML text at all. -/
def isAllowed (c : Char) : Bool :=
  c = '\t' || c = '\n' || c = '\r' || c = '\u0085' ||
  ' ' ≤ c && c ≤ '~' || '\u00a0' ≤ c && c != '\ufffe' && c != '\uffff'

def isBlank (c : Char) : Bool := c = ' ' || c = '\t'

def isBreak (c : Char) : Bool :=
  c = '\r' || c = '\n' || c = '\u0085' || c = '\u2028' || c = '\u2029'

/-- Whether a text ends here, or goes on with a blank or a new line. -/
def startsBlank : List Char → Bool
  | [] => true
  | c :: _ => isBlank c || isBreak c

def startsBreak : List Char → Bool
  | [] => true
  | c :: _ => isBreak c

/-- The characters of which names of anchors and tags consist. -/
def isNameChar (c : Char) : Bool :=
  'a' ≤ c && c ≤ 'z' || 'A' ≤ c && c ≤ 'Z' || '0' ≤ c && c ≤ '9' || c = '_' || c = '-'

/-- What a line break means in a text: a line feed, or the separator itself. -/
def breakText (c : Char) : List Char :=
  if c = '\u2028' || c = '\u2029' then [c] else ['\n']

/-- Whether a line begins with three dashes or three points that stand alone. -/
def startsDocumentMark : List Char → Bool
  | '-' :: '-' :: '-' :: rest => startsBlank rest
  | '.' :: '.' :: '.' :: rest => startsBlank rest
  | _ => false

end CallOrder.Yaml
