import CallOrder.Json.Fault
import CallOrder.Text.Hexadecimal

/-! Strings in JSON: their spelling, and the text that a spelling stands for. -/
namespace CallOrder.Json

/-- One character of a string, or one code unit that is given by its number. -/
inductive Piece where
  | char (c : Char)
  | unit (n : Nat)
deriving DecidableEq, Repr

/-- How the spelling of a string ends. -/
inductive Quoted.End where
  | closed
  | cut
  | controlCharacter
  | badEscape
  /-- A code unit without four hexadecimal digits. -/
  | badUnit
deriving DecidableEq, Repr

/-- The spelling of a string. -/
structure Quoted where
  pieces : List Piece
  ending : Quoted.End
deriving DecidableEq, Repr

namespace Quoted

export Text (hexValue?)

def add (piece : Piece) (quoted : Quoted) : Quoted := { quoted with pieces := piece :: quoted.pieces }

/-- The code unit that four hexadecimal digits name. -/
def unitOf? (a b c d : Char) : Option Nat := do
  return ((16 * (← hexValue? a) + (← hexValue? b)) * 16 + (← hexValue? c)) * 16 + (← hexValue? d)

/-- The character that a short escape names. -/
def shortEscape? (c : Char) : Option Char :=
  if c = '"' || c = '\\' || c = '/' then some c
  else if c = 'b' then some '\x08'
  else if c = 'f' then some '\x0c'
  else if c = 'n' then some '\n'
  else if c = 'r' then some '\r'
  else if c = 't' then some '\t'
  else none

/-- How a string ends at a code unit that is not given by four digits: the text is cut if it is
shorter than four bytes. -/
def unitEnd (rest : List Char) : End :=
  if rest.foldr (fun c n => c.utf8Size + n) 0 < 4 then .cut else .badUnit

/-- Reads a string from behind its opening quotation mark. -/
def read : List Char → Quoted × List Char
  | [] => (⟨[], .cut⟩, [])
  | '"' :: rest => (⟨[], .closed⟩, rest)
  | ['\\'] => (⟨[], .cut⟩, [])
  | '\\' :: 'u' :: a :: b :: c :: d :: rest =>
    match unitOf? a b c d with
    | some n =>
      let (quoted, after) := read rest
      (quoted.add (.unit n), after)
    | none => (⟨[], unitEnd (a :: b :: c :: d :: rest)⟩, [])
  | '\\' :: 'u' :: rest => (⟨[], unitEnd rest⟩, [])
  | '\\' :: c :: rest =>
    match shortEscape? c with
    | some e =>
      let (quoted, after) := read rest
      (quoted.add (.char e), after)
    | none => (⟨[], .badEscape⟩, [])
  | c :: rest =>
    if c.toNat < 0x20 then (⟨[], .controlCharacter⟩, [])
    else
      let (quoted, after) := read rest
      (quoted.add (.char c), after)

/-- Whether a code unit is the first half of a pair that stands for one character. -/
def isHighSurrogate (n : Nat) : Bool := 0xD800 ≤ n && n < 0xDC00

/-- Whether a code unit is the second half of a pair. -/
def isLowSurrogate (n : Nat) : Bool := 0xDC00 ≤ n && n < 0xE000

/-- The character that a pair of code units stands for. -/
def ofSurrogates (high low : Nat) : Char :=
  Char.ofNat (0x10000 + (high - 0xD800) * 0x400 + (low - 0xDC00))

/-- The fault of an end, for one who does not look at code units. -/
def End.check : End → Except Fault Unit
  | .closed => .ok ()
  | .cut => .error .endInString
  | .controlCharacter => .error .controlCharacter
  | .badEscape | .badUnit => .error .badEscape

/-- The fault of an end right after the first half of a pair. -/
def End.faultInPair : End → Fault
  | .cut => .endInString
  | .badUnit => .badEscape
  | _ => .unpairedSurrogate

/-- The characters of a spelling. The halves of a pair must stand side by side. -/
def characters (ending : End) : List Piece → Except Fault (List Char)
  | [] => do
    ending.check
    return []
  | .char c :: rest => do return c :: (← characters ending rest)
  | .unit n :: .unit m :: rest =>
    if isLowSurrogate n then .error .loneSurrogate
    else if isHighSurrogate n then
      if isLowSurrogate m then do return ofSurrogates n m :: (← characters ending rest)
      else .error .loneSurrogate
    else do return Char.ofNat n :: (← characters ending (.unit m :: rest))
  | .unit n :: rest =>
    if isLowSurrogate n then .error .loneSurrogate
    else if isHighSurrogate n then
      .error (if rest.isEmpty then ending.faultInPair else .unpairedSurrogate)
    else do return Char.ofNat n :: (← characters ending rest)

def text (quoted : Quoted) : Except Fault String := do
  return String.ofList (← characters quoted.ending quoted.pieces)

/-- Passes over a string whose text does not matter. -/
def skip (quoted : Quoted) : Except Fault Unit := quoted.ending.check

end Quoted

end CallOrder.Json
