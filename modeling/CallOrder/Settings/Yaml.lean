import CallOrder.Settings
import CallOrder.Yaml.Content
import CallOrder.Yaml.Writing

/-! How settings are written in YAML, and read from it. -/
namespace CallOrder

open Yaml

def MorphemePolicy.ofNode? (document node : Node) : Option MorphemePolicy := do
  match ← Node.fieldsIn? document node ["min_token_len", "keep_numeric_tokens", "stop_tokens"] with
  | [length, numeric, stops] =>
    let default : MorphemePolicy := {}
    return {
      minTokenLength := ← Node.fieldOr? (Node.size? document) default.minTokenLength length
      keepNumericTokens := ← Node.fieldOr? (Node.flag? document) default.keepNumericTokens numeric
      stopTokens := ← Node.fieldOr? (Node.texts? document) default.stopTokens stops }
  | _ => none

namespace Settings

def thresholdOfNode? (document node : Node) : Option Float := do
  match ← Node.fieldsIn? document node ["threshold"] with
  | [threshold] => Node.fieldOr? (Node.real? document) ({} : Settings).threshold threshold
  | _ => none

def maxThreadsOfNode? (document node : Node) : Option (Option UInt64) := do
  match ← Node.fieldsIn? document node ["max_threads"] with
  | [threads] => Node.fieldOr? (Node.optional? (Node.size? document) document) none threads
  | _ => none

def ofNode? (document : Node) : Option Settings := do
  match ← Node.fieldsIn? document document ["morphemes", "search", "scan"] with
  | [morphemes, search, scan] =>
    return {
      policy := ← Node.fieldOr? (MorphemePolicy.ofNode? document) {} morphemes
      threshold := ← Node.fieldOr? (thresholdOfNode? document) ({} : Settings).threshold search
      maxThreads := ← Node.fieldOr? (maxThreadsOfNode? document) none scan }
  | _ => none

def ofYaml (text : String) : Except Error Settings :=
  match (Node.ofText? text).bind ofNode? with
  | some settings => .ok settings
  | none => .error .yaml

/-- Numbers as YAML knows them: those that are not finite have a point before their names. -/
def yamlNotation : Decimal.Notation :=
  { Decimal.dataNotation with plus := [], nan := ".nan".toList, infinity := ".inf".toList }

def yamlStopTokens (tokens : List String) : List Char :=
  if tokens.isEmpty then "  stop_tokens: []\n".toList
  else
    "  stop_tokens:\n".toList ++
      tokens.flatMap fun token => "  - ".toList ++ Yaml.writeText 4 token.toList

def toYaml (settings : Settings) : String :=
  String.ofList (
    "morphemes:\n  min_token_len: ".toList ++
    Decimal.digitsOf settings.policy.minTokenLength.toNat ++
    "\n  keep_numeric_tokens: ".toList ++
    (if settings.policy.keepNumericTokens then "true".toList else "false".toList) ++ ['\n'] ++
    yamlStopTokens settings.policy.stopTokens ++
    "search:\n  threshold: ".toList ++
    yamlNotation.spellParts (.ofFloat settings.threshold) ++
    "\nscan:\n  max_threads: ".toList ++
    (match settings.maxThreads with
      | none => "null".toList
      | some n => Decimal.digitsOf n.toNat) ++ ['\n'])

/-- Reads settings from a file, from its bytes or the reason why there are none. -/
def load (path : String) (contents : Except FileFault ByteArray) : Except Error Settings :=
  match contents.bind decodeFile with
  | .error fault => .error (.file ("Failed to read config file: " ++ path) fault)
  | .ok text => ofYaml text

/-- The error of a file to which settings cannot be written. -/
def saveError (path : String) (fault : FileFault) : Error :=
  .file ("Failed to write config file: " ++ path) fault

end Settings

end CallOrder
