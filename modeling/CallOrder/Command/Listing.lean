import CallOrder.Decimal.Places
import CallOrder.Report.Format
import CallOrder.Settings
import CallOrder.Terminal.Style
import CallOrder.Terminal.Table

/-! How findings are shown to a reader. -/
namespace CallOrder.Command

open Terminal

def describeSwap (callee : String) (swap : Swap) : String :=
  callee ++ " has swapped arguments " ++ String.ofList (Decimal.digitsOf swap.first) ++ " and " ++
    String.ofList (Decimal.digitsOf swap.second) ++ " with a score of " ++
    Decimal.spellPlaces 2 swap.score

def errorWord : String := Style.brightRed.paintBold "ERROR"

/-- The word in front of what helps to understand a finding. -/
def noteWord : String := Style.blue.paintBold "NOTE"

def describeMorphemes (morphemes : MorphemeSet) : String :=
  "\x7b" ++ ",".intercalate morphemes.toList ++ "\x7d"

/-- A swap of a call that stands by itself. -/
def listSwap (callee : String) (swap : Swap) : String :=
  errorWord ++ ": " ++ describeSwap callee swap ++ "\n  " ++ Style.dimmed.paint "morphemes:" ++ " " ++
    describeMorphemes swap.firstMorphemes ++ " <-> " ++ describeMorphemes swap.secondMorphemes ++ "\n"

/-- The findings of a call that stands by itself. -/
def listFindings (callee : String) (found : Findings) : String :=
  if found.isEmpty then Style.green.paint "✅ No swapped arguments found" ++ "\n"
  else String.join (found.swaps.map (listSwap callee))

/-- What is said of a call in a corpus. -/
inductive Remark where
  | error (call : Place) (callee : String) (swap : Swap)
  | note (declaration : Place)

def Remark.text : Remark → String
  | .error call callee swap =>
    errorWord ++ " (" ++ call.describe ++ "): " ++ describeSwap callee swap ++ "\n"
  | .note declaration => noteWord ++ " (" ++ declaration.describe ++ "): callee declared here\n"

/-- The remarks on a call: an error for each swap, and after each error a note if the declaration
of the function is known. -/
def remarksOn (report : CallReport) : List Remark :=
  report.found.swaps.flatMap fun swap =>
    .error report.call report.callee swap :: report.declaration.toList.map .note

/-- The remarks on all calls of a report. -/
def remarks (report : Report) : List Remark := report.flagged.flatMap remarksOn

def countRow (name : String) (n : Nat) : String × String :=
  (name, String.ofList (Decimal.digitsOf n))

def tallyTable (tally : Tally) : Table where
  head := ("metric", "value")
  rows :=
    [countRow "Documents" tally.documents,
      countRow "Call sites checked" tally.checked,
      countRow "Call sites skipped" tally.skipped,
      countRow "Call sites flagged" tally.flagged,
      countRow "Swap candidates" tally.swaps]

def verdict (tally : Tally) : String :=
  if tally.flagged = 0 then Style.green.paint "🎉 No swapped arguments found." ++ "\n"
  else
    Style.brightRed.paintBold "🔥 Call sites with swapped arguments:" ++ " " ++
      Style.yellow.paint (String.ofList (Decimal.digitsOf tally.flagged)) ++ "\n"

/-- The head of a report or a validation, which names the file. -/
def fileHead (activity path : String) : String :=
  Style.blue.paintBold ("🔍 " ++ activity ++ ":") ++ " " ++ Style.cyan.paint path ++ "\n"

def listReport (corpus : String) (report : Report) : String :=
  fileHead "Scanning corpus" corpus ++ String.join ((remarks report).map Remark.text) ++ "\n" ++
    (tallyTable report.tally).toText ++ verdict report.tally

def settingsTable (settings : Settings) : Table where
  head := ("setting", "value")
  rows :=
    [("search.threshold", Decimal.plain.spell settings.threshold),
      countRow "morphemes.min_token_len" settings.policy.minTokenLength.toNat,
      ("morphemes.keep_numeric_tokens", if settings.policy.keepNumericTokens then "true" else "false"),
      ("morphemes.stop_tokens", ", ".intercalate settings.policy.stopTokens),
      match settings.maxThreads with
      | none => ("scan.max_threads", "auto")
      | some n => countRow "scan.max_threads" n.toNat]

def listSettings (settings : Settings) (isDetailed : Bool) : String :=
  Style.green.paintBold "✅ Configuration file is valid!" ++ "\n\n   Threshold: " ++
    Style.yellow.paint (Decimal.plain.spell settings.threshold) ++ "\n" ++
    if isDetailed then
      "\n" ++ Style.blue.paintBold "🔧 Detailed Settings" ++ "\n\n" ++ (settingsTable settings).toText
    else ""

/-- What helps to mend settings that are not valid. -/
def settingsAdvice : String :=
  "\n" ++ Style.blue.paintBold "🔧 Common issues:" ++
    "\n   • Check YAML syntax (indentation, colons, quotes)\n" ++
    "   • search.threshold must lie in (0, 2]\n   • scan.max_threads must be at least 1\n\n" ++
    Style.dimmed.paint "💡 Tip: Use 'argswap print-default-config' to see valid format" ++ "\n"

/-- What stands above the default settings. -/
def defaultsHead : String :=
  Style.dimmed.paint "# Default argswap configuration" ++ "\n" ++
    Style.dimmed.paint "# Save this to a file and customize as needed" ++ "\n" ++
    Style.dimmed.paint "# Usage: argswap --config your-config.yml scan calls.jsonl" ++ "\n\n"

end CallOrder.Command
