import CallOrder.Json.Format
import CallOrder.Report

/-! How findings and reports are written in JSON. -/
namespace CallOrder

open Json

/-- A set of morphemes is written as a list. -/
def MorphemeSet.format : Format MorphemeSet := (Format.list .text).via .ofList MorphemeSet.toList

def Swap.format : Format Swap :=
  .record "SwapCandidate"
    (.cons "arg1" .count .refused
      (.cons "arg2" .count .refused
        (.cons "morphemes1" MorphemeSet.format .refused
          (.cons "morphemes2" MorphemeSet.format .refused
            (.cons "score" .real .refused .nil)))))
    (fun (first, second, firstMorphemes, secondMorphemes, score, ()) =>
      { first, second, firstMorphemes, secondMorphemes, score })
    (fun swap =>
      (swap.first, swap.second, swap.firstMorphemes, swap.secondMorphemes, swap.score, ()))

def Findings.format : Format Findings := (Format.list Swap.format).via .mk Findings.swaps

def Place.format : Format Place :=
  .record "SourceLocation"
    (.cons "file" .text .refused (.cons "line" .word .refused .nil))
    (fun (file, line, ()) => { file, line })
    (fun place => (place.file, place.line, ()))

def CallReport.format : Format CallReport :=
  .record "SiteReport"
    (.cons "callee" .text .refused
      (.cons "declaration" (.optional Place.format) (.inObject none)
        (.cons "call" Place.format .refused
          (.cons "candidates" Findings.format .refused .nil))))
    (fun (callee, declaration, call, found, ()) => { callee, declaration, call, found })
    (fun report => (report.callee, report.declaration, report.call, report.found, ()))

def Tally.format : Format Tally :=
  .record "ScanSummary"
    (.cons "documents" .count .refused
      (.cons "sites_checked" .count .refused
        (.cons "sites_skipped" .count .refused
          (.cons "sites_flagged" .count .refused
            (.cons "candidates" .count .refused .nil)))))
    (fun (documents, checked, skipped, flagged, swaps, ()) =>
      { documents, checked, skipped, flagged, swaps })
    (fun tally =>
      (tally.documents, tally.checked, tally.skipped, tally.flagged, tally.swaps, ()))

def Report.format : Format Report :=
  .record "ScanReport"
    (.cons "reports" (.list CallReport.format) .refused
      (.cons "summary" Tally.format .refused .nil))
    (fun (calls, tally, ()) => { calls, tally })
    (fun report => (report.calls, report.tally, ()))

/-- The members of a report, in the order of their names. Here, and within, all members stand in
the order of their names, and the calls are only those at which something was found. -/
def Report.flaggedValue (report : Report) : Value :=
  .sortKeys (Report.format.write { report with calls := report.flagged })

end CallOrder
