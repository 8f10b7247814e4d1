import CallOrder.Json.Format
import CallOrder.Settings

/-! How settings are written in JSON. They stand in three sections, any of which may be missing. -/
namespace CallOrder

open Json

def MorphemePolicy.format : Format MorphemePolicy :=
  .record "MorphemeConfig"
    (.cons "min_token_len" .size (.anywhere ({} : MorphemePolicy).minTokenLength)
      (.cons "keep_numeric_tokens" .flag (.anywhere ({} : MorphemePolicy).keepNumericTokens)
        (.cons "stop_tokens" (.list .text) (.anywhere ({} : MorphemePolicy).stopTokens) .nil)))
    (fun (minTokenLength, keepNumericTokens, stopTokens, ()) =>
      { minTokenLength, keepNumericTokens, stopTokens })
    (fun policy => (policy.minTokenLength, policy.keepNumericTokens, policy.stopTokens, ()))

namespace Settings

/-- The section on the search, which holds the threshold. -/
def searchFormat : Format Float :=
  .record "SearchConfig"
    (.cons "threshold" .real (.anywhere ({} : Settings).threshold) .nil)
    (fun (threshold, ()) => threshold)
    (fun threshold => (threshold, ()))

/-- The section on scans, which holds the number of threads. -/
def scanFormat : Format (Option UInt64) :=
  .record "ScanConfig"
    (.cons "max_threads" (.optional .size) (.anywhere none) .nil)
    (fun (maxThreads, ()) => maxThreads)
    (fun maxThreads => (maxThreads, ()))

def format : Format Settings :=
  .record "ArgswapConfig"
    (.cons "morphemes" MorphemePolicy.format (.anywhere {})
      (.cons "search" searchFormat (.anywhere ({} : Settings).threshold)
        (.cons "scan" scanFormat (.anywhere none) .nil)))
    (fun (policy, threshold, maxThreads, ()) => { policy, threshold, maxThreads })
    (fun settings => (settings.policy, settings.threshold, settings.maxThreads, ()))

end Settings

end CallOrder
