import CallOrder.Checker
import CallOrder.Corpus.Job

/-! Scanning a corpus: each call whose function is known is checked by itself. -/
namespace CallOrder.Corpus

/-- What the system says to a pool of so many threads: nothing if it can be built, else what is in the way. -/
abbrev Pools := UInt64 → Except String Unit

/-- A checker with a threshold for the scan, which was accepted. -/
structure Scanner where
  checker : Checker
  threshold : Float
  accepted : checkMargin threshold = .ok ()

namespace Scanner

/-- Accepted settings have an accepted threshold. -/
theorem threshold_accepted {settings : Settings} (h : settings.check = .ok ()) :
    checkMargin settings.threshold = .ok () := by
  unfold Settings.check at h
  cases hp : settings.policy.check with
  | error e => simp [hp, bind, Except.bind] at h
  | ok u =>
    cases hm : checkMargin settings.threshold with
    | error e => simp [hp, hm, bind, Except.bind] at h
    | ok v => rfl

/-- The scanner that uses the threshold of the settings. -/
def ofChecker (checker : Checker) : Scanner :=
  ⟨checker, checker.settings.threshold, threshold_accepted checker.accepted⟩

/-- The same scanner with another threshold. -/
def withThreshold (scanner : Scanner) (threshold : Float) : Except Error Scanner :=
  match h : checkMargin threshold with
  | .ok () => .ok { scanner with threshold, accepted := h }
  | .error error => .error error

def checkJob (scanner : Scanner) (job : Job) : Except Error CallReport := do
  let found ← scanner.checker.checkAt scanner.threshold job.signature job.site
  return {
    callee := job.signature.displayName
    declaration := job.declaration
    call := job.call
    found }

/-- Checks the calls of a corpus. Where the settings ask for a pool of threads it is taken to stand; `scanOn` does not
take that for granted. -/
def scan (scanner : Scanner) (documents : List Document) : Except Error Report := do
  let calls ← (jobs documents).mapM scanner.checkJob
  return .ofCalls calls documents.length (skippedCalls documents)

/-- Builds the pool that the settings ask for. They ask for none if they do not say how many threads there may be. -/
def buildPool (pools : Pools) (scanner : Scanner) : Except Error Unit :=
  match scanner.checker.settings.maxThreads with
  | none => .ok ()
  | some threads => (pools threads).mapError fun problem =>
      (Error.internal ("Failed to build thread pool: " ++ problem) none).inContext "corpus scan"

/-- The scan where a pool may not be had: it is built before any call is checked. -/
def scanOn (pools : Pools) (scanner : Scanner) (documents : List Document) : Except Error Report := do
  scanner.buildPool pools
  scanner.scan documents

end Scanner

end CallOrder.Corpus
