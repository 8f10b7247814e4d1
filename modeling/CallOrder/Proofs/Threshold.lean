import CallOrder.Corpus.Scanner
import CallOrder.Proofs.Alignment

/-! Raising the threshold. A pair that stays eligible outranks only pairs that it outranked before, so a
higher threshold filters what a lower one finds. -/
namespace CallOrder
open Binary64

/-- Of a stable choice, what passes a test is a stable choice of the eligible items that pass it,
when the test passes with an item all that outrank it. -/
theorem IsStable.filter {α : Type} {eligible eligible' : α → Prop} {outranks meets : α → α → Prop}
    {chosen passes : α → Prop} (he : ∀ p, eligible' p ↔ eligible p ∧ passes p)
    (hp : ∀ p q, outranks q p → passes p → passes q) (h : IsStable eligible outranks meets chosen) :
    IsStable eligible' outranks meets fun p => chosen p ∧ passes p := by
  intro p
  change chosen p ∧ passes p ↔ _
  rw [he p, h p]
  constructor
  · rintro ⟨⟨hel, hall⟩, hpass⟩
    exact ⟨⟨hel, hpass⟩, fun q hq => hall q hq.1⟩
  · rintro ⟨⟨hel, hpass⟩, hall⟩
    exact ⟨⟨hel, fun q hq hqp => hall q ⟨hq, hp p q hqp hpass⟩ hqp⟩, hpass⟩

private theorem le_trans_float {x y z : Float} (h : x ≤ y) (h' : y ≤ z) : x ≤ z := by
  rw [le_iff] at *
  exact ⟨h.1, h'.2.1, h.2.2.trans h'.2.2⟩

namespace Alignment
variable {a : Alignment} {low high : Float}

theorem Outranks.margin_le {p q : ℕ × ℕ} (h : a.Outranks q p) : a.margin p ≤ a.margin q := by
  rcases h with h | ⟨h, _⟩
  · exact le_iff.2 ⟨(lt_iff.1 h).1, (lt_iff.1 h).2.1, (lt_iff.1 h).2.2.le⟩
  · exact le_iff.2 ⟨(beq_iff.1 h).1, (beq_iff.1 h).2.1, (beq_iff.1 h).2.2.le⟩

theorem isEligible_iff_of_le (h : low ≤ high) (p : ℕ × ℕ) :
    a.IsEligible high p ↔ a.IsEligible low p ∧ high ≤ a.margin p := by
  constructor
  · intro hp
    exact ⟨⟨hp.toIsPair, hp.related, le_trans_float h hp.gains⟩, hp.gains⟩
  · rintro ⟨hp, hg⟩
    exact ⟨hp.toIsPair, hp.related, hg⟩

theorem selected_of_le (h : low ≤ high) :
    a.selected high = (a.selected low).filter fun p => high ≤ a.margin p := by
  have hfilter : IsStable (a.IsEligible high) a.Outranks Meets fun p => p ∈ a.selected low ∧ high ≤ a.margin p :=
    (selected_stable low).filter (isEligible_iff_of_le h) fun _ _ hr hp => le_trans_float hp hr.margin_le
  refine (selected_ascending high).eq_of_mem_iff ((selected_ascending low).filter _) fun p => ?_
  rw [List.mem_filter, decide_eq_true_eq]
  exact (selected_stable high).unique (finite_eligible high) hfilter p

end Alignment

/-- The findings whose score reaches a threshold, as they stand. -/
def Findings.atLeast (found : Findings) (t : Float) : Findings := ⟨found.swaps.filter fun swap => t ≤ swap.score⟩

def CallReport.atLeast (report : CallReport) (t : Float) : CallReport := { report with found := report.found.atLeast t }

/-- The same calls, each with the findings that reach a threshold. -/
def Report.atLeast (report : Report) (t : Float) : Report :=
  .ofCalls (report.calls.map (·.atLeast t)) report.tally.documents report.tally.skipped

theorem search_of_le {low high : Float} (h : low ≤ high) (signature : Signature) (site : CallSite)
    (policy : MorphemePolicy) :
    search signature site high policy = (search signature site low policy).atLeast high := by
  have hscore : ∀ p, ((fun swap : Swap => decide (high ≤ swap.score)) ∘ (signature.align site policy).swapAt) p =
      decide (high ≤ (signature.align site policy).margin p) := fun _ => rfl
  refine Findings.eq_of_swaps ?_
  rw [Findings.atLeast, search_swaps, search_swaps, Alignment.selected_of_le h, List.filter_map,
    List.filter_congr fun p _ => hscore p]

namespace Corpus.Scanner
variable {t : Float}

/-- What is reported of a call, when the threshold is valid. -/
def report (scanner : Scanner) (job : Job) : CallReport where
  callee := job.signature.displayName
  declaration := job.declaration
  call := job.call
  found := if job.site.isEmpty then {} else
    search job.signature job.site scanner.threshold scanner.checker.settings.policy

theorem checkAt_ok (scanner : Scanner) (signature : Signature) (site : CallSite) :
    scanner.checker.checkAt scanner.threshold signature site =
      .ok (if site.isEmpty then {} else search signature site scanner.threshold scanner.checker.settings.policy) := by
  simp only [Checker.checkAt, scanner.accepted, bind, Except.bind]
  split <;> rfl

theorem checkJob_ok (scanner : Scanner) (job : Job) : scanner.checkJob job = pure (scanner.report job) := by
  rw [checkJob, checkAt_ok]
  rfl

private theorem report_of_le {lenient strict : Scanner} (hc : strict.checker = lenient.checker)
    (h : lenient.threshold ≤ strict.threshold) (job : Job) :
    strict.report job = (lenient.report job).atLeast strict.threshold := by
  simp only [report, CallReport.atLeast, hc]
  split
  · rfl
  · rw [search_of_le h]

theorem scan_ok (scanner : Scanner) (documents : List Document) :
    scanner.scan documents =
      .ok (.ofCalls ((jobs documents).map scanner.report) documents.length (skippedCalls documents)) := by
  have h : scanner.checkJob = fun job => pure (scanner.report job) := funext scanner.checkJob_ok
  rw [scan, h, List.mapM_pure]
  rfl

theorem scan_of_le (lenient strict : Scanner) (hc : strict.checker = lenient.checker)
    (h : lenient.threshold ≤ strict.threshold) (documents : List Document) :
    ∃ report, lenient.scan documents = .ok report ∧ strict.scan documents = .ok (report.atLeast strict.threshold) := by
  have hmap : (jobs documents).map strict.report =
      ((jobs documents).map lenient.report).map (·.atLeast strict.threshold) := by
    rw [List.map_map]
    exact List.map_congr_left fun job _ => report_of_le hc h job
  refine ⟨_, lenient.scan_ok documents, ?_⟩
  rw [scan_ok, hmap]
  rfl

theorem checkMargin_ok (h : isMargin t = true) : checkMargin t = .ok () := by
  rw [checkMargin, if_pos h]

theorem withThreshold_ok (scanner : Scanner) (h : checkMargin t = .ok ()) :
    scanner.withThreshold t = .ok ⟨scanner.checker, t, h⟩ := by
  unfold withThreshold
  split
  · rfl
  · rename_i heq
    rw [h] at heq
    cases heq

end Corpus.Scanner

/-- A scan with a valid threshold succeeds, and a higher valid one keeps of every call just the findings
that reach it. -/
theorem raising_threshold_filters (low high : Float) (h : low ≤ high) :
    (∀ (signature : Signature) (site : CallSite) (policy : MorphemePolicy),
      search signature site high policy = (search signature site low policy).atLeast high) ∧
    ∀ (scanner : Corpus.Scanner) (documents : List Corpus.Document),
      isMargin low = true → isMargin high = true →
      ∃ lenient strict report,
        scanner.withThreshold low = .ok lenient ∧ scanner.withThreshold high = .ok strict ∧
        lenient.scan documents = .ok report ∧ strict.scan documents = .ok (report.atLeast high) := by
  refine ⟨search_of_le h, fun scanner documents hl hh => ?_⟩
  have hlow := Corpus.Scanner.checkMargin_ok hl
  have hhigh := Corpus.Scanner.checkMargin_ok hh
  obtain ⟨report, hlenient, hstrict⟩ :=
    Corpus.Scanner.scan_of_le ⟨scanner.checker, low, hlow⟩ ⟨scanner.checker, high, hhigh⟩ rfl h documents
  exact ⟨_, _, report, scanner.withThreshold_ok hlow, scanner.withThreshold_ok hhigh, hlenient, hstrict⟩

theorem raising_threshold_filters_half_one :
    let signature : Signature := { parameters := some ["source", "target"] }
    let site := CallSite.ofNames ["target", "source"]
    let documents : List Corpus.Document := [{ functions := .ofList [("copy", {
      declaration := { parameters := some [⟨some "source"⟩, ⟨some "target"⟩] }
      calls := [{ arguments := [⟨some "target"⟩, ⟨some "source"⟩] }] })] }]
    (0.5 : Float) ≤ 1 ∧ isMargin 0.5 = true ∧ isMargin 1 = true ∧
    search signature site 1 {} = (search signature site 0.5 {}).atLeast 1 ∧
    ∃ lenient strict report,
      (Corpus.Scanner.ofChecker .default).withThreshold 0.5 = .ok lenient ∧
      (Corpus.Scanner.ofChecker .default).withThreshold 1 = .ok strict ∧
      lenient.scan documents = .ok report ∧ strict.scan documents = .ok (report.atLeast 1) := by
  intro signature site documents
  have h : (0.5 : Float) ≤ 1 := by decide +kernel
  have hlow : isMargin 0.5 = true := by decide +kernel
  have hhigh : isMargin 1 = true := by decide +kernel
  have hfilters := raising_threshold_filters 0.5 1 h
  exact ⟨h, hlow, hhigh, hfilters.1 signature site {}, hfilters.2 (.ofChecker .default) documents hlow hhigh⟩

end CallOrder
