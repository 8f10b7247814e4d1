import CallOrder.Proofs.GreedyBound

/-! The strongest pair. A pair is passed over only for one that is reported and gains no less, so the largest margin of
all is reported, and a call is flagged whenever any pair reaches the threshold. -/
namespace CallOrder
open Binary64

/-- One of some scores, to which each of them compares. -/
structure IsLargestScore (scores : List Float) (x : Float) : Prop where
  mem : x ∈ scores
  le : ∀ y ∈ scores, y ≤ x

namespace Findings
variable {found : Findings} {x y : Float}

theorem largerScore_isLargest (hx : x.isNaN = false) (hy : y.isNaN = false) :
    IsLargestScore [x, y] (largerScore x y) := by
  rw [largerScore]
  split
  · rename_i hlt
    refine ⟨List.mem_cons_self, ?_⟩
    simp only [List.forall_mem_cons, List.not_mem_nil, false_implies, implies_true, and_true]
    exact ⟨le_iff.2 ⟨hx, hx, le_rfl⟩, le_iff.2 ⟨hy, hx, (lt_iff.1 hlt).2.2.le⟩⟩
  · rename_i hnot
    have hle : toRational x ≤ toRational y := not_lt.1 fun hlt => hnot (lt_iff.2 ⟨hy, hx, hlt⟩)
    refine ⟨List.mem_cons_of_mem _ List.mem_cons_self, ?_⟩
    simp only [List.forall_mem_cons, List.not_mem_nil, false_implies, implies_true, and_true]
    exact ⟨le_iff.2 ⟨hx, hy, hle⟩, le_iff.2 ⟨hy, hy, le_rfl⟩⟩

/-- The best score so far stands for all scores that were seen. -/
theorem foldl_largerScore_isLargest (scores : List Float) (start : Float)
    (hnan : ∀ y ∈ start :: scores, y.isNaN = false) :
    IsLargestScore (start :: scores) (scores.foldl largerScore start) := by
  induction scores generalizing start with
  | nil =>
    have hstart := hnan start List.mem_cons_self
    refine ⟨List.mem_cons_self, ?_⟩
    intro y hy
    rw [List.mem_singleton.1 hy]
    exact le_iff.2 ⟨hstart, hstart, le_rfl⟩
  | cons next rest ih =>
    have hstart := hnan start List.mem_cons_self
    have hnext := hnan next (List.mem_cons_of_mem _ List.mem_cons_self)
    have hlarger := largerScore_isLargest hstart hnext
    have hseen : ∀ y ∈ largerScore start next :: rest, y.isNaN = false := by
      intro y hy
      rcases List.mem_cons.1 hy with rfl | hy
      · exact (le_iff.1 (hlarger.le start List.mem_cons_self)).2.1
      · exact hnan y (List.mem_cons_of_mem _ (List.mem_cons_of_mem _ hy))
    have hbest := ih (largerScore start next) hseen
    have habove : ∀ y ∈ [start, next], y ≤ rest.foldl largerScore (largerScore start next) := by
      intro y hy
      obtain ⟨hnumber, -, hle⟩ := le_iff.1 (hlarger.le y hy)
      obtain ⟨-, hresult, hle'⟩ := le_iff.1 (hbest.le _ List.mem_cons_self)
      exact le_iff.2 ⟨hnumber, hresult, hle.trans hle'⟩
    rw [List.foldl_cons]
    constructor
    · rcases List.mem_cons.1 hbest.mem with heq | hmem
      · rw [heq]
        exact List.mem_append_left rest hlarger.mem
      · exact List.mem_cons_of_mem _ (List.mem_cons_of_mem _ hmem)
    · intro y hy
      rcases List.mem_append.1 (show y ∈ [start, next] ++ rest from hy) with hfirst | hrest
      · exact habove y hfirst
      · exact hbest.le y (List.mem_cons_of_mem _ hrest)

theorem maxScore_eq_none_iff : found.maxScore = none ↔ found.swaps = [] := by
  rw [maxScore]
  cases found.swaps with
  | nil => exact ⟨fun _ => rfl, fun _ => rfl⟩
  | cons swap rest => exact ⟨nofun, nofun⟩

theorem maxScore_isLargest (hnan : ∀ swap ∈ found.swaps, swap.score.isNaN = false) (hx : found.maxScore = some x) :
    IsLargestScore (found.swaps.map Swap.score) x := by
  rw [maxScore] at hx
  cases hswaps : found.swaps with
  | nil =>
    rw [hswaps] at hx
    cases hx
  | cons swap rest =>
    rw [hswaps] at hx hnan
    have hfold := foldl_largerScore_isLargest (rest.map Swap.score) swap.score fun y hy => by
      obtain ⟨other, hother, rfl⟩ := List.mem_map.1 (show y ∈ (swap :: rest).map Swap.score from hy)
      exact hnan other hother
    rw [List.foldl_map, Option.some.inj hx] at hfold
    exact hfold

end Findings

namespace Alignment
variable {a : Alignment} {t : Float}

/-- The largest margin of all eligible pairs, whether they overlap or not; none if there is no such pair. -/
def IsLargestMargin (a : Alignment) (t : Float) : Option Float → Prop
  | none => ∀ p, ¬ a.IsEligible t p
  | some x => (∃ p, a.IsEligible t p ∧ a.margin p = x) ∧ ∀ p, a.IsEligible t p → a.margin p ≤ x

theorem selected_eq_nil_iff : a.selected t = [] ↔ ∀ p, ¬ a.IsEligible t p := by
  constructor
  · intro hnil p hp
    obtain ⟨q, hq, -⟩ := hp.exists_charged
    rw [hnil] at hq
    exact List.not_mem_nil hq
  · intro hnone
    apply List.eq_nil_iff_forall_not_mem.2
    intro p hp
    exact hnone p (selected_eligible hp)

/-- What is largest among the margins of the selected pairs is largest among all. -/
theorem isLargestMargin_of_selected {x : Float} (h : IsLargestScore ((a.selected t).map a.margin) x) :
    a.IsLargestMargin t (some x) := by
  constructor
  · obtain ⟨p, hp, hmargin⟩ := List.mem_map.1 h.mem
    exact ⟨p, selected_eligible hp, hmargin⟩
  · intro p hp
    obtain ⟨q, hq, -, hle⟩ := hp.exists_charged
    obtain ⟨-, hx, hle'⟩ := le_iff.1 (h.le _ (List.mem_map.2 ⟨q, hq, rfl⟩))
    exact le_iff.2 ⟨hp.isNaN, hx, hle.trans hle'⟩

end Alignment

section Search
variable {signature : Signature} {site : CallSite} {t : Float} {policy : MorphemePolicy}

theorem search_swaps_eq_nil_iff :
    (search signature site t policy).swaps = [] ↔ ∀ p, ¬ (signature.align site policy).IsEligible t p := by
  rw [search_swaps, List.map_eq_nil_iff, Alignment.selected_eq_nil_iff]

theorem search_maxScore (signature : Signature) (site : CallSite) (t : Float) (policy : MorphemePolicy) :
    (signature.align site policy).IsLargestMargin t (search signature site t policy).maxScore := by
  cases hmax : (search signature site t policy).maxScore with
  | none =>
    rw [Findings.maxScore_eq_none_iff] at hmax
    exact search_swaps_eq_nil_iff.1 hmax
  | some x =>
    apply Alignment.isLargestMargin_of_selected
    have hnan : ∀ swap ∈ (search signature site t policy).swaps, swap.score.isNaN = false := by
      intro swap hswap
      obtain ⟨p, hp, rfl⟩ := mem_search_swaps.1 hswap
      exact (Alignment.selected_eligible hp).isNaN
    have hlargest := Findings.maxScore_isLargest hnan hmax
    rw [search_swaps, List.map_map] at hlargest
    exact hlargest

theorem search_isEmpty_eq_false_iff :
    (search signature site t policy).isEmpty = false ↔ ∃ p, (signature.align site policy).IsEligible t p := by
  rw [Findings.isEmpty, List.isEmpty_eq_false_iff, ne_eq, search_swaps_eq_nil_iff, not_forall_not]

end Search

namespace Corpus

/-- The pairs of a scanned call that a scanner may report. -/
def Scanner.IsEligible (scanner : Scanner) (job : Job) (p : ℕ × ℕ) : Prop :=
  (job.signature.align job.site scanner.checker.settings.policy).IsEligible scanner.threshold p

theorem Scanner.report_isFlagged (scanner : Scanner) (job : Job) :
    (scanner.report job).isFlagged = true ↔ ∃ p, scanner.IsEligible job p := by
  rw [CallReport.isFlagged, Bool.not_eq_true', scanner.report_found]
  exact search_isEmpty_eq_false_iff

/-- A scan has issues if one of its calls has. -/
theorem hasIssues_ofCalls (calls : List CallReport) (documents skipped : ℕ) :
    (Report.ofCalls calls documents skipped).hasIssues = true ↔ ∃ call ∈ calls, call.isFlagged = true := by
  rw [Report.hasIssues, Report.ofCalls, decide_eq_true_eq, List.countP_pos_iff]

end Corpus

/-- The highest score of a search is the largest margin of all eligible pairs, so the greedy choice hides no pair that is
stronger than all it reports. A call is flagged exactly when it has an eligible pair, in a scan too, and a scan has issues
exactly when some scanned call has one. -/
theorem strongest_pair_is_reported (signature : Signature) (site : CallSite) (t : Float) (policy : MorphemePolicy)
    (scanner : Corpus.Scanner) (documents : List Corpus.Document) :
    let call := signature.align site policy
    let found := search signature site t policy
    call.IsLargestMargin t found.maxScore ∧
    (found.isEmpty = false ↔ ∃ p, call.IsEligible t p) ∧
    ∃ report, scanner.scan documents = .ok report ∧
      List.Forall₂ (fun job call => call.isFlagged = true ↔ ∃ p, scanner.IsEligible job p)
        (Corpus.jobs documents) report.calls ∧
      (report.hasIssues = true ↔ ∃ job ∈ Corpus.jobs documents, ∃ p, scanner.IsEligible job p) := by
  intro call found
  refine ⟨search_maxScore signature site t policy, search_isEmpty_eq_false_iff, _, scanner.scan_ok documents, ?_, ?_⟩
  · rw [Report.ofCalls, List.forall₂_map_right_iff, List.forall₂_same]
    intro job _
    exact scanner.report_isFlagged job
  · rw [Corpus.hasIssues_ofCalls]
    constructor
    · rintro ⟨call, hcall, hflagged⟩
      obtain ⟨job, hjob, rfl⟩ := List.mem_map.1 hcall
      exact ⟨job, hjob, (scanner.report_isFlagged job).1 hflagged⟩
    · rintro ⟨job, hjob, heligible⟩
      exact ⟨scanner.report job, List.mem_map_of_mem hjob, (scanner.report_isFlagged job).2 heligible⟩

end CallOrder
