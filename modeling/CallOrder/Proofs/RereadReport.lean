import CallOrder.Command.Run
import CallOrder.Proofs.Json.Reread
import CallOrder.Proofs.Validity

/-! A report of a scan that is printed and read again. All of it comes back as it was but for the scores, which are
read as numbers of double precision are. -/
namespace CallOrder

open Json

theorem MorphemeSet.ofList_toList (s : MorphemeSet) : ofList s.toList = s := by
  have h : ∀ ms : List String, ms.Pairwise (· < ·) → (ofList ms).toList = ms := by
    intro ms hms
    induction hms with
    | nil => rfl
    | @cons m rest hlt _ ih =>
      change insertAscending m (ofList rest).toList = m :: rest
      rw [ih]
      cases rest with
      | nil => rfl
      | cons next rest => rw [insertAscending, if_pos (hlt next List.mem_cons_self)]
  exact MorphemeSet.ext (h s.toList s.ascending)

/-- The swap with the score that is read where its score was written. -/
def Swap.reread (swap : Swap) : Swap := { swap with score := Json.reread swap.score }

def CallReport.reread (call : CallReport) : CallReport := { call with found := ⟨call.found.swaps.map Swap.reread⟩ }

def Report.reread (report : Report) : Report := { report with calls := report.calls.map CallReport.reread }

/-- All swaps of a report. -/
def Report.swaps (report : Report) : List Swap := report.calls.flatMap fun call => call.found.swaps

/-- Whether the counts and the positions of a report are machine words. -/
structure Report.IsSized (report : Report) : Prop where
  counts : ∀ n ∈ [report.tally.documents, report.tally.checked, report.tally.skipped, report.tally.flagged,
    report.tally.swaps], n < 2^64
  positions : ∀ swap ∈ report.swaps, swap.first < 2^64 ∧ swap.second < 2^64

section Formats
variable {levels : ℕ}

theorem MorphemeSet.format_restores (s : MorphemeSet) : MorphemeSet.format.Restores 1 s := by
  have hlist : (Format.list Format.text).Restores (0 + 1) s.toList := Format.list_restores fun m _ => Format.text_reads m
  have h : MorphemeSet.format.Reads 1 (MorphemeSet.format.write s) (MorphemeSet.ofList s.toList) :=
    Format.via_reads hlist
  rwa [s.ofList_toList] at h

theorem Swap.format_reads {swap : Swap} (hfirst : swap.first < 2^64) (hsecond : swap.second < 2^64)
    (hscore : Format.real.Reads 1 (.real swap.score) (Json.reread swap.score)) :
    Swap.format.Reads 2 (Swap.format.write swap) swap.reread :=
  Format.record_reads (by decide) rfl
    ⟨_, _, rfl, Format.natural_reads hfirst _, _, _, rfl, Format.natural_reads hsecond _,
      _, _, rfl, swap.firstMorphemes.format_restores, _, _, rfl, swap.secondMorphemes.format_restores,
      _, _, rfl, hscore, rfl⟩

theorem Place.format_restores (place : Place) : Place.format.Restores 1 place :=
  Format.record_reads (by decide) rfl
    ⟨_, _, rfl, Format.text_reads _, _, _, rfl, Format.word_reads _, rfl⟩

theorem CallReport.format_reads {call : CallReport}
    (h : ∀ swap ∈ call.found.swaps, Swap.format.Reads 2 (Swap.format.write swap) swap.reread) :
    CallReport.format.Reads 4 (CallReport.format.write call) call.reread := by
  have hswaps : (Format.list Swap.format).Reads 3 (.list (call.found.swaps.map Swap.format.write))
      (call.found.swaps.map Swap.reread) :=
    Format.list_reads (List.forall₂_map_left_iff.2 (List.forall₂_map_right_iff.2 (List.forall₂_same.2 h)))
  exact Format.record_reads (by decide) rfl
    ⟨_, _, rfl, Format.text_reads _,
      _, _, rfl, Format.optional_restores fun place _ => ⟨place.format_restores.mono (by norm_num), nofun⟩,
      _, _, rfl, call.call.format_restores.mono (by norm_num), _, _, rfl, Format.via_reads hswaps, rfl⟩

theorem Tally.format_restores {tally : Tally}
    (h : ∀ n ∈ [tally.documents, tally.checked, tally.skipped, tally.flagged, tally.swaps], n < 2^64) :
    Tally.format.Restores 1 tally :=
  Format.record_reads (by decide) rfl
    ⟨_, _, rfl, Format.natural_reads (h _ (by simp)) _, _, _, rfl, Format.natural_reads (h _ (by simp)) _,
      _, _, rfl, Format.natural_reads (h _ (by simp)) _, _, _, rfl, Format.natural_reads (h _ (by simp)) _,
      _, _, rfl, Format.natural_reads (h _ (by simp)) _, rfl⟩

theorem Report.format_reads {report : Report} (hsized : report.IsSized)
    (hscores : ∀ swap ∈ report.swaps, Format.real.Reads 1 (.real swap.score) (Json.reread swap.score)) :
    Report.format.Reads 6 (Report.format.write report) report.reread := by
  have hswaps : ∀ call ∈ report.calls, ∀ swap ∈ call.found.swaps,
      Swap.format.Reads 2 (Swap.format.write swap) swap.reread := by
    intro call hcall swap hswap
    have hmem : swap ∈ report.swaps := List.mem_flatMap.2 ⟨call, hcall, hswap⟩
    obtain ⟨hfirst, hsecond⟩ := hsized.positions swap hmem
    exact Swap.format_reads hfirst hsecond (hscores swap hmem)
  have hcalls : (Format.list CallReport.format).Reads 5 (.list (report.calls.map CallReport.format.write))
      (report.calls.map CallReport.reread) :=
    Format.list_reads (List.forall₂_map_left_iff.2 (List.forall₂_map_right_iff.2 (List.forall₂_same.2
      fun call hcall => CallReport.format_reads (hswaps call hcall))))
  exact Format.record_reads (by decide) rfl
    ⟨_, _, rfl, hcalls, _, _, rfl, (Tally.format_restores hsized.counts).mono (by norm_num), rfl⟩

end Formats

section Scores
open Binary64

theorem score_reads {x : Float} (h : IsWithin x 2) : Format.real.Reads 1 (.real x) (Json.reread x) ∧ IsReread x (Json.reread x) :=
  Format.real_reads h.finite (by
    rw [abs_of_nonneg h.nonneg]
    exact h.le.trans (by norm_num))

theorem Corpus.Scanner.scores_within {scanner : Corpus.Scanner} {documents : List Corpus.Document} {report : Report}
    (h : scanner.scan documents = .ok report) : ∀ swap ∈ report.swaps, IsWithin swap.score 2 := by
  rw [scan_ok] at h
  cases h
  intro swap hswap
  obtain ⟨call, hcall, hswap⟩ := List.mem_flatMap.1 hswap
  obtain ⟨job, -, rfl⟩ := List.mem_map.1 hcall
  rw [scanner.report_found] at hswap
  obtain ⟨hlow, hhigh⟩ := (search_isSound _ _ _ _).scored swap hswap
  exact isWithin_two (isMargin_iff.1 (isMargin_of_accepted scanner.accepted)).pos hlow hhigh

/-- A report is read where it was written, without spaces or as a scan prints all of it. -/
theorem Report.readText_written {report : Report} (hsized : report.IsSized)
    (hscores : ∀ swap ∈ report.swaps, IsWithin swap.score 2) :
    Report.format.readText (Report.format.write report).toText = .ok report.reread ∧
      ∀ task : Command.ScanTask, task.layout = .json → task.showsAll = true →
        Report.format.readText (task.render report) = .ok report.reread := by
  have hreads := Report.format_reads hsized fun swap hswap => (score_reads (hscores swap hswap)).1
  constructor
  · refine Format.readText_eq hreads (by decide) ?_
    rw [Value.toText, String.toList_ofList]
    exact (Value.spelled_compact _).isTokenText
  · intro task hlayout hall
    refine Format.readText_eq hreads (by decide) ?_
    rw [Command.ScanTask.render, hlayout, hall]
    have htext := (Value.spelled_indented 0 (Report.format.write report)).isTokenText_line
    simpa [Value.toLines] using htext

end Scores

theorem Report.reread_of_short {report : Report} (h : ∀ swap ∈ report.swaps, IsReread swap.score swap.reread.score)
    (hshort : ∀ swap ∈ report.swaps, IsShort swap.score) : report.reread = report := by
  have hswap : ∀ swap ∈ report.swaps, swap.reread = swap := by
    intro swap hswap
    have hscore : Json.reread swap.score = swap.score := (h swap hswap).exact (hshort swap hswap)
    rw [Swap.reread, hscore]
  have hcalls : report.calls.map CallReport.reread = report.calls.map id := by
    refine List.map_congr_left fun call hcall => ?_
    have hfound : call.found.swaps.map Swap.reread = call.found.swaps.map id :=
      List.map_congr_left fun swap hmem => hswap swap (List.mem_flatMap.2 ⟨call, hcall, hmem⟩)
    rw [CallReport.reread, hfound, List.map_id, id]
  rw [Report.reread, hcalls, List.map_id]

/-- A scan gives a report. Where the report was written, compactly or as the scan prints it, one is read that has the
same calls with the same places, swaps and morphemes, and the same counts. Its scores are near to those of the scan;
it is the same report if all of them are short. -/
theorem scan_report_reread (scanner : Corpus.Scanner) (documents : List Corpus.Document) :
    ∃ report, scanner.scan documents = .ok report ∧
      (∀ swap ∈ report.swaps, IsReread swap.score swap.reread.score) ∧
      ((∀ swap ∈ report.swaps, IsShort swap.score) → report.reread = report) ∧
      (report.IsSized →
        Report.format.readText (Report.format.write report).toText = .ok report.reread ∧
        ∀ task : Command.ScanTask, task.layout = .json → task.showsAll = true →
          Report.format.readText (task.render report) = .ok report.reread) := by
  have hscan := scanner.scan_ok documents
  have hscores := Corpus.Scanner.scores_within hscan
  have hreread := fun swap hswap => (score_reads (hscores swap hswap)).2
  exact ⟨_, hscan, hreread, Report.reread_of_short hreread, fun hsized => Report.readText_written hsized hscores⟩

/-- A document with one call, whose two arguments are exchanged. -/
def Corpus.exchangedRange : Corpus.Document where
  functions := .ofList [("slice", {
    declaration := { parameters := some [{ name := some "start_index" }, { name := some "end_index" }] }
    calls := [{ arguments := [{ name := some "end_index" }, { name := some "start_index" }] }] })]

/-- The report of this document, with a score of sixteen decimals after the point. -/
def exchangedRangeReport : Report where
  calls := [{
    callee := "slice"
    declaration := none
    call := ⟨"<unknown>", 0⟩
    found := ⟨[⟨1, 2, .ofList ["end", "index"], .ofList ["start", "index"], 1.3333333333333335⟩]⟩ }]
  tally := ⟨1, 1, 0, 1, 1⟩

theorem scan_exchangedRange :
    (Corpus.Scanner.ofChecker .default).scan [Corpus.exchangedRange] = .ok exchangedRangeReport := by
  decide +kernel

private theorem isSized_exchangedRangeReport : exchangedRangeReport.IsSized := ⟨by decide, by decide +kernel⟩

/-- A document with one call, whose first argument is the second parameter, and whose second one is part of the first. -/
def Corpus.exchangedCopy : Corpus.Document where
  functions := .ofList [("copy", {
    declaration := { parameters := some [{ name := some "source_buffer" }, { name := some "target" }] }
    calls := [{ arguments := [{ name := some "target" }, { name := some "source" }] }] })]

/-- The report of this document, with a score of one decimal after the point. -/
def exchangedCopyReport : Report where
  calls := [{
    callee := "copy"
    declaration := none
    call := ⟨"<unknown>", 0⟩
    found := ⟨[⟨1, 2, .ofList ["target"], .ofList ["source"], 1.5⟩]⟩ }]
  tally := ⟨1, 1, 0, 1, 1⟩

theorem scan_exchangedCopy :
    (Corpus.Scanner.ofChecker .default).scan [Corpus.exchangedCopy] = .ok exchangedCopyReport := by
  decide +kernel

private theorem isSized_exchangedCopyReport : exchangedCopyReport.IsSized := ⟨by decide, by decide +kernel⟩

private theorem isShort_exchangedCopyReport : ∀ swap ∈ exchangedCopyReport.swaps, IsShort swap.score := by
  intro swap hswap negative m e hparts
  have hscore : swap.score = 1.5 := congrArg Swap.score (List.mem_singleton.1 hswap)
  have hfinite : Decimal.Parts.ofFloat 1.5 = .finite false (3 * 2^51) (-52) := by decide +kernel
  rw [hscore, hfinite] at hparts
  cases hparts
  decide +kernel

theorem scan_report_reread_range_copy :
    let scanner := Corpus.Scanner.ofChecker .default
    let task : Command.ScanTask := ⟨"", none, .json, true, false⟩
    (∃ report, scanner.scan [Corpus.exchangedRange] = .ok report ∧
      (∀ swap ∈ report.swaps, IsReread swap.score swap.reread.score) ∧ report.IsSized ∧
      Report.format.readText (Report.format.write report).toText = .ok report.reread ∧
      Report.format.readText (task.render report) = .ok report.reread) ∧
    ∃ report, scanner.scan [Corpus.exchangedCopy] = .ok report ∧ report.swaps ≠ [] ∧
      (∀ swap ∈ report.swaps, IsShort swap.score) ∧ report.reread = report ∧ report.IsSized ∧
      Report.format.readText (Report.format.write report).toText = .ok report ∧
      Report.format.readText (task.render report) = .ok report := by
  intro scanner task
  constructor
  · obtain ⟨report, hscan, hscores, -, hread⟩ := scan_report_reread scanner [Corpus.exchangedRange]
    obtain rfl : exchangedRangeReport = report := Except.ok.inj (scan_exchangedRange.symm.trans hscan)
    obtain ⟨hcompact, hprinted⟩ := hread isSized_exchangedRangeReport
    exact ⟨exchangedRangeReport, hscan, hscores, isSized_exchangedRangeReport, hcompact, hprinted task rfl rfl⟩
  · obtain ⟨report, hscan, -, hexact, hread⟩ := scan_report_reread scanner [Corpus.exchangedCopy]
    obtain rfl : exchangedCopyReport = report := Except.ok.inj (scan_exchangedCopy.symm.trans hscan)
    have hsame := hexact isShort_exchangedCopyReport
    obtain ⟨hcompact, hprinted⟩ := hread isSized_exchangedCopyReport
    rw [hsame] at hcompact hprinted
    exact ⟨exchangedCopyReport, hscan, List.cons_ne_nil _ _, isShort_exchangedCopyReport, hsame,
      isSized_exchangedCopyReport, hcompact, hprinted task rfl rfl⟩

/-- The score of this report comes back with another last digit. -/
theorem scan_report_not_restored :
    ¬ ∀ (scanner : Corpus.Scanner) (documents : List Corpus.Document) (report : Report) (task : Command.ScanTask),
      scanner.scan documents = .ok report → task.layout = .json → task.showsAll = true →
        Report.format.readText (task.render report) = .ok report := by
  intro h
  have hread := h _ _ _ ⟨"", none, .json, true, false⟩ scan_exchangedRange rfl rfl
  obtain ⟨-, hreread⟩ := Report.readText_written isSized_exchangedRangeReport
    (Corpus.Scanner.scores_within scan_exchangedRange)
  rw [hreread _ rfl rfl] at hread
  have hother : exchangedRangeReport.reread ≠ exchangedRangeReport := by decide +kernel
  exact hother (Except.ok.inj hread)

end CallOrder
