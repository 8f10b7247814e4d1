import CallOrder.Proofs.Results
import CallOrder.Proofs.Threshold
import Mathlib.Data.List.Forall2
import Mathlib.Data.Option.Basic

/-! Accounting for the recorded calls of a corpus: each is reported once or skipped, in order, and the tally of a scan
is that of its parts. -/
namespace CallOrder.Corpus

/-- The text by which a document lists a file: of a number the decimal digits. -/
inductive FileKey.IsText : FileKey → String → Prop where
  | id (n : UInt64) : IsText (.id n) (Nat.repr n.toNat)
  | name (s : String) : IsText (.name s) s

/-- The file that a document means by a key. A file that the document does not list is called by its key. -/
inductive Document.Means (document : Document) : Option FileKey → String → Prop where
  | unknown : Means document none "<unknown>"
  | listed {key : FileKey} {text path : String} (h : key.IsText text)
      (hlisted : (text, path) ∈ document.fileNames.entries) : Means document (some key) path
  | verbatim {key : FileKey} {text : String} (h : key.IsText text)
      (hunlisted : ∀ path, (text, path) ∉ document.fileNames.entries) : Means document (some key) text

/-- What a recorded place stands for within a document. -/
structure Document.Denotes (document : Document) (recorded : RecordedPlace) (place : Place) : Prop where
  file : document.Means recorded.file place.file
  line : place.line = recorded.line.getD 0

/-- A recorded place stands for this one only. -/
def Document.Locates (document : Document) (recorded : RecordedPlace) (place : Place) : Prop :=
  ∀ other, document.Denotes recorded other ↔ other = place

/-- A recorded call, with the function and the document to which it belongs. -/
structure Recorded where
  document : Document
  callee : String
  function : FunctionRecord
  call : RecordedCall

def Document.recorded (document : Document) : List Recorded :=
  document.functions.entries.flatMap fun (callee, function) => function.calls.map (⟨document, callee, function, ·⟩)

/-- All recorded calls of a corpus, in order. -/
def recorded (documents : List Document) : List Recorded := documents.flatMap Document.recorded

/-- Whether the parameters of the called function are known. -/
def Recorded.isKnown (r : Recorded) : Bool := r.function.declaration.parameters.isSome

/-- What the report of a recorded call says, when the call is checked by itself. -/
structure Recorded.IsReported (r : Recorded) (scanner : Scanner) (report : CallReport) : Prop where
  callee : report.callee = r.callee
  call : r.document.Locates r.call.place report.call
  declaration : Option.Rel r.document.Locates r.function.declaration.place report.declaration
  found : ∃ parameters, r.function.declaration.parameters = some parameters ∧
    scanner.checker.checkAt scanner.threshold
      { callee := some r.callee
        parameters := some (parameters.map fun parameter => parameter.name.getD "")
        isVariadic := r.function.declaration.isVariadic }
      (.ofNames (r.call.arguments.map fun argument => argument.name.getD "")) = .ok report.found

end CallOrder.Corpus

namespace CallOrder

theorem NameMap.value_unique {α : Type} (map : NameMap α) {name : String} {v v' : α} (h : (name, v) ∈ map.entries)
    (h' : (name, v') ∈ map.entries) : v = v' := by
  have hnames : (map.entries.map Prod.fst).Nodup := by
    refine List.pairwise_map.2 (map.ascending.imp fun {a b} hlt heq => ?_)
    rw [heq] at hlt
    exact String.lt_irrefl _ hlt
  exact congrArg Prod.snd (List.inj_on_of_nodup_map hnames h h' rfl)

instance : Add Tally where
  add a b := ⟨a.documents + b.documents, a.checked + b.checked, a.skipped + b.skipped, a.flagged + b.flagged,
    a.swaps + b.swaps⟩

theorem Report.ofCalls_swaps (calls : List CallReport) (documents skipped : ℕ) :
    (ofCalls calls documents skipped).tally.swaps = (calls.map fun call => call.found.swaps.length).sum :=
  List.foldr_map.symm

theorem Report.ofCalls_append (calls calls' : List CallReport) (documents documents' skipped skipped' : ℕ) :
    ofCalls (calls ++ calls') (documents + documents') (skipped + skipped') =
      ⟨calls ++ calls', (ofCalls calls documents skipped).tally + (ofCalls calls' documents' skipped').tally⟩ := by
  have hswaps : (ofCalls (calls ++ calls') (documents + documents') (skipped + skipped')).tally.swaps =
      (ofCalls calls documents skipped).tally.swaps + (ofCalls calls' documents' skipped').tally.swaps := by
    rw [ofCalls_swaps, ofCalls_swaps, ofCalls_swaps, List.map_append, List.sum_append]
  dsimp only [ofCalls] at hswaps ⊢
  rw [hswaps, List.length_append, List.countP_append]
  rfl

namespace Corpus

theorem FileKey.isText_iff {key : FileKey} {text : String} : key.IsText text ↔ text = key.text := by
  constructor
  · rintro (n | s)
    · rfl
    · rfl
  · rintro rfl
    cases key with
    | id n => exact .id n
    | name s => exact .name s

namespace Document
variable {document : Document}

/-- A document lists a file once, so it means one file by a key. -/
theorem Means.unique {file : Option FileKey} {s s' : String} (h : document.Means file s) (h' : document.Means file s') :
    s = s' := by
  cases h with
  | unknown =>
    cases h'
    rfl
  | listed ht hl =>
    obtain rfl := FileKey.isText_iff.1 ht
    cases h' with
    | listed ht' hl' =>
      obtain rfl := FileKey.isText_iff.1 ht'
      exact document.fileNames.value_unique hl hl'
    | verbatim ht' hu =>
      obtain rfl := FileKey.isText_iff.1 ht'
      exact absurd hl (hu _)
  | verbatim ht hu =>
    obtain rfl := FileKey.isText_iff.1 ht
    cases h' with
    | listed ht' hl =>
      obtain rfl := FileKey.isText_iff.1 ht'
      exact absurd hl (hu _)
    | verbatim ht' _ => exact (FileKey.isText_iff.1 ht').symm

theorem means_resolve (document : Document) (place : RecordedPlace) :
    document.Means place.file (document.resolve place).file := by
  unfold resolve
  cases place.file with
  | none => exact .unknown
  | some key =>
    have htext := FileKey.isText_iff.2 (rfl : key.text = key.text)
    dsimp only
    cases hget : document.fileNames.get? key.text with
    | none =>
      refine .verbatim htext fun path hmem => ?_
      have hne := List.lookup_eq_none_iff.1 hget _ hmem
      simp at hne
    | some path =>
      obtain ⟨before, after, hentries, -⟩ := List.lookup_eq_some_iff.1 hget
      refine .listed htext ?_
      rw [hentries]
      simp

theorem locates_resolve (document : Document) (recorded : RecordedPlace) :
    document.Locates recorded (document.resolve recorded) := by
  have hmeans := document.means_resolve recorded
  intro other
  constructor
  · rintro ⟨hfile, hline⟩
    have hsame := hfile.unique hmeans
    cases other with
    | mk file line =>
      subst hsame hline
      rfl
  · rintro rfl
    exact ⟨hmeans, rfl⟩

end Document

/-- The job that a recorded call makes. -/
def Recorded.job (r : Recorded) : Job where
  signature :=
    { callee := some r.callee
      parameters := some ((r.function.declaration.parameters.getD []).map NamedItem.text)
      isVariadic := r.function.declaration.isVariadic }
  site := .ofNames (r.call.arguments.map NamedItem.text)
  declaration := r.function.declaration.place.map r.document.resolve
  call := r.document.resolve r.call.place

section Function
variable (document : Document) (callee : String) (function : FunctionRecord)

private theorem isKnown_of_mem {r : Recorded} (h : r ∈ function.calls.map (Recorded.mk document callee function ·)) :
    r.isKnown = function.declaration.parameters.isSome := by
  obtain ⟨call, -, rfl⟩ := List.mem_map.1 h
  rfl

private theorem functionJobs_eq :
    document.functionJobs callee function =
      ((function.calls.map (Recorded.mk document callee function ·)).filter Recorded.isKnown).map Recorded.job := by
  have hknown := fun r => isKnown_of_mem document callee function (r := r)
  unfold Document.functionJobs
  cases hparameters : function.declaration.parameters with
  | none =>
    rw [hparameters] at hknown
    rw [List.filter_eq_nil_iff.2 fun r hr => by rw [hknown r hr]; decide]
    rfl
  | some parameters =>
    rw [hparameters] at hknown
    rw [List.filter_eq_self.2 fun r hr => hknown r hr, List.map_map]
    refine List.map_congr_left fun call _ => ?_
    simp only [Function.comp_apply, Recorded.job, hparameters, Option.getD_some]

private theorem functionSkipped_eq :
    function.skippedCalls = (function.calls.map (Recorded.mk document callee function ·)).countP (!·.isKnown) := by
  have hknown := fun r => isKnown_of_mem document callee function (r := r)
  unfold FunctionRecord.skippedCalls
  cases hparameters : function.declaration.parameters with
  | none =>
    rw [hparameters] at hknown
    rw [List.countP_eq_length.2 fun r hr => by rw [hknown r hr]; rfl, List.length_map]
  | some parameters =>
    rw [hparameters] at hknown
    rw [List.countP_eq_zero.2 fun r hr => by rw [hknown r hr]; exact Bool.false_ne_true]

end Function

theorem jobs_eq (documents : List Document) :
    jobs documents = ((recorded documents).filter Recorded.isKnown).map Recorded.job := by
  have hdocument : ∀ document : Document,
      document.jobs = (document.recorded.filter Recorded.isKnown).map Recorded.job := by
    intro document
    simp only [Document.jobs, Document.recorded, List.filter_flatMap, List.map_flatMap, functionJobs_eq]
  rw [jobs, recorded, List.filter_flatMap, List.map_flatMap, funext hdocument]

private theorem documentSkipped_eq (document : Document) :
    document.skippedCalls = document.recorded.countP (!·.isKnown) := by
  unfold Document.skippedCalls Document.recorded
  induction document.functions.entries with
  | nil => rfl
  | cons entry rest ih =>
    rw [List.foldr_cons, List.flatMap_cons, List.countP_append, ih]
    exact congrArg (· + _) (functionSkipped_eq document entry.1 entry.2)

theorem skippedCalls_eq (documents : List Document) :
    skippedCalls documents = (recorded documents).countP (!·.isKnown) := by
  unfold skippedCalls recorded
  induction documents with
  | nil => rfl
  | cons document rest ih => rw [List.foldr_cons, List.flatMap_cons, List.countP_append, ih, documentSkipped_eq]

theorem skippedCalls_append (documents more : List Document) :
    skippedCalls (documents ++ more) = skippedCalls documents + skippedCalls more := by
  rw [skippedCalls_eq, skippedCalls_eq, skippedCalls_eq, recorded, List.flatMap_append, List.countP_append]
  rfl

theorem Recorded.report_isReported (scanner : Scanner) {r : Recorded} (h : r.isKnown = true) :
    r.IsReported scanner (scanner.report r.job) := by
  obtain ⟨parameters, hparameters⟩ := Option.isSome_iff_exists.1 h
  refine ⟨rfl, r.document.locates_resolve r.call.place, ?_, parameters, hparameters, ?_⟩
  · rw [Scanner.report, job]
    cases r.function.declaration.place with
    | none => exact .none
    | some place => exact .some (r.document.locates_resolve place)
  · have hjob := scanner.checkAt_ok r.job.signature r.job.site
    simp only [job, hparameters, Option.getD_some] at hjob
    refine hjob.trans ?_
    simp only [Scanner.report, job, hparameters, Option.getD_some]

/-- Within a document the functions come by their names. -/
theorem Document.recorded_ascending (document : Document) :
    (document.recorded.map Recorded.callee).Pairwise (· ≤ ·) := by
  refine List.pairwise_map.2 (List.pairwise_flatMap.2 ⟨fun entry _ => ?_, ?_⟩)
  · exact List.pairwise_map.2 (List.pairwise_of_forall fun _ _ => le_rfl)
  · refine document.functions.ascending.imp fun {entry next} hlt r hr r' hr' => ?_
    obtain ⟨call, -, rfl⟩ := List.mem_map.1 hr
    obtain ⟨call', -, rfl⟩ := List.mem_map.1 hr'
    exact le_of_lt hlt

end Corpus

/-- Of accepted settings only the number of threads has to be accepted again when it changes. -/
theorem Settings.check_maxThreads {settings : Settings} (h : settings.check = .ok ()) {threads : Option UInt64}
    (hthreads : threads ≠ some 0) : ({ settings with maxThreads := threads } : Settings).check = .ok () := by
  have hmargin := Corpus.Scanner.threshold_accepted h
  rw [check] at h
  obtain ⟨u, hpolicy, -⟩ := bind_eq_ok.1 h
  simp only [check, hpolicy, hmargin, bind, Except.bind]
  cases threads with
  | none => rfl
  | some n =>
    have hn : n.toNat ≠ 0 := fun h0 => hthreads (congrArg some (UInt64.toNat_inj.1 h0))
    simp only [checkPositive, if_neg hn]
    rfl

theorem Checker.ofSettings_ok {settings : Settings} (h : settings.check = .ok ()) :
    ofSettings settings = .ok ⟨settings, h⟩ := by
  unfold ofSettings
  split
  · rfl
  · rename_i heq
    rw [h] at heq
    cases heq

/-- Every recorded call is reported once, if the parameters of its function are known, and else counted as skipped.
The reports follow the order of the corpus, the tally counts them, and both are put together from those of the parts
of a corpus; the number of threads makes no difference. -/
theorem scan_accounts_for_calls (scanner : Corpus.Scanner) (documents : List Corpus.Document) :
    ∃ report, scanner.scan documents = .ok report ∧
      List.Forall₂ (fun recorded call => recorded.IsReported scanner call)
        ((Corpus.recorded documents).filter Corpus.Recorded.isKnown) report.calls ∧
      (∀ document : Corpus.Document, (document.recorded.map Corpus.Recorded.callee).Pairwise (· ≤ ·)) ∧
      report.tally.documents = documents.length ∧
      report.tally.checked = report.calls.length ∧
      report.tally.checked + report.tally.skipped = (Corpus.recorded documents).length ∧
      report.tally.flagged = (report.calls.countP fun call => call.found.swaps ≠ []) ∧
      report.tally.swaps = (report.calls.map fun call => call.found.swaps.length).sum ∧
      (∀ more, ∃ rest, scanner.scan more = .ok rest ∧
        scanner.scan (documents ++ more) = .ok ⟨report.calls ++ rest.calls, report.tally + rest.tally⟩) ∧
      ∀ threads, threads = some 0 ∨ ∃ checker,
        Checker.ofSettings { scanner.checker.settings with maxThreads := threads } = .ok checker ∧
        (⟨checker, scanner.threshold, scanner.accepted⟩ : Corpus.Scanner).scan documents = .ok report := by
  refine ⟨_, scanner.scan_ok documents, ?_, Corpus.Document.recorded_ascending, rfl, rfl, ?_, ?_,
    Report.ofCalls_swaps _ _ _, fun more => ?_, fun threads => ?_⟩
  · rw [Report.ofCalls, Corpus.jobs_eq, List.map_map]
    refine List.forall₂_map_right_iff.2 (List.forall₂_same.2 fun r hr => ?_)
    exact r.report_isReported scanner (List.mem_filter.1 hr).2
  · have hcount := List.length_eq_countP_add_countP Corpus.Recorded.isKnown (l := Corpus.recorded documents)
    simp only [Bool.not_eq_true, Bool.decide_eq_false] at hcount
    rw [hcount, List.countP_eq_length_filter, ← Corpus.skippedCalls_eq, Report.ofCalls, Corpus.jobs_eq, List.map_map,
      List.length_map]
  · exact List.countP_congr fun call _ => by simp [CallReport.isFlagged, Findings.isEmpty]
  · refine ⟨_, scanner.scan_ok more, ?_⟩
    rw [scanner.scan_ok, Corpus.jobs, List.flatMap_append, List.map_append, List.length_append,
      Corpus.skippedCalls_append, Report.ofCalls_append]
    rfl
  · by_cases hthreads : threads = some 0
    · exact .inl hthreads
    · have hcheck := Settings.check_maxThreads scanner.checker.accepted hthreads
      exact .inr ⟨_, Checker.ofSettings_ok hcheck, Corpus.Scanner.scan_ok _ documents⟩

end CallOrder
