import CallOrder.Proofs.Validity

/-! The ways to check a call. A threshold may be given with the call, with the scan or in the settings, and a call by
itself or as the only one of a corpus; what is found is the same. -/
namespace CallOrder

/-- A check by a checker that is made for it, with this threshold in the settings. -/
def Settings.checkSiteAt (settings : Settings) (t : Float) (signature : Signature) (site : CallSite) :
    Except Error Findings := do
  let checker ← Checker.ofSettings (settings.withThreshold t)
  checker.checkSite signature site

/-- A scan by a checker that is made for it, with this threshold in the settings. -/
def Settings.scanAt (settings : Settings) (t : Float) (documents : List Corpus.Document) : Except Error Report := do
  let checker ← Checker.ofSettings (settings.withThreshold t)
  (Corpus.Scanner.ofChecker checker).scan documents

/-- A scan with a threshold of its own. -/
def Checker.scanAt (checker : Checker) (t : Float) (documents : List Corpus.Document) : Except Error Report := do
  let scanner ← (Corpus.Scanner.ofChecker checker).withThreshold t
  scanner.scan documents

namespace Corpus

/-- The name of a parameter or an argument; one without a recorded name has the empty name. -/
inductive NamedItem.IsNamed : NamedItem → String → Prop where
  | recorded (name : String) : IsNamed ⟨some name⟩ name
  | unrecorded : IsNamed ⟨none⟩ ""

/-- A document with one function, of which it holds one call, and the names of the parameters and arguments. -/
def Document.HoldsCall (document : Document) (parameters arguments : List String) (isVariadic : Bool) : Prop :=
  ∃ callee function items call,
    document.functions.entries = [(callee, function)] ∧ function.declaration.parameters = some items ∧
    function.declaration.isVariadic = isVariadic ∧ function.calls = [call] ∧
    List.Forall₂ NamedItem.IsNamed items parameters ∧ List.Forall₂ NamedItem.IsNamed call.arguments arguments

theorem NamedItem.IsNamed.text_eq {item : NamedItem} {name : String} (h : item.IsNamed name) : item.text = name := by
  cases h with
  | recorded => rfl
  | unrecorded => rfl

private theorem map_text_eq {items : List NamedItem} {names : List String}
    (h : List.Forall₂ NamedItem.IsNamed items names) : items.map NamedItem.text = names := by
  induction h with
  | nil => rfl
  | cons hname _ ih => rw [List.map_cons, hname.text_eq, ih]

variable {document : Document} {parameters arguments : List String} {isVariadic : Bool}

theorem Document.HoldsCall.jobs_eq (h : document.HoldsCall parameters arguments isVariadic) :
    ∃ job callee, Corpus.jobs [document] = [job] ∧ job.site = .ofNames arguments ∧
      job.signature = { callee := some callee, parameters := some parameters, isVariadic } := by
  obtain ⟨callee, function, items, call, hentries, hparameters, rfl, hcalls, hitems, harguments⟩ := h
  have hjobs : Corpus.jobs [document] = [{
      signature :=
        { callee := some callee
          parameters := some (items.map NamedItem.text)
          isVariadic := function.declaration.isVariadic }
      site := .ofNames (call.arguments.map NamedItem.text)
      declaration := function.declaration.place.map document.resolve
      call := document.resolve call.place }] := by
    rw [Corpus.jobs, List.flatMap_singleton, jobs, hentries, List.flatMap_singleton]
    dsimp only
    rw [functionJobs, hparameters, hcalls]
    rfl
  rw [map_text_eq hitems, map_text_eq harguments] at hjobs
  exact ⟨_, callee, hjobs, rfl, rfl⟩

/-- A report depends on the threshold and on what counts as a morpheme only. -/
theorem Scanner.report_congr {scanner other : Scanner} (ht : scanner.threshold = other.threshold)
    (hpolicy : scanner.checker.settings.policy = other.checker.settings.policy) : scanner.report = other.report := by
  funext job
  rw [report, report, ht, hpolicy]

end Corpus

namespace Settings
variable {settings : Settings} {t : Float}

theorem check_withThreshold (h : settings.check = .ok ()) (ht : IsThreshold t) :
    (settings.withThreshold t).check = .ok () := by
  rw [check_eq_judge, judge_ok_iff] at h ⊢
  simp only [demands, List.forall_mem_cons] at h ⊢
  exact ⟨h.1, h.2.1, ht, h.2.2.2⟩

theorem check_withThreshold_of_not (h : settings.check = .ok ()) (ht : ¬ IsThreshold t) :
    (settings.withThreshold t).check = .error (.threshold t) := by
  rw [check_eq_judge, judge_ok_iff] at h
  simp only [demands, List.forall_mem_cons] at h
  rw [check_eq_judge, judge_error_iff]
  refine ⟨[_, _], IsThreshold t, [_], rfl, ?_, ht⟩
  simp only [List.forall_mem_cons]
  exact ⟨h.1, h.2.1, List.forall_mem_nil _⟩

end Settings

theorem Settings.checkSiteAt_eq {settings : Settings} (h : settings.check = .ok ()) (t : Float) (signature : Signature)
    (site : CallSite) : settings.checkSiteAt t signature site =
      if isMargin t then .ok (search signature site t settings.policy) else .error (.threshold t) := by
  rw [checkSiteAt]
  split
  · rename_i ht
    rw [Checker.ofSettings_ok (check_withThreshold h (isMargin_iff.1 ht))]
    exact Checker.checkSite_eq _ signature site
  · rename_i ht
    rw [Checker.ofSettings_error_iff.2 (check_withThreshold_of_not h (mt isMargin_iff.2 ht))]
    rfl

namespace Checker
variable (checker : Checker) {t : Float} (documents : List Corpus.Document)

theorem scanAt_of_not (ht : ¬ IsThreshold t) :
    checker.scanAt t documents = .error (.threshold t) ∧
      checker.settings.scanAt t documents = .error (.threshold t) := by
  constructor
  · rw [scanAt, Corpus.Scanner.withThreshold_of_not _ ht]
    rfl
  · rw [Settings.scanAt, ofSettings_error_iff.2 (Settings.check_withThreshold_of_not checker.accepted ht)]
    rfl

/-- The scanner whose threshold is changed and the one of the changed settings report the same of each call. -/
theorem scanAt_ok (ht : IsThreshold t) :
    ∃ report, checker.scanAt t documents = .ok report ∧ checker.settings.scanAt t documents = .ok report := by
  have haccepted := Corpus.Scanner.checkMargin_ok (isMargin_iff.2 ht)
  have hsettings := Settings.check_withThreshold checker.accepted ht
  have hreport : Corpus.Scanner.report ⟨checker, t, haccepted⟩ = (Corpus.Scanner.ofChecker ⟨_, hsettings⟩).report :=
    Corpus.Scanner.report_congr rfl rfl
  refine ⟨.ofCalls ((Corpus.jobs documents).map (Corpus.Scanner.report ⟨checker, t, haccepted⟩)) documents.length
    (Corpus.skippedCalls documents), ?_, ?_⟩
  · rw [scanAt, Corpus.Scanner.withThreshold_ok _ haccepted]
    exact Corpus.Scanner.scan_ok _ documents
  · rw [Settings.scanAt, ofSettings_ok hsettings, hreport]
    exact Corpus.Scanner.scan_ok _ documents

variable {document : Corpus.Document} {parameters arguments : List String} {isVariadic : Bool}

theorem scan_of_holdsCall (h : document.HoldsCall parameters arguments isVariadic) (callee : Option String) :
    ∃ report call, (Corpus.Scanner.ofChecker checker).scan [document] = .ok report ∧ report.calls = [call] ∧
      checker.checkNames (some parameters) arguments callee isVariadic = .ok call.found := by
  obtain ⟨job, name, hjobs, hsite, hsignature⟩ := h.jobs_eq
  refine ⟨_, (Corpus.Scanner.ofChecker checker).report job, Corpus.Scanner.scan_ok _ _, ?_, ?_⟩
  · rw [hjobs]
    rfl
  · rw [Corpus.Scanner.report_found, hsite, hsignature]
    exact checker.checkSite_eq _ _

end Checker

/-- A threshold counts alike wherever it is given, and one that is refused is refused everywhere. A call by plain names
has the findings that are reported of it when it is the only call of a corpus. -/
theorem entry_points_agree (settings : Settings) (checker : Checker) (h : Checker.ofSettings settings = .ok checker) :
    (∀ t signature site, checker.checkAt t signature site = settings.checkSiteAt t signature site) ∧
    (∀ t documents, checker.scanAt t documents = settings.scanAt t documents) ∧
    (∀ t signature site documents, IsThreshold t →
      (∃ found, checker.checkAt t signature site = .ok found) ∧
      ∃ report, checker.scanAt t documents = .ok report) ∧
    (∀ t signature site documents, ¬ IsThreshold t →
      checker.checkAt t signature site = .error (.threshold t) ∧
      settings.checkSiteAt t signature site = .error (.threshold t) ∧
      checker.scanAt t documents = .error (.threshold t) ∧
      settings.scanAt t documents = .error (.threshold t)) ∧
    ∀ (parameters arguments : List String) callee isVariadic (document : Corpus.Document),
      document.HoldsCall parameters arguments isVariadic →
      ∃ report call, (Corpus.Scanner.ofChecker checker).scan [document] = .ok report ∧ report.calls = [call] ∧
        checker.checkNames (some parameters) arguments callee isVariadic = .ok call.found := by
  obtain ⟨haccepted, rfl⟩ := Checker.ofSettings_ok_iff.1 h
  have hchecks : ∀ t signature site, checker.checkAt t signature site = checker.settings.checkSiteAt t signature site :=
    fun t signature site => by rw [checker.checkAt_eq, Settings.checkSiteAt_eq haccepted]
  refine ⟨hchecks, fun t documents => ?_, fun t signature site documents ht => ?_,
    fun t signature site documents ht => ?_, fun parameters arguments callee isVariadic document hholds =>
      checker.scan_of_holdsCall hholds callee⟩
  · by_cases ht : IsThreshold t
    · obtain ⟨report, hown, hnew⟩ := checker.scanAt_ok documents ht
      rw [hown, hnew]
    · obtain ⟨hown, hnew⟩ := checker.scanAt_of_not documents ht
      rw [hown, hnew]
  · obtain ⟨report, hown, -⟩ := checker.scanAt_ok documents ht
    rw [checker.checkAt_eq, if_pos (isMargin_iff.2 ht)]
    exact ⟨⟨_, rfl⟩, report, hown⟩
  · rw [← hchecks, checker.checkAt_eq, if_neg (mt isMargin_iff.1 ht)]
    exact ⟨rfl, rfl, checker.scanAt_of_not documents ht⟩

/-- The default settings, a threshold that counts and one that does not, and a call with an unnamed argument. -/
theorem entry_points_agree_copy :
    let settings : Settings := {}
    let signature : Signature := { parameters := some ["source", "target"] }
    let site := CallSite.ofNames ["target", "source"]
    let document : Corpus.Document := { functions := .ofList [("copy", {
      declaration := { parameters := some [⟨some "source"⟩, ⟨some "target"⟩, ⟨none⟩], isVariadic := true }
      calls := [{ arguments := [⟨some "target"⟩, ⟨some "source"⟩, ⟨none⟩] }] })] }
    Checker.ofSettings settings = .ok .default ∧ IsThreshold 2 ∧ ¬ IsThreshold (0 / 0) ∧
    (∃ found, settings.checkSiteAt 2 signature site = .ok found) ∧
    settings.scanAt (0 / 0) [document] = .error (.threshold (0 / 0)) ∧
    document.HoldsCall ["source", "target", ""] ["target", "source", ""] true ∧
    ∃ report call, (Corpus.Scanner.ofChecker .default).scan [document] = .ok report ∧ report.calls = [call] ∧
      Checker.default.checkNames (some ["source", "target", ""]) ["target", "source", ""] none true =
        .ok call.found := by
  intro settings signature site document
  have h : Checker.ofSettings settings = .ok .default := Checker.ofSettings_ok Settings.check_default
  have hvalid : IsThreshold 2 := isMargin_iff.1 (by decide +kernel)
  have hrefused : ¬ IsThreshold (0 / 0) := mt isMargin_iff.2 (by decide +kernel)
  have hholds : document.HoldsCall ["source", "target", ""] ["target", "source", ""] true :=
    ⟨_, _, _, _, rfl, rfl, rfl, rfl, .cons (.recorded _) (.cons (.recorded _) (.cons .unrecorded .nil)),
      .cons (.recorded _) (.cons (.recorded _) (.cons .unrecorded .nil))⟩
  obtain ⟨hchecks, -, haccepts, hrefuses, hcall⟩ := entry_points_agree settings .default h
  obtain ⟨found, hfound⟩ := (haccepts 2 signature site [] hvalid).1
  rw [hchecks] at hfound
  exact ⟨h, hvalid, hrefused, ⟨found, hfound⟩, (hrefuses _ signature site [document] hrefused).2.2.2, hholds,
    hcall _ _ none true document hholds⟩

end CallOrder
