import CallOrder.Command.Run
import CallOrder.Proofs.EntryPoints
import CallOrder.Proofs.Json.Layout
import CallOrder.Proofs.Json.Thresholds
import CallOrder.Proofs.RereadReport
import CallOrder.Proofs.RereadSettings
import CallOrder.Proofs.WrittenCorpus

/-! Settings that hold a threshold and nothing else, in a file of either format. From YAML comes the number of which the
file has the shortest decimal. From JSON comes one that may miss its last place, and a scan then reports the same but for
the swaps whose score lies between the two. -/
namespace CallOrder

open Binary64

namespace Settings

/-- The text in JSON of settings that hold a threshold. -/
def thresholdJson (number : List Char) : String :=
  String.ofList ("\x7b\"search\":\x7b\"threshold\":".toList ++ number ++ "\x7d\x7d".toList)

/-- The text in YAML of settings that hold a threshold. -/
def thresholdYaml (number : List Char) : String := String.ofList ("search:\n  threshold: ".toList ++ number ++ ['\n'])

section Json
open Json
variable {spelling : Decimal.Spelling} {text : List Char}

private theorem read_threshold (numeral : Numeral) :
    Settings.format.read Format.depthLimit
        (.object [(.ofText "search", .object [(.ofText "threshold", .number numeral)] .closed)] .closed) =
      (Format.real.read (Format.depthLimit - 2) (.number numeral)).map ({} : Settings).withThreshold := by
  have hdeep : Reading.descend Format.depthLimit = .ok (Format.depthLimit - 1) := rfl
  have hdeeper : Reading.descend (Format.depthLimit - 1) = .ok (Format.depthLimit - 2) := rfl
  simp only [Settings.format, searchFormat, Format.record, hdeep, hdeeper, Fields.readMembers, Quoted.text_ofText,
    Fields.put?, Slots.empty, bind, Except.bind]
  cases Format.real.read (Format.depthLimit - 2) (.number numeral) <;> rfl

theorem readText_thresholdJson (h : spelling.IsText text) (negative : Bool) :
    Settings.format.readText (thresholdJson ((if negative then ['-'] else []) ++ text)) =
      (Format.real.read (Format.depthLimit - 2) (.number (.ofSpelling negative spelling))).map
        ({} : Settings).withThreshold := by
  let layout : Layout := .object .none [(.ofText "search", .object .none [(.ofText "threshold",
    .number ⟨.ofSpelling negative spelling, _, Numeral.isSpelling_ofSpelling h negative⟩)])]
  have htext : String.ofList layout.text = thresholdJson ((if negative then ['-'] else []) ++ text) := by
    have hopening : "\x7b\"search\":\x7b\"threshold\":".toList = '{' :: ((KeyText.ofText "search").text ++
        '{' :: (KeyText.ofText "threshold").text) := by decide +kernel
    have hclosing : "\x7d\x7d".toList = ['}', '}'] := rfl
    unfold thresholdJson
    simp only [hopening, hclosing, layout, Layout.text, Layout.memberTexts, Value.joinCommas, Blank.none, List.nil_append,
      List.cons_append, List.append_assoc]
  have hreading := layout.ofText_text
  rw [htext] at hreading
  have hread : Settings.format.read Format.depthLimit layout.reading = _ := read_threshold (.ofSpelling negative spelling)
  simp only [Format.readText, hreading, hread]
  cases Format.real.read (Format.depthLimit - 2) (.number (.ofSpelling negative spelling)) <;> rfl

end Json

section Yaml
open Yaml
variable {number : List Char}

private abbrev thresholdEntries (number : List Char) : List Node.Entry :=
  [sectionEntry "search" [plainEntry "threshold" number]]

private theorem thresholdYaml_toList (number : List Char) : (thresholdYaml number).toList =
    "search".toList ++ ':' :: '\n' :: (spaces 2 ++ ("threshold".toList ++ ':' :: ' ' :: (number ++ '\n' :: (spaces 0 ++ [])))) := by
  have hkeys : "search:\n  threshold: ".toList =
      "search".toList ++ ':' :: '\n' :: (spaces 2 ++ ("threshold".toList ++ [':', ' '])) := by decide
  unfold thresholdYaml
  simp only [String.toList_ofList, hkeys, spaces, List.replicate_zero, List.append_assoc, List.cons_append, List.nil_append]

private theorem ofText?_thresholdYaml (hplain : canBePlain number = true) (hne : number ≠ []) :
    Node.ofText? (thresholdYaml number) = some (Node.ofFields ((thresholdEntries number).map Node.Entry.field)) := by
  have hallowed : (thresholdYaml number).toList.all isAllowed = true := by
    have hkeys : "search:\n  threshold: ".toList.all isAllowed = true := by decide
    unfold thresholdYaml
    simp only [String.toList_ofList, List.all_append, all_of_canBePlain hplain, hkeys]
    decide
  have hnone : Lexer.Lexes 0 [-1] 0 [] [.blockEnd, .streamEnd] := Lexer.lexes_nil
  have hinside := lexes_inside "threshold" hnone (by simp [StartsLine]) (isKey_of (by decide)) hplain hne
  have hname : Lexer.IsKey "search".toList := isKey_of (by decide)
  have hlexes := hinside.firstKey 0 (by decide) hname rfl
  rw [← thresholdYaml_toList] at hlexes
  have htokens : Token.ofText? (thresholdYaml number) =
      some (.blockMappingStart :: (Node.entryTokens (thresholdEntries number) ++ [.blockEnd, .streamEnd])) := by
    rw [Lexer.ofText?_of_lexes hallowed hlexes]
    simp [Node.entryTokens, sectionEntry]
  have hparses : ∀ entry ∈ thresholdEntries number, Node.Parses entry.tokens entry.node :=
    List.forall_mem_singleton.2 (Node.parses_mapping (List.forall_mem_singleton.2 (Node.parses_scalar .plain number)))
  exact Option.bind_eq_some_iff.2 ⟨_, htokens, Node.ofTokens?_mapping hparses⟩

private theorem ofNode?_thresholdEntries {x : Float} (h : realOf? number = some x) :
    ofNode? (Node.ofFields ((thresholdEntries number).map Node.Entry.field)) =
      some (({} : Settings).withThreshold x) := by
  obtain ⟨document, hdocument⟩ : ∃ document, document =
      Node.ofFields ((thresholdEntries number).map Node.Entry.field) := ⟨_, rfl⟩
  have hfields : Node.fieldsIn? document document ["morphemes", "search", "scan"] = some [none,
      some (Node.ofFields [("threshold", .scalar none none .plain (String.ofList number))]), none] := by
    rw [hdocument]
    rfl
  have hthreshold := thresholdOfNode?_scalar document h
  rw [← hdocument, ofNode?]
  simp [hfields, Node.fieldOr?, hthreshold, withThreshold]

theorem ofYaml_thresholdYaml {x : Float} (hreal : realOf? number = some x) (hplain : canBePlain number = true)
    (hne : number ≠ []) : ofYaml (thresholdYaml number) = .ok (({} : Settings).withThreshold x) := by
  simp only [ofYaml, ofText?_thresholdYaml hplain hne, Option.bind_some, ofNode?_thresholdEntries hreal]

end Yaml

end Settings

namespace Checker
variable {t y : Float} (checker : Checker) (documents : List Corpus.Document)

private theorem scanAt_eq (ht : IsThreshold t) (haccepted : checkMargin t = .ok ()) :
    checker.settings.scanAt t documents = Corpus.Scanner.scan ⟨checker, t, haccepted⟩ documents := by
  obtain ⟨report, hown, hnew⟩ := checker.scanAt_ok documents ht
  rw [scanAt, Corpus.Scanner.withThreshold_ok _ haccepted] at hown
  exact hnew.trans hown.symm

private theorem scanAt_filtered_of_le (ht : IsThreshold t) (hy : IsThreshold y) (h : t ≤ y) :
    ∃ report : Report, checker.settings.scanAt t documents = .ok (report.atLeast t) ∧
      checker.settings.scanAt y documents = .ok (report.atLeast y) := by
  have hlow := Corpus.Scanner.checkMargin_ok (isMargin_iff.2 ht)
  have hhigh := Corpus.Scanner.checkMargin_ok (isMargin_iff.2 hy)
  have hself : t ≤ t := le_iff.2 ⟨ht.finite.isNaN, ht.finite.isNaN, le_refl _⟩
  obtain ⟨report, hlenient, hstrict⟩ := Corpus.Scanner.scan_of_le ⟨checker, t, hlow⟩ ⟨checker, y, hhigh⟩ rfl h documents
  obtain ⟨same, hsame, hfiltered⟩ := Corpus.Scanner.scan_of_le ⟨checker, t, hlow⟩ ⟨checker, t, hlow⟩ rfl hself documents
  rw [hlenient] at hsame
  cases hsame
  exact ⟨report, (checker.scanAt_eq documents ht hlow).trans hfiltered, (checker.scanAt_eq documents hy hhigh).trans hstrict⟩

/-- Scans with two thresholds keep, of one report, the findings that reach the threshold. -/
theorem scanAt_filtered (ht : IsThreshold t) (hy : IsThreshold y) :
    ∃ report : Report, checker.settings.scanAt t documents = .ok (report.atLeast t) ∧
      checker.settings.scanAt y documents = .ok (report.atLeast y) := by
  have hle : ∀ {x z : Float}, IsThreshold x → IsThreshold z → toRational x ≤ toRational z → x ≤ z := fun hx hz h =>
    le_iff.2 ⟨hx.finite.isNaN, hz.finite.isNaN, h⟩
  rcases le_total (toRational t) (toRational y) with h | h
  · exact checker.scanAt_filtered_of_le documents ht hy (hle ht hy h)
  · obtain ⟨report, hyscan, htscan⟩ := checker.scanAt_filtered_of_le documents hy ht (hle hy ht h)
    exact ⟨report, htscan, hyscan⟩

end Checker

namespace Command
variable {files : Files} {path jsonPath yamlPath : String} {task : ScanTask} {t y : Float}

/-- The settings of a file that was written as text: read, and accepted if they are valid. -/
theorem loadSettings_toUTF8 {text : String} (hfile : files path = .ok text.toUTF8) :
    loadSettings files path = do
      let settings ←
        if extension? path = some "json".toList then (Settings.format.readText text).mapError .settingsJson
        else orRefused (Settings.ofYaml text)
      orRefused settings.check
      return settings := by
  have htext : (Except.ok text.toUTF8).bind decodeFile = .ok text := Settings.decodeFile_toUTF8 text
  rw [loadSettings, hfile]
  change (Except.mapError _ ((Except.ok text.toUTF8).bind decodeFile)).bind _ = _
  rw [htext]
  rfl

/-- The scanner of a scan, with a threshold of its own if there is one. -/
def ScanTask.scanner (task : ScanTask) (checker : Checker) : Except Failure Corpus.Scanner :=
  match task.threshold with
  | none => .ok (.ofChecker checker)
  | some x => orRefused ((Corpus.Scanner.ofChecker checker).withThreshold x)

/-- The documents of a scan. -/
def ScanTask.documents (task : ScanTask) (files : Files) : Except Failure (List Corpus.Document) := do
  let text ← (files task.corpus >>= decodeFile).mapError (.corpusFile task.corpus)
  orRefused (Corpus.read text)

theorem ScanTask.documents_toUTF8 {text : String} (hfile : files task.corpus = .ok text.toUTF8) :
    task.documents files = orRefused (Corpus.read text) := by
  have htext : (Except.ok text.toUTF8).bind decodeFile = .ok text := Settings.decodeFile_toUTF8 text
  rw [documents, hfile]
  change (Except.mapError _ ((Except.ok text.toUTF8).bind decodeFile)).bind _ = _
  rw [htext]
  rfl

section Report
variable (checker other : Checker)

theorem ScanTask.report_eq (hload : loadSettings files path = .ok checker.settings) :
    task.report files (some path) = task.scanner checker >>= fun scanner =>
      task.documents files >>= fun documents => orRefused (scanner.scan documents) := by
  rw [report, settingsOf, hload]
  change (orRefused (Checker.ofSettings checker.settings)).bind _ = _
  rw [Checker.ofSettings_ok checker.accepted, scanner]
  simp only [documents, bind_assoc]
  cases task.threshold <;> rfl

/-- With a threshold of its own, a scan does not depend on that of the settings. -/
theorem ScanTask.report_congr (hload : loadSettings files path = .ok checker.settings)
    (hother : loadSettings files jsonPath = .ok other.settings) (hpolicy : checker.settings.policy = other.settings.policy)
    (hown : task.threshold ≠ none) : task.report files (some path) = task.report files (some jsonPath) := by
  obtain ⟨x, hx⟩ := Option.ne_none_iff_exists'.1 hown
  rw [report_eq checker hload, report_eq other hother]
  simp only [scanner, hx]
  by_cases hthreshold : IsThreshold x
  · have haccepted := Corpus.Scanner.checkMargin_ok (isMargin_iff.2 hthreshold)
    have hreport : Corpus.Scanner.report ⟨checker, x, haccepted⟩ = Corpus.Scanner.report ⟨other, x, haccepted⟩ :=
      Corpus.Scanner.report_congr rfl hpolicy
    have hscan : Corpus.Scanner.scan ⟨checker, x, haccepted⟩ = Corpus.Scanner.scan ⟨other, x, haccepted⟩ := by
      funext documents
      rw [Corpus.Scanner.scan_ok, Corpus.Scanner.scan_ok, hreport]
    simp only [Corpus.Scanner.withThreshold_ok _ haccepted]
    change (task.documents files >>= fun documents => orRefused (Corpus.Scanner.scan ⟨checker, x, haccepted⟩ documents)) = _
    rw [hscan]
    rfl
  · simp only [Corpus.Scanner.withThreshold_of_not _ hthreshold]

/-- Without one, it is a scan with the threshold of the settings. -/
theorem ScanTask.report_withThreshold (hload : loadSettings files path = .ok (({} : Settings).withThreshold t))
    (ht : IsThreshold t) (hnone : task.threshold = none) : task.report files (some path) =
      task.documents files >>= fun documents => orRefused (({} : Settings).scanAt t documents) := by
  have hcheck := Settings.check_withThreshold Settings.check_default ht
  simp only [Settings.scanAt, Checker.ofSettings_ok hcheck]
  rw [report_eq ⟨_, hcheck⟩ hload, scanner, hnone]
  rfl

/-- With the thresholds of two settings, a scan keeps of one report the findings that reach them. -/
theorem ScanTask.report_filtered (hload : loadSettings files path = .ok (({} : Settings).withThreshold t))
    (hother : loadSettings files jsonPath = .ok (({} : Settings).withThreshold y)) (ht : IsThreshold t) (hy : IsThreshold y)
    (hnone : task.threshold = none) :
    (∃ failure, task.report files (some path) = .error failure ∧ task.report files (some jsonPath) = .error failure) ∨
      ∃ report : Report, task.report files (some path) = .ok (report.atLeast t) ∧
        task.report files (some jsonPath) = .ok (report.atLeast y) := by
  rw [report_withThreshold hload ht hnone, report_withThreshold hother hy hnone]
  cases task.documents files with
  | error failure => exact .inl ⟨failure, rfl, rfl⟩
  | ok documents =>
    obtain ⟨report, htscan, hyscan⟩ := Checker.default.scanAt_filtered documents ht hy
    exact .inr ⟨report, congrArg orRefused htscan, congrArg orRefused hyscan⟩

end Report

/-- Two files with settings that hold the same number as a threshold, one file of each format. -/
structure HoldThreshold (files : Files) (jsonPath yamlPath : String) (number : List Char) : Prop where
  isJson : extension? jsonPath = some "json".toList
  json : files jsonPath = .ok (Settings.thresholdJson number).toUTF8
  isYaml : extension? yamlPath ≠ some "json".toList
  yaml : files yamlPath = .ok (Settings.thresholdYaml number).toUTF8

namespace HoldThreshold
variable {spelling : Decimal.Spelling} {text : List Char} (negative : Bool)

theorem loadSettings_yaml (h : HoldThreshold files jsonPath yamlPath ((if negative then ['-'] else []) ++ text))
    (htext : spelling.IsText text) (hshortest : spelling.IsShortestOf negative t) :
    loadSettings files yamlPath =
      (orRefused (({} : Settings).withThreshold t).check).map fun _ => ({} : Settings).withThreshold t := by
  obtain ⟨hreal, c, rest, hnumber, hplain⟩ := Yaml.spelled_reads htext hshortest.finite hshortest.reads_back
  rw [← hnumber] at hplain
  have hread := Settings.ofYaml_thresholdYaml hreal hplain (hnumber ▸ List.cons_ne_nil c rest)
  rw [loadSettings_toUTF8 h.yaml, if_neg h.isYaml, hread]
  rfl

theorem loadSettings_json (h : HoldThreshold files jsonPath yamlPath ((if negative then ['-'] else []) ++ text))
    (htext : spelling.IsText text) :
    loadSettings files jsonPath =
      ((Json.Format.real.read (Json.Format.depthLimit - 2) (.number (.ofSpelling negative spelling))).mapError
        .settingsJson) >>= fun x =>
          (orRefused (({} : Settings).withThreshold x).check).map fun _ => ({} : Settings).withThreshold x := by
  rw [loadSettings_toUTF8 h.json, if_pos h.isJson, Settings.readText_thresholdJson htext]
  cases Json.Format.real.read (Json.Format.depthLimit - 2) (.number (.ofSpelling negative spelling)) <;> rfl

end HoldThreshold

/-- A number with these digits on both sides of its point. -/
def pointed (whole fraction : String) : Decimal.Spelling := ⟨whole.toList, some fraction.toList, none⟩

private theorem isText_pointed {whole fraction : String}
    (hwhole : whole.toList ≠ [] ∧ whole.toList.all Decimal.isDigit = true) (hleading : whole.toList.head? ≠ some '0')
    (hfraction : fraction.toList ≠ [] ∧ fraction.toList.all Decimal.isDigit = true) :
    (pointed whole fraction).IsText (whole.toList ++ '.' :: fraction.toList) where
  whole_digits := ⟨hwhole.1, List.all_eq_true.1 hwhole.2⟩
  leading := fun h => absurd h hleading
  fraction_digits := fun _ h => Option.some.inj h ▸ ⟨hfraction.1, List.all_eq_true.1 hfraction.2⟩
  text_eq := ⟨[], .none, (List.append_nil _).symm⟩

private theorem isShortestOf_of_eq {spelling : Decimal.Spelling} {negative : Bool} {m : ℕ} {e : ℤ} (hfinite : t.isFinite = true)
    (hparts : Decimal.Parts.ofFloat t = .finite negative m e)
    (h : Decimal.shortest .toEven m e = ⟨spelling.significand, spelling.scale⟩) : spelling.IsShortestOf negative t where
  finite := (isFinite_iff t).1 hfinite
  shortest := ⟨.toEven, m, e, hparts, by rw [h]; rfl⟩

/-- Settings in both formats that hold a number, and a corpus with one call. -/
def thresholdFiles (number : List Char) : Files := fun path =>
  if path = "config.json" then .ok (Settings.thresholdJson number).toUTF8
  else if path = "config.yaml" then .ok (Settings.thresholdYaml number).toUTF8
  else .ok (Corpus.Document.format.write Corpus.exchangedRange).toText.toUTF8

private theorem holdThreshold_thresholdFiles (number : List Char) :
    HoldThreshold (thresholdFiles number) "config.json" "config.yaml" number where
  isJson := by decide
  json := rfl
  isYaml := by decide
  yaml := rfl

private theorem accepted (ht : IsThreshold t) :
    ((orRefused (({} : Settings).withThreshold t).check).map fun _ => ({} : Settings).withThreshold t) =
      .ok (({} : Settings).withThreshold t) := by
  rw [Settings.check_withThreshold Settings.check_default ht]
  rfl

private theorem refused (ht : ¬ IsThreshold t) :
    ((orRefused (({} : Settings).withThreshold t).check).map fun _ => ({} : Settings).withThreshold t) =
      .error (.refused (.threshold t)) := by
  rw [Settings.check_withThreshold_of_not Settings.check_default ht]
  rfl

/-- A finite number has a shortest decimal, and stands as this in settings of either format. From YAML it is a threshold
exactly if the number is one, and is this number. From JSON it is a threshold in the same cases, and near to the number; it
is the number if the decimal has few digits and few places. A scan without a threshold of its own keeps of one report what
reaches the threshold of the settings, and any other scan reports the same under both. -/
theorem threshold_of_either_format (t : Float) (hfinite : IsFinite t) :
    (∃ spelling negative text, Decimal.Spelling.IsText spelling text ∧ spelling.IsShortestOf negative t ∧
      spelling.significand < UInt64.size) ∧
    ∀ (files : Files) (jsonPath yamlPath : String) (spelling : Decimal.Spelling) (negative : Bool) (text : List Char),
      spelling.IsText text → spelling.IsShortestOf negative t → spelling.significand < UInt64.size →
      HoldThreshold files jsonPath yamlPath ((if negative then ['-'] else []) ++ text) →
      (IsThreshold t →
        loadSettings files yamlPath = .ok (({} : Settings).withThreshold t) ∧
        ∃ y, loadSettings files jsonPath = .ok (({} : Settings).withThreshold y) ∧ IsThreshold y ∧
          |toRational y - toRational t| ≤ 2^(-50 : ℤ) * toRational t + 2^(-900 : ℤ) ∧
          (spelling.significand < 2^53 → -22 ≤ spelling.scale → y = t) ∧
          ∀ task : ScanTask,
            (task.threshold ≠ none → task.report files (some yamlPath) = task.report files (some jsonPath)) ∧
            (task.threshold = none →
              (∃ failure, task.report files (some yamlPath) = .error failure ∧
                task.report files (some jsonPath) = .error failure) ∨
              ∃ report : Report, task.report files (some yamlPath) = .ok (report.atLeast t) ∧
                task.report files (some jsonPath) = .ok (report.atLeast y))) ∧
      (¬ IsThreshold t →
        loadSettings files yamlPath = .error (.refused (.threshold t)) ∧
        (loadSettings files jsonPath = .error (.settingsJson .numberTooLarge) ∨
          ∃ y, ¬ IsThreshold y ∧ loadSettings files jsonPath = .error (.refused (.threshold y)))) := by
  refine ⟨Decimal.exists_isShortestOf hfinite,
    fun files jsonPath yamlPath spelling negative text htext hshortest hfits hfiles => ?_⟩
  have hyaml := hfiles.loadSettings_yaml negative htext hshortest
  have hjson := hfiles.loadSettings_json negative htext
  refine ⟨fun ht => ?_, fun ht => ?_⟩
  · obtain ⟨y, hread, hy, hnear, hexact⟩ :=
      Json.Format.real_read_threshold hshortest hfits ht (Json.Format.depthLimit - 2)
    have hyaml' := hyaml.trans (accepted ht)
    have hjson' : loadSettings files jsonPath = .ok (({} : Settings).withThreshold y) := by
      rw [hjson, hread]
      exact accepted hy
    refine ⟨hyaml', y, hjson', hy, hnear, hexact, fun task => ⟨fun hown => ?_, fun hnone => ?_⟩⟩
    · exact ScanTask.report_congr ⟨_, Settings.check_withThreshold Settings.check_default ht⟩
        ⟨_, Settings.check_withThreshold Settings.check_default hy⟩ hyaml' hjson' rfl hown
    · exact ScanTask.report_filtered hyaml' hjson' ht hy hnone
  · refine ⟨hyaml.trans (refused ht), ?_⟩
    rcases Json.Format.real_read_of_not_threshold hshortest hfits ht (Json.Format.depthLimit - 2)
      with hread | ⟨y, hread, hy⟩
    · left
      rw [hjson, hread]
      rfl
    · right
      refine ⟨y, hy, ?_⟩
      rw [hjson, hread]
      exact refused hy

/-- A threshold that is the same from both formats, and a number that is refused from both. -/
theorem threshold_of_either_format_quarter :
    let files := thresholdFiles "1.25".toList
    let others := thresholdFiles "-2.5".toList
    (pointed "1" "25").IsText "1.25".toList ∧ (pointed "1" "25").IsShortestOf false 1.25 ∧
    HoldThreshold files "config.json" "config.yaml" "1.25".toList ∧ IsThreshold 1.25 ∧
    loadSettings files "config.yaml" = .ok (({} : Settings).withThreshold 1.25) ∧
    loadSettings files "config.json" = .ok (({} : Settings).withThreshold 1.25) ∧
    (pointed "2" "5").IsShortestOf true (-2.5) ∧ ¬ IsThreshold (-2.5) ∧
    loadSettings others "config.yaml" = .error (.refused (.threshold (-2.5))) := by
  intro files others
  have htext : (pointed "1" "25").IsText "1.25".toList :=
    isText_pointed (by decide) (by decide) (by decide)
  have hother : (pointed "2" "5").IsText "2.5".toList :=
    isText_pointed (by decide) (by decide) (by decide)
  have hshortest : (pointed "1" "25").IsShortestOf false 1.25 :=
    isShortestOf_of_eq (m := 5629499534213120) (e := -52) (by decide +kernel) (by decide +kernel) (by decide +kernel)
  have hothers : (pointed "2" "5").IsShortestOf true (-2.5) :=
    isShortestOf_of_eq (m := 5629499534213120) (e := -51) (by decide +kernel) (by decide +kernel) (by decide +kernel)
  have hfiles : HoldThreshold files "config.json" "config.yaml" "1.25".toList := holdThreshold_thresholdFiles _
  have ht : IsThreshold 1.25 := isMargin_iff.1 (by decide +kernel)
  have hrefused : ¬ IsThreshold (-2.5) := mt isMargin_iff.2 (by decide +kernel)
  obtain ⟨hyaml, y, hjson, -, -, hexact, -⟩ :=
    ((threshold_of_either_format 1.25 hshortest.finite).2 files _ _ _ false _ htext hshortest (by decide) hfiles).1 ht
  obtain rfl : y = 1.25 := hexact (by decide) (by decide)
  obtain ⟨hrefusedYaml, -⟩ := ((threshold_of_either_format (-2.5) hothers.finite).2 others _ _ _ true _ hother hothers
    (by decide) (holdThreshold_thresholdFiles "-2.5".toList)).2 hrefused
  exact ⟨htext, hshortest, hfiles, ht, hyaml, hjson, hothers, hrefused, hrefusedYaml⟩

/-- A threshold that comes from JSON as the next number. The score of the only call lies at the threshold. -/
theorem threshold_missed_in_json :
    let number := "1.3333333333333335".toList
    let files := thresholdFiles number
    let task : ScanTask := ⟨"corpus.jsonl", none, .text, false, true⟩
    (pointed "1" "3333333333333335").IsText number ∧ (pointed "1" "3333333333333335").IsShortestOf false 1.3333333333333335 ∧
    HoldThreshold files "config.json" "config.yaml" number ∧ IsThreshold 1.3333333333333335 ∧
    loadSettings files "config.yaml" = .ok (({} : Settings).withThreshold 1.3333333333333335) ∧
    loadSettings files "config.json" = .ok (({} : Settings).withThreshold 1.3333333333333337) ∧
    (1.3333333333333335 : Float) ≠ 1.3333333333333337 ∧
    (task.report files (some "config.yaml")).map Report.hasIssues = .ok true ∧
    (task.report files (some "config.json")).map Report.hasIssues = .ok false := by
  intro number files task
  have htext : (pointed "1" "3333333333333335").IsText number :=
    isText_pointed (by decide) (by decide) (by decide)
  have hshortest : (pointed "1" "3333333333333335").IsShortestOf false 1.3333333333333335 :=
    isShortestOf_of_eq (m := 6004799503160662) (e := -52) (by decide +kernel) (by decide +kernel) (by decide +kernel)
  have hfiles : HoldThreshold files "config.json" "config.yaml" number := holdThreshold_thresholdFiles number
  have ht : IsThreshold 1.3333333333333335 := isMargin_iff.1 (by decide +kernel)
  have hy : IsThreshold 1.3333333333333337 := isMargin_iff.1 (by decide +kernel)
  have hread : Json.Format.real.read (Json.Format.depthLimit - 2)
      (.number (.ofSpelling false (pointed "1" "3333333333333335"))) = .ok 1.3333333333333337 := by
    decide +kernel
  have hyaml := (hfiles.loadSettings_yaml false htext hshortest).trans (accepted ht)
  have hjson : loadSettings files "config.json" = .ok (({} : Settings).withThreshold 1.3333333333333337) := by
    rw [hfiles.loadSettings_json false htext, hread]
    exact accepted hy
  have hdocuments : task.documents files = .ok [Corpus.exchangedRange] := by
    have hcorpus : Corpus.read (Corpus.Document.format.write Corpus.exchangedRange).toText = .ok [Corpus.exchangedRange] := by
      obtain ⟨lines, hlines, hread⟩ := Corpus.isLines_of_isCorpus (.last (Corpus.Document.isWriting_write Corpus.exchangedRange))
      rw [Corpus.read, Json.Value.toText, String.toList_ofList, ← Corpus.isLines_iff.1 hlines]
      exact hread 1
    have hfile : files task.corpus = .ok (Corpus.Document.format.write Corpus.exchangedRange).toText.toUTF8 := rfl
    rw [ScanTask.documents_toUTF8 hfile, hcorpus]
    rfl
  refine ⟨htext, hshortest, hfiles, ht, hyaml, hjson, by decide +kernel, ?_, ?_⟩
  · rw [ScanTask.report_withThreshold hyaml ht rfl, hdocuments]
    decide +kernel
  · rw [ScanTask.report_withThreshold hjson hy rfl, hdocuments]
    decide +kernel

end Command

end CallOrder
