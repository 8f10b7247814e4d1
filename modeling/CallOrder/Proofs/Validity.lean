import CallOrder.Proofs.Accounting
import CallOrder.Proofs.Binary64.Decimal
import CallOrder.Proofs.Soundness

/-! Validity of settings and thresholds. What can be refused is refused when a checker is made of the settings or
when a threshold is given, so that no check and no scan fails later. -/
namespace CallOrder
open Binary64

/-- A threshold that tells calls apart: a finite number above 0 and up to 2. -/
structure IsThreshold (t : Float) : Prop where
  finite : IsFinite t
  pos : 0 < toRational t
  le_two : toRational t ≤ 2

theorem isMargin_iff {t : Float} : isMargin t = true ↔ IsThreshold t := by
  have htwo : toRational maxMargin = 2 := isWhole_two.toRational_eq
  rw [isMargin, Bool.and_eq_true, Bool.and_eq_true, Bool.not_eq_true', Bool.not_eq_true', decide_eq_false_iff_not,
    decide_eq_false_iff_not, isFinite_iff]
  constructor
  · rintro ⟨⟨hfinite, hpos⟩, hle⟩
    refine ⟨hfinite, not_le.1 fun hnonpos => hpos ?_, not_lt.1 fun hlt => hle ?_⟩
    · exact le_iff.2 ⟨hfinite.isNaN, isWhole_zero.finite.isNaN, toRational_zero.symm ▸ hnonpos⟩
    · exact lt_iff.2 ⟨isWhole_two.finite.isNaN, hfinite.isNaN, htwo.symm ▸ hlt⟩
  · rintro ⟨hfinite, hpos, hle⟩
    refine ⟨⟨hfinite, fun hnonpos => ?_⟩, fun hlt => ?_⟩
    · exact absurd (toRational_zero ▸ (le_iff.1 hnonpos).2.2) (not_le.2 hpos)
    · exact absurd (htwo ▸ (lt_iff.1 hlt).2.2) (not_lt.2 hle)

/-- The error of the first of some demands that is not met. -/
def IsFirstFault (demands : List (Prop × Error)) (error : Error) : Prop :=
  ∃ before isMet after, demands = before ++ (isMet, error) :: after ∧ (∀ demand ∈ before, demand.1) ∧ ¬ isMet

/-- What is demanded of settings, in order, each with the error of settings that do not meet it. -/
def Settings.demands (settings : Settings) : List (Prop × Error) :=
  [(1 ≤ settings.policy.minTokenLength.toNat ∧ settings.policy.minTokenLength.toNat ≤ 64,
      .validation "morphemes.min_token_len must be between 1 and 64" (some "morphemes.min_token_len")),
    (∀ token ∈ settings.policy.stopTokens, token ≠ "",
      .validation "stop token \"\" must not be empty" (some "morphemes.stop_tokens")),
    (IsThreshold settings.threshold, .threshold settings.threshold),
    (settings.maxThreads ≠ some 0,
      .settings "Invalid scan configuration: Validation error: scan.max_threads must be greater than 0"
        (some "scan"))]

section Demands
open Classical

/-- Goes through the demands and stops at the first that is not met. -/
noncomputable def judge : List (Prop × Error) → Except Error Unit
  | [] => .ok ()
  | (isMet, error) :: rest => if isMet then judge rest else .error error

variable {demands : List (Prop × Error)} {error : Error}

theorem judge_ok_iff : judge demands = .ok () ↔ ∀ demand ∈ demands, demand.1 := by
  induction demands with
  | nil => simp [judge]
  | cons demand rest ih =>
    rw [judge, List.forall_mem_cons]
    split
    · rename_i hmet
      exact ih.trans (iff_and_self.2 fun _ => hmet)
    · rename_i hmet
      simp [hmet]

theorem judge_error_iff : judge demands = .error error ↔ IsFirstFault demands error := by
  induction demands with
  | nil => simp [judge, IsFirstFault]
  | cons demand rest ih =>
    rw [judge]
    split
    · rename_i hmet
      rw [ih]
      constructor
      · rintro ⟨before, isMet, after, rfl, hbefore, hfails⟩
        exact ⟨demand :: before, isMet, after, rfl, List.forall_mem_cons.2 ⟨hmet, hbefore⟩, hfails⟩
      · rintro ⟨before, isMet, after, heq, hbefore, hfails⟩
        cases before with
        | nil =>
          rw [(List.cons.inj heq).1] at hmet
          exact absurd hmet hfails
        | cons first others =>
          exact ⟨others, isMet, after, (List.cons.inj heq).2, (List.forall_mem_cons.1 hbefore).2, hfails⟩
    · rename_i hmet
      rw [Except.error.injEq]
      constructor
      · rintro rfl
        exact ⟨[], demand.1, rest, rfl, by simp, hmet⟩
      · rintro ⟨before, isMet, after, heq, hbefore, hfails⟩
        cases before with
        | nil => rw [(List.cons.inj heq).1]
        | cons first others =>
          have hfirst := (List.forall_mem_cons.1 hbefore).1
          rw [← (List.cons.inj heq).1] at hfirst
          exact absurd hfirst hmet

end Demands

theorem checkMargin_of_not {t : Float} (h : ¬ IsThreshold t) : checkMargin t = .error (.threshold t) :=
  if_neg (mt isMargin_iff.1 h)

theorem checkBounds_ok (field : String) {low high n : ℕ} (h : low ≤ n ∧ n ≤ high) :
    checkBounds field low high n = .ok () := by
  have hbounds : ¬ (n < low ∨ high < n) := by omega
  rw [checkBounds, if_neg (by simpa using hbounds)]

theorem checkBounds_of_not (field : String) {low high n : ℕ} (h : ¬ (low ≤ n ∧ n ≤ high)) :
    checkBounds field low high n = .error (.validation (field ++ " must be between " ++
      (String.ofList (Decimal.digitsOf low) ++ " and " ++ String.ofList (Decimal.digitsOf high))) (some field)) := by
  have hbounds : n < low ∨ high < n := by omega
  rw [checkBounds, if_pos (by simpa using hbounds)]

/-- The checks of the settings are the demands, one after another. -/
theorem Settings.check_eq_judge (settings : Settings) : settings.check = judge settings.demands := by
  rw [check, MorphemePolicy.check, demands]
  simp only [judge]
  by_cases hlength : 1 ≤ settings.policy.minTokenLength.toNat ∧ settings.policy.minTokenLength.toNat ≤ 64
  · rw [if_pos hlength, checkBounds_ok _ hlength]
    cases hstop : settings.policy.stopTokens.find? (· = "") with
    | some token =>
      have hempty : token = "" := by simpa using List.find?_some hstop
      rw [if_neg fun hall => hall token (List.mem_of_find?_eq_some hstop) hempty, hempty]
      rfl
    | none =>
      rw [if_pos fun token htoken => of_decide_eq_false (Bool.eq_false_iff.2 (List.find?_eq_none.1 hstop token htoken))]
      by_cases hthreshold : IsThreshold settings.threshold
      · rw [if_pos hthreshold, Corpus.Scanner.checkMargin_ok (isMargin_iff.2 hthreshold)]
        cases hthreads : settings.maxThreads with
        | none =>
          rw [if_pos (Option.some_ne_none 0).symm]
          rfl
        | some threads =>
          by_cases hzero : threads = 0
          · rw [if_neg (not_not.2 (congrArg some hzero)), hzero]
            rfl
          · rw [if_pos fun h => hzero (Option.some.inj h)]
            have hpositive : threads.toNat ≠ 0 := fun h => hzero (UInt64.toNat_inj.1 h)
            simp only [checkPositive, if_neg hpositive]
            rfl
      · rw [if_neg hthreshold, checkMargin_of_not hthreshold]
        rfl
  · rw [if_neg hlength, checkBounds_of_not _ hlength]
    rfl

namespace Checker
variable {settings : Settings} {checker : Checker} {error : Error}

theorem ofSettings_ok_iff :
    ofSettings settings = .ok checker ↔ settings.check = .ok () ∧ checker.settings = settings := by
  constructor
  · intro h
    unfold ofSettings at h
    split at h
    · rename_i haccepted
      cases h
      exact ⟨haccepted, rfl⟩
    · cases h
  · rintro ⟨haccepted, rfl⟩
    exact ofSettings_ok haccepted

theorem ofSettings_error_iff : ofSettings settings = .error error ↔ settings.check = .error error := by
  constructor
  · intro h
    unfold ofSettings at h
    split at h
    · cases h
    · rename_i hrefused
      cases h
      exact hrefused
  · intro h
    unfold ofSettings
    split
    · rename_i haccepted
      rw [h] at haccepted
      cases haccepted
    · rename_i hrefused
      rw [h] at hrefused
      cases hrefused
      rfl

end Checker

namespace Corpus.Scanner
variable {scanner next : Scanner} {checker : Checker} {t : Float}

theorem withThreshold_of_not (scanner : Scanner) (h : ¬ IsThreshold t) :
    scanner.withThreshold t = .error (.threshold t) := by
  have hrefused := checkMargin_of_not h
  unfold withThreshold
  split
  · rename_i haccepted
    rw [hrefused] at haccepted
    cases haccepted
  · rename_i heq
    rw [hrefused] at heq
    cases heq
    rfl

/-- A threshold is changed for the scan only. -/
theorem withThreshold_ok_iff :
    scanner.withThreshold t = .ok next ↔ IsThreshold t ∧ next.checker = scanner.checker ∧ next.threshold = t := by
  constructor
  · intro h
    by_cases ht : IsThreshold t
    · rw [scanner.withThreshold_ok (checkMargin_ok (isMargin_iff.2 ht))] at h
      cases h
      exact ⟨ht, rfl, rfl⟩
    · rw [scanner.withThreshold_of_not ht] at h
      cases h
  · rintro ⟨ht, hchecker, rfl⟩
    rw [scanner.withThreshold_ok next.accepted]
    cases next with
    | mk checker threshold accepted =>
      cases hchecker
      rfl

/-- The scanners that are made of a checker, with any number of changes of the threshold that were accepted. -/
inductive ComesFrom (checker : Checker) : Scanner → Prop where
  | plain : ComesFrom checker (.ofChecker checker)
  | changed {scanner next : Scanner} {t : Float} (h : ComesFrom checker scanner)
      (haccepted : scanner.withThreshold t = .ok next) : ComesFrom checker next

theorem ComesFrom.valid (h : ComesFrom checker scanner) :
    scanner.checker = checker ∧ IsThreshold scanner.threshold := by
  induction h with
  | plain => exact ⟨rfl, isMargin_iff.1 (isMargin_of_accepted (ofChecker checker).accepted)⟩
  | changed _ haccepted ih =>
    obtain ⟨ht, hchecker, rfl⟩ := withThreshold_ok_iff.1 haccepted
    exact ⟨hchecker.trans ih.1, ht⟩

section Pools
variable {pools : Pools} {documents : List Document} {error : Error}

/-- A pool is refused only if the settings ask for one, and with the problem that the system names. -/
theorem buildPool_error_iff : scanner.buildPool pools = .error error ↔
    ∃ threads problem, scanner.checker.settings.maxThreads = some threads ∧ pools threads = .error problem ∧
      error = .internal ("Failed to build thread pool: " ++ problem) (some "corpus scan") := by
  rw [buildPool]
  constructor
  · intro h
    split at h
    · cases h
    · rename_i threads hthreads
      cases hpool : pools threads with
      | ok u =>
        rw [hpool] at h
        cases h
      | error problem =>
        rw [hpool] at h
        exact ⟨threads, problem, hthreads, hpool, (Except.error.inj h).symm⟩
  · rintro ⟨threads, problem, hthreads, hpool, rfl⟩
    rw [hthreads]
    simp only [hpool]
    rfl

/-- Where the pool can be built, the scan is that of a scanner that takes it to stand. -/
theorem scanOn_of_built (h : scanner.buildPool pools = .ok ()) :
    scanner.scanOn pools documents = scanner.scan documents := by
  rw [scanOn, h]
  rfl

/-- A scan fails only if its pool cannot be built, and then no call is checked. -/
theorem scanOn_error_iff : scanner.scanOn pools documents = .error error ↔ scanner.buildPool pools = .error error := by
  cases hpool : scanner.buildPool pools with
  | ok u =>
    rw [scanOn_of_built hpool, scan_ok]
    exact iff_of_false nofun nofun
  | error problem =>
    rw [scanOn, hpool]
    exact ⟨fun h => congrArg _ (Except.error.inj h), fun h => congrArg _ (Except.error.inj h)⟩

end Pools

end Corpus.Scanner

/-- Settings make a checker exactly if they meet every demand, and else are refused with the error of the first that
they do not meet. From then on a check fails for its own threshold only, and no scan fails, however often the threshold
of the scanner was changed. -/
theorem accepted_settings_never_fail :
    (∀ settings,
      ((∃ checker, Checker.ofSettings settings = .ok checker ∧ checker.settings = settings) ↔
        ∀ demand ∈ settings.demands, demand.1) ∧
      ∀ error, Checker.ofSettings settings = .error error ↔ IsFirstFault settings.demands error) ∧
    ∀ checker : Checker,
      (∀ t signature site,
        ((∃ found, checker.checkAt t signature site = .ok found) ↔ IsThreshold t) ∧
        ∀ error, checker.checkAt t signature site = .error error ↔ ¬ IsThreshold t ∧ error = .threshold t) ∧
      (∀ signature site, ∃ found, checker.checkSite signature site = .ok found) ∧
      (∀ parameters arguments callee isVariadic,
        ∃ found, checker.checkNames parameters arguments callee isVariadic = .ok found) ∧
      ∀ scanner, Corpus.Scanner.ComesFrom checker scanner →
        scanner.checker = checker ∧ IsThreshold scanner.threshold ∧
        (∀ t, (∃ next, scanner.withThreshold t = .ok next) ↔ IsThreshold t) ∧
        ∀ documents, ∃ report, scanner.scan documents = .ok report := by
  refine ⟨fun settings => ⟨?_, fun error => ?_⟩,
    fun checker => ⟨fun t signature site => ⟨?_, fun error => ?_⟩, fun signature site => ?_,
      fun parameters arguments callee isVariadic => ?_, fun scanner hscanner => ?_⟩⟩
  · rw [← judge_ok_iff, ← settings.check_eq_judge]
    constructor
    · rintro ⟨checker, h, -⟩
      exact (Checker.ofSettings_ok_iff.1 h).1
    · intro h
      exact ⟨_, Checker.ofSettings_ok h, rfl⟩
  · rw [Checker.ofSettings_error_iff, settings.check_eq_judge, judge_error_iff]
  · rw [checker.checkAt_eq, ← isMargin_iff]
    split
    · rename_i ht
      exact iff_of_true ⟨_, rfl⟩ ht
    · rename_i ht
      exact iff_of_false (fun ⟨_, h⟩ => nomatch h) ht
  · rw [checker.checkAt_eq, ← isMargin_iff]
    split
    · rename_i ht
      exact iff_of_false (fun h => nomatch h) fun h => h.1 ht
    · rename_i ht
      rw [Except.error.injEq]
      exact ⟨fun h => ⟨ht, h.symm⟩, fun h => h.2.symm⟩
  · exact ⟨_, checker.checkSite_eq signature site⟩
  · exact ⟨_, checker.checkSite_eq _ _⟩
  · obtain ⟨hchecker, hthreshold⟩ := hscanner.valid
    refine ⟨hchecker, hthreshold, fun t => ?_, fun documents => ⟨_, scanner.scan_ok documents⟩⟩
    constructor
    · rintro ⟨next, h⟩
      exact (Corpus.Scanner.withThreshold_ok_iff.1 h).1
    · intro ht
      exact ⟨_, scanner.withThreshold_ok (Corpus.Scanner.checkMargin_ok (isMargin_iff.2 ht))⟩

/-- A scanner whose threshold was changed twice reads a corpus with an unknown function and a call without arguments. -/
theorem accepted_settings_never_fail_twice_changed :
    let documents : List Corpus.Document := [{ functions := .ofList [
      ("close", { calls := [{ arguments := [⟨none⟩] }] }),
      ("flush", { declaration := { parameters := some [] }, calls := [{}] })] }]
    ∃ lenient strict report, (Corpus.Scanner.ofChecker .default).withThreshold 0.5 = .ok lenient ∧
      lenient.withThreshold 2 = .ok strict ∧ Corpus.Scanner.ComesFrom .default strict ∧
      strict.scan documents = .ok report := by
  intro documents
  have hlenient : IsThreshold 0.5 := isMargin_iff.1 (by decide +kernel)
  have hstrict : IsThreshold 2 := isMargin_iff.1 (by decide +kernel)
  have hscanners := (accepted_settings_never_fail.2 .default).2.2.2
  obtain ⟨-, -, hchanges, -⟩ := hscanners _ .plain
  obtain ⟨lenient, hfirst⟩ := (hchanges 0.5).2 hlenient
  obtain ⟨-, -, hchanges, -⟩ := hscanners lenient (.changed .plain hfirst)
  obtain ⟨strict, hsecond⟩ := (hchanges 2).2 hstrict
  have hfrom := Corpus.Scanner.ComesFrom.changed (.changed .plain hfirst) hsecond
  obtain ⟨-, -, -, hscans⟩ := hscanners strict hfrom
  obtain ⟨report, hreport⟩ := hscans documents
  exact ⟨lenient, strict, report, hfirst, hsecond, hfrom, hreport⟩

end CallOrder
