import CallOrder.Proofs.IndexedSearch
import CallOrder.Proofs.Jaccard
import CallOrder.Proofs.Threshold

/-! What holds of the findings of every check: where the positions lie, how large a score gets, and that no position
is named twice. -/
namespace CallOrder
open Binary64

/-- What the findings of a call keep to. An unknown function has no parameters. -/
structure Findings.IsSound (found : Findings) (signature : Signature) (site : CallSite) (t : Float)
    (policy : MorphemePolicy) : Prop where
  inRange : indexedSearch signature site t policy = .ok found
  placed : ∀ swap ∈ found.swaps, 1 ≤ swap.first ∧ swap.first < swap.second ∧
    swap.second ≤ min (signature.parameters.getD []).length site.arguments.length
  scored : ∀ swap ∈ found.swaps, t ≤ swap.score ∧ swap.score ≤ 2
  apart : (found.swaps.flatMap fun swap => [swap.first, swap.second]).Nodup
  few : found.count ≤ min (signature.parameters.getD []).length site.arguments.length / 2
  ascending : found.positions.Pairwise Precedes

/-- A number from a positive threshold up to 2 is finite. -/
theorem isWithin_two {t x : Float} (ht : 0 < toRational t) (hlow : t ≤ x) (hhigh : x ≤ 2) : IsWithin x 2 := by
  obtain ⟨hnan, -, hhigh⟩ := le_iff.1 hhigh
  obtain ⟨-, -, hlow⟩ := le_iff.1 hlow
  rw [isWhole_two.toRational_eq] at hhigh
  push_cast at hhigh
  have hlimit : (2 : ℚ) < limit := by
    rw [limit]
    exact lt_of_lt_of_le (by norm_num) (zpow_le_zpow_right₀ (by norm_num) (show (2 : ℤ) ≤ 1024 by norm_num))
  exact ⟨isFinite_of_lt_limit hnan (by linarith) (by linarith), ht.le.trans hlow, hhigh⟩

/-- A similarity is NaN only if the sizes of the sets are out of reach. -/
theorem MorphemeSet.similarity_isNaN_or_isWithin (s t : MorphemeSet) :
    (s.similarity t).isNaN = true ∨ IsWithin (s.similarity t) (1 : ℕ) := by
  have hleft := s.sharedCount_le_left t
  have hright := s.sharedCount_le_right t
  rw [similarity]
  split
  · exact .inr (zero_isWithin 1)
  · rename_i h
    rw [Bool.or_eq_true, not_or, Bool.not_eq_true] at h
    have hpos := card_pos h.1
    exact quotient_isNaN_or_isWithin (by omega) (by omega)

namespace Alignment
variable {a : Alignment} {t : Float} {p q : ℕ × ℕ}

theorem score_isWithin {i j : ℕ} (h : (a.score i j).isNaN = false) : IsWithin (a.score i j) (1 : ℕ) := by
  rcases (a.parameter i).similarity_isNaN_or_isWithin (a.argument j) with hnan | hwithin
  · exact absurd (hnan.symm.trans h) (by decide)
  · exact hwithin

/-- A margin is a number only if the four scores are; then so are the two sums, and these lie between 0 and 2. -/
theorem sums_isWithin (h : (a.margin p).isNaN = false) :
    IsWithin (a.score p.1 p.2 + a.score p.2 p.1) (1 + 1 : ℕ) ∧
      IsWithin (a.score p.1 p.1 + a.score p.2 p.2) (1 + 1 : ℕ) := by
  obtain ⟨hcrossed, hbaseline⟩ := not_isNaN_of_sub h
  obtain ⟨hfirst, hsecond⟩ := not_isNaN_of_add hcrossed
  obtain ⟨hfirst', hsecond'⟩ := not_isNaN_of_add hbaseline
  exact ⟨(score_isWithin hfirst).add (score_isWithin hsecond) (by norm_num),
    (score_isWithin hfirst').add (score_isWithin hsecond') (by norm_num)⟩

/-- What is taken away from the crossed scores is not negative, and rounding is monotone. -/
theorem margin_le_crossed (h : (a.margin p).isNaN = false) : a.margin p ≤ a.score p.1 p.2 + a.score p.2 p.1 := by
  obtain ⟨hcrossed, hbaseline⟩ := sums_isWithin h
  have hrounded : IsRounded (a.margin p) _ := (hcrossed.sub hbaseline (by norm_num) (by norm_num)).1
  have hmono := nearest_mono (sub_le_self (toRational (a.score p.1 p.2 + a.score p.2 p.1)) hbaseline.nonneg)
  rw [nearest_toRational hcrossed.finite, ← hrounded.toRational_eq] at hmono
  exact le_iff.2 ⟨h, hcrossed.finite.isNaN, hmono⟩

/-- Rounding the sums is monotone, so it does not carry a margin beyond 2. -/
theorem margin_le_two (h : (a.margin p).isNaN = false) : a.margin p ≤ 2 := by
  obtain ⟨-, -, hle⟩ := le_iff.1 (margin_le_crossed h)
  have hcrossed := (sums_isWithin h).1.le
  refine le_iff.2 ⟨h, isWhole_two.finite.isNaN, ?_⟩
  rw [isWhole_two.toRational_eq]
  push_cast at hcrossed ⊢
  linarith

theorem selected_eligible (hp : p ∈ a.selected t) : a.IsEligible t p := (selected_stable t).eligible_of_chosen hp

/-- Of two eligible pairs one outranks the other, so a stable choice has no two with a position in common. -/
theorem selected_apart (hp : p ∈ a.selected t) (hq : q ∈ a.selected t) (hne : p ≠ q) : ¬ Meets p q := by
  have hep := selected_eligible hp
  have heq := selected_eligible hq
  rcases lt_trichotomy (a.rank p) (a.rank q) with hlt | hrank | hlt
  · exact ((selected_stable t q).1 hq).2 p hp ((outranks_iff_rank heq hep).2 hlt)
  · exact absurd (rank_injective hrank) hne
  · have hqp := ((selected_stable t p).1 hp).2 q hq ((outranks_iff_rank hep heq).2 hlt)
    unfold Meets at hqp ⊢
    omega

theorem selected_nodup (a : Alignment) (t : Float) : ((a.selected t).flatMap fun p => [p.1, p.2]).Nodup := by
  refine List.nodup_flatMap.2 ⟨fun p hp => ?_, ?_⟩
  · have hlt := (selected_eligible hp).lt
    simp [hlt.ne]
  · refine (selected_ascending t).imp_of_mem fun {p q} hp hq hpq => ?_
    have hne : p ≠ q := fun h => Precedes.irrefl q (h ▸ hpq)
    have hapart := selected_apart hp hq hne
    unfold Meets at hapart
    intro i hi hi'
    simp only [List.mem_cons, List.not_mem_nil, or_false] at hi hi'
    omega

private theorem length_flatMap_pair (pairs : List (ℕ × ℕ)) :
    (pairs.flatMap fun p => [p.1, p.2]).length = 2 * pairs.length := by
  induction pairs with
  | nil => rfl
  | cons p rest ih =>
    rw [List.flatMap_cons, List.length_append, ih, List.length_cons, List.length_cons]
    simp only [List.length_cons, List.length_nil]
    omega

theorem length_selected_le (a : Alignment) (t : Float) : (a.selected t).length ≤ a.range / 2 := by
  have hsub : ((a.selected t).flatMap fun p => [p.1, p.2]).toFinset ⊆ Finset.Icc 1 a.range := by
    intro i hi
    obtain ⟨p, hp, hip⟩ := List.mem_flatMap.1 (List.mem_toFinset.1 hi)
    obtain ⟨hpos, hlt, hle⟩ := (selected_eligible hp).toIsPair
    simp only [List.mem_cons, List.not_mem_nil, or_false] at hip
    rw [Finset.mem_Icc]
    omega
  have hcard := Finset.card_le_card hsub
  rw [List.toFinset_card_of_nodup (a.selected_nodup t), length_flatMap_pair, Nat.card_Icc] at hcard
  omega

end Alignment

theorem search_isSound (signature : Signature) (site : CallSite) (t : Float) (policy : MorphemePolicy) :
    (search signature site t policy).IsSound signature site t policy := by
  have hswaps := search_swaps signature site t policy
  have hrange : (signature.align site policy).range = min (signature.parameters.getD []).length site.arguments.length := by
    rw [Alignment.range, Signature.align, List.length_map, List.length_map]
  refine ⟨indexedSearch_ok signature site t policy, fun swap hswap => ?_, fun swap hswap => ?_, ?_, ?_, ?_⟩
  · obtain ⟨p, hp, rfl⟩ := mem_search_swaps.1 hswap
    obtain ⟨hpos, hlt, hle⟩ := (Alignment.selected_eligible hp).toIsPair
    exact ⟨hpos, hlt, hrange ▸ hle⟩
  · obtain ⟨p, hp, rfl⟩ := mem_search_swaps.1 hswap
    have heligible := Alignment.selected_eligible hp
    exact ⟨heligible.gains, Alignment.margin_le_two heligible.isNaN⟩
  · rw [hswaps, List.flatMap_map]
    exact Alignment.selected_nodup _ t
  · rw [Findings.count, hswaps, List.length_map, ← hrange]
    exact Alignment.length_selected_le _ t
  · rw [search_positions]
    exact Alignment.selected_ascending t

theorem search_of_isEmpty {site : CallSite} (h : site.isEmpty = true) (signature : Signature) (t : Float)
    (policy : MorphemePolicy) : search signature site t policy = {} := by
  have hfew := (search_isSound signature site t policy).few
  rw [List.isEmpty_iff.1 h, List.length_nil, Nat.min_zero, Nat.zero_div, Nat.le_zero, Findings.count,
    List.length_eq_zero_iff] at hfew
  exact Findings.eq_of_swaps hfew

/-- A check with a valid threshold is the search; any other threshold is refused. -/
theorem Checker.checkAt_eq (checker : Checker) (t : Float) (signature : Signature) (site : CallSite) :
    checker.checkAt t signature site =
      if isMargin t then .ok (search signature site t checker.settings.policy) else .error (.threshold t) := by
  rw [checkAt, checkMargin]
  split
  · cases hempty : site.isEmpty with
    | true =>
      rw [search_of_isEmpty hempty]
      rfl
    | false => rfl
  · rfl

theorem isMargin_of_accepted {t : Float} (h : checkMargin t = .ok ()) : isMargin t = true := by
  by_contra hn
  rw [checkMargin, if_neg hn] at h
  cases h

theorem Checker.checkSite_eq (checker : Checker) (signature : Signature) (site : CallSite) :
    checker.checkSite signature site = .ok (search signature site checker.settings.threshold checker.settings.policy) := by
  rw [checkSite, checkAt_eq, if_pos (isMargin_of_accepted (Corpus.Scanner.threshold_accepted checker.accepted))]

theorem Corpus.Scanner.report_found (scanner : Corpus.Scanner) (job : Corpus.Job) :
    (scanner.report job).found = search job.signature job.site scanner.threshold scanner.checker.settings.policy := by
  rw [report]
  dsimp only
  split
  · rename_i h
    rw [search_of_isEmpty h]
  · rfl

/-- Every check succeeds under a valid threshold, and its findings keep to the bounds; so do those of every call that
a scan reports. -/
theorem findings_keep_bounds (checker : Checker) (scanner : Corpus.Scanner) :
    (∀ t signature site, ∃ found : Findings, found.IsSound signature site t checker.settings.policy ∧
      checker.checkAt t signature site = if isMargin t then .ok found else .error (.threshold t)) ∧
    (∀ signature site, ∃ found : Findings,
      found.IsSound signature site checker.settings.threshold checker.settings.policy ∧
      checker.checkSite signature site = .ok found) ∧
    (∀ parameters arguments callee isVariadic, ∃ found : Findings,
      found.IsSound { callee, parameters, isVariadic } (.ofNames arguments) checker.settings.threshold
        checker.settings.policy ∧
      checker.checkNames parameters arguments callee isVariadic = .ok found) ∧
    ∀ documents, ∃ report, scanner.scan documents = .ok report ∧
      List.Forall₂ (fun job call => call.found.IsSound job.signature job.site scanner.threshold
        scanner.checker.settings.policy) (Corpus.jobs documents) report.calls := by
  refine ⟨fun t signature site => ?_, fun signature site => ?_, fun parameters arguments callee isVariadic => ?_,
    fun documents => ?_⟩
  · exact ⟨_, search_isSound signature site t _, checker.checkAt_eq t signature site⟩
  · exact ⟨_, search_isSound signature site _ _, checker.checkSite_eq signature site⟩
  · exact ⟨_, search_isSound _ _ _ _, checker.checkSite_eq _ _⟩
  · refine ⟨_, scanner.scan_ok documents, ?_⟩
    rw [Report.ofCalls]
    refine List.forall₂_map_right_iff.2 (List.forall₂_same.2 fun job _ => ?_)
    rw [scanner.report_found]
    exact search_isSound _ _ _ _

end CallOrder
