import CallOrder.Proofs.Binary64.Operands
import CallOrder.Proofs.Components

/-! Parameters and arguments in each other's place. A similarity has no direction, so the table of a call whose
parameters and arguments trade places is the table of the call with rows for columns, and the same pairs are found in
both. -/
namespace CallOrder
open Binary64

namespace Alignment
variable {a : Alignment} {t : Float} {p : ℕ × ℕ}

/-- The call whose parameters are the arguments of this one, and whose arguments are its parameters. -/
def transpose (a : Alignment) : Alignment := ⟨a.arguments, a.parameters⟩

theorem transpose_range (a : Alignment) : a.transpose.range = a.range := Nat.min_comm _ _

theorem transpose_score (a : Alignment) (i j : ℕ) : a.transpose.score i j = a.score j i :=
  MorphemeSet.similarity_comm _ _

/-- The two crossed scores trade places, and each of the others stays where it is. -/
theorem transpose_margin (a : Alignment) (p : ℕ × ℕ) : a.transpose.margin p = a.margin p := by
  simp only [margin, transpose_score]
  rw [add_swap (a.score p.2 p.1)]

private theorem IsEligible.transpose (h : a.IsEligible t p) : a.transpose.IsEligible t p where
  pos := h.pos
  lt := h.lt
  le := by
    rw [transpose_range]
    exact h.le
  related := by
    rw [transpose_score, transpose_score, and_comm]
    exact h.related
  gains := by
    rw [transpose_margin]
    exact h.gains

theorem transpose_isEligible : a.transpose.IsEligible t p ↔ a.IsEligible t p :=
  ⟨fun h => h.transpose, fun h => h.transpose⟩

theorem transpose_selected (a : Alignment) (t : Float) : a.transpose.selected t = a.selected t :=
  selected_congr (fun _ => transpose_isEligible) fun p _ => a.transpose_margin p

end Alignment

theorem Signature.align_ofNames {signature : Signature} {names : List String} (h : signature.parameters = some names)
    (arguments : List String) (policy : MorphemePolicy) :
    signature.align (.ofNames arguments) policy = ⟨names.map policy.morphemes, arguments.map policy.morphemes⟩ := by
  rw [align, CallSite.ofNames, h, List.map_map]
  congr 1
  apply List.map_congr_left
  intro name _
  exact Argument.morphemes_named name policy

/-- Two swaps of the same positions with the same score, to the bit. -/
structure Swap.Mirrors (swap other : Swap) : Prop where
  first : other.first = swap.first
  second : other.second = swap.second
  score : other.score = swap.score

/-- A swap whose morphemes are those of the names at its positions, which count from 1. -/
structure Swap.IsTakenFrom (swap : Swap) (policy : MorphemePolicy) (names : List String) : Prop where
  pos : 1 ≤ swap.first
  lt : swap.first < swap.second
  first : names[swap.first - 1]?.map policy.morphemes = some swap.firstMorphemes
  second : names[swap.second - 1]?.map policy.morphemes = some swap.secondMorphemes

namespace Alignment
variable {a : Alignment} {t : Float}

theorem swaps_mirror (a : Alignment) (t : Float) :
    List.Forall₂ Swap.Mirrors ((a.selected t).map a.swapAt) ((a.transpose.selected t).map a.transpose.swapAt) := by
  rw [transpose_selected, List.forall₂_map_left_iff, List.forall₂_map_right_iff, List.forall₂_same]
  intro p _
  exact ⟨rfl, rfl, a.transpose_margin p⟩

theorem swaps_isTakenFrom {policy : MorphemePolicy} {names : List String}
    (h : a.arguments = names.map policy.morphemes) : ∀ swap ∈ (a.selected t).map a.swapAt, swap.IsTakenFrom policy names := by
  intro swap hswap
  obtain ⟨p, hp, rfl⟩ := List.mem_map.1 hswap
  obtain ⟨hpos, hlt, hle⟩ := (selected_eligible hp).toIsPair
  have hfirst := a.getElem?_arguments hpos (hlt.le.trans hle)
  have hsecond := a.getElem?_arguments (hpos.trans hlt.le) hle
  rw [h, List.getElem?_map] at hfirst hsecond
  exact ⟨hpos, hlt, hfirst, hsecond⟩

end Alignment

/-- Two lists of names have the same findings whichever of them names the parameters: the same positions with the same
scores, each time with the morphemes of the names that are passed. -/
theorem parameters_and_arguments_mirror (checker : Checker) (names others : List String)
    (callee otherCallee : Option String) (isVariadic isOtherVariadic : Bool) :
    let policy := checker.settings.policy
    ∃ found mirrored : Findings,
      checker.checkNames (some names) others callee isVariadic = .ok found ∧
      checker.checkNames (some others) names otherCallee isOtherVariadic = .ok mirrored ∧
      List.Forall₂ Swap.Mirrors found.swaps mirrored.swaps ∧
      (∀ swap ∈ found.swaps, swap.IsTakenFrom policy others) ∧
      ∀ swap ∈ mirrored.swaps, swap.IsTakenFrom policy names := by
  intro policy
  let call : Alignment := ⟨names.map policy.morphemes, others.map policy.morphemes⟩
  have hfound : (search { callee, parameters := some names, isVariadic } (.ofNames others) checker.settings.threshold
      policy).swaps = (call.selected checker.settings.threshold).map call.swapAt := by
    rw [search_swaps, Signature.align_ofNames rfl]
  have hmirrored : (search { callee := otherCallee, parameters := some others, isVariadic := isOtherVariadic }
      (.ofNames names) checker.settings.threshold policy).swaps =
        (call.transpose.selected checker.settings.threshold).map call.transpose.swapAt := by
    rw [search_swaps, Signature.align_ofNames rfl]
    rfl
  refine ⟨_, _, checker.checkSite_eq _ _, checker.checkSite_eq _ _, ?_, ?_, ?_⟩
  · rw [hfound, hmirrored]
    exact call.swaps_mirror _
  · rw [hfound]
    exact Alignment.swaps_isTakenFrom rfl
  · rw [hmirrored]
    exact Alignment.swaps_isTakenFrom rfl

end CallOrder
