import CallOrder.Proofs.Alignment

/-! What a search reads of a call: the morphemes of as many parameters and arguments as there are scored positions.
Whatever else two calls differ in, their findings are the same. -/
namespace CallOrder

/-- Two calls with as many scored positions, and with the same morphemes at each of them. -/
structure AreScoredAlike (policy : MorphemePolicy) (signature other : Signature) (site otherSite : CallSite) :
    Prop where
  range_eq : signature.scoredRange site = other.scoredRange otherSite
  parameters : ∀ i < signature.scoredRange site, (signature.parameters.getD [])[i]?.map policy.morphemes =
    (other.parameters.getD [])[i]?.map policy.morphemes
  arguments : ∀ i < signature.scoredRange site, site.arguments[i]?.map (fun argument => argument.morphemes policy) =
    otherSite.arguments[i]?.map fun argument => argument.morphemes policy

private theorem map_take_congr {α β : Type} {f : α → β} {xs ys : List α} {n : ℕ}
    (h : ∀ i < n, xs[i]?.map f = ys[i]?.map f) : (xs.take n).map f = (ys.take n).map f := by
  apply List.ext_getElem?
  intro i
  rw [List.getElem?_map, List.getElem?_map, List.getElem?_take, List.getElem?_take]
  split
  · exact h i ‹_›
  · rfl

section Search
variable {policy : MorphemePolicy} {signature other : Signature} {site otherSite : CallSite}

/-- The table of a search is made of the morphemes of the scored positions, and so is what it reports. -/
theorem search_eq_of_morphemes {n : ℕ} (hn : signature.scoredRange site = n) (hother : other.scoredRange otherSite = n)
    (hparameters : signature.morphemes n policy = other.morphemes n policy)
    (harguments : site.morphemes n policy = otherSite.morphemes n policy) (t : Float) :
    search signature site t policy = search other otherSite t policy := by
  unfold search
  rw [hn, hother]
  dsimp only
  rw [hparameters, harguments]

theorem AreScoredAlike.search_eq (h : AreScoredAlike policy signature other site otherSite) (t : Float) :
    search signature site t policy = search other otherSite t policy :=
  search_eq_of_morphemes rfl h.range_eq.symm (map_take_congr h.parameters) (map_take_congr h.arguments) t

theorem Signature.length_morphemes (signature : Signature) (site : CallSite) (policy : MorphemePolicy) :
    (signature.morphemes (signature.scoredRange site) policy).length = signature.scoredRange site := by
  rw [morphemes, List.length_map, List.length_take, scoredRange]
  cases h : signature.parameters with
  | none => rfl
  | some names => exact Nat.min_eq_left (Nat.min_le_left _ _)

theorem CallSite.length_morphemes (signature : Signature) (site : CallSite) (policy : MorphemePolicy) :
    (site.morphemes (signature.scoredRange site) policy).length = signature.scoredRange site := by
  rw [morphemes, List.length_map, List.length_take, Signature.scoredRange]
  cases h : signature.parameters with
  | none => exact Nat.min_eq_left (Nat.zero_le _)
  | some names => exact Nat.min_eq_left (Nat.min_le_right _ _)

/-- Names that say what the scored parameters say and arguments that say what the scored arguments say make a call with
the same findings, as long as only one of the two lists goes on. -/
theorem search_of_respelled {names tail : List String} {arguments rest : List Argument}
    (hnames : names.map policy.morphemes = signature.morphemes (signature.scoredRange site) policy)
    (harguments : arguments.map (fun argument => argument.morphemes policy) =
      site.morphemes (signature.scoredRange site) policy)
    (hends : tail = [] ∨ rest = []) (callee : Option String) (isVariadic : Bool) (t : Float) :
    search { callee, parameters := some (names ++ tail), isVariadic } ⟨arguments ++ rest⟩ t policy =
      search signature site t policy := by
  have hlength : names.length = signature.scoredRange site := by
    rw [← signature.length_morphemes site policy, ← hnames, List.length_map]
  have hlength' : arguments.length = signature.scoredRange site := by
    rw [← site.length_morphemes signature policy, ← harguments, List.length_map]
  refine search_eq_of_morphemes (n := signature.scoredRange site) ?_ rfl ?_ ?_ t
  · rw [Signature.scoredRange]
    simp only [List.length_append, hlength, hlength']
    rcases hends with rfl | rfl
    · rw [List.length_nil]
      omega
    · rw [List.length_nil]
      omega
  · rw [← hnames, Signature.morphemes, Option.getD_some, List.take_left' hlength]
  · rw [← harguments, CallSite.morphemes, List.take_left' hlength']

end Search

/-- Calls with the same morphemes at the scored positions have the same findings. So neither the name of the function
nor what it takes besides, neither how names are spelled nor how arguments are composed, and nothing behind the scored
positions makes a difference. -/
theorem only_scored_morphemes_matter (policy : MorphemePolicy) (signature : Signature) (site : CallSite) (t : Float) :
    (∀ other otherSite, AreScoredAlike policy signature other site otherSite →
      search signature site t policy = search other otherSite t policy) ∧
    ∀ (callee : Option String) (isVariadic : Bool) (names tail : List String) (arguments rest : List Argument),
      names.map policy.morphemes = signature.morphemes (signature.scoredRange site) policy →
      arguments.map (fun argument => argument.morphemes policy) =
        site.morphemes (signature.scoredRange site) policy →
      tail = [] ∨ rest = [] →
      search { callee, parameters := some (names ++ tail), isVariadic } ⟨arguments ++ rest⟩ t policy =
        search signature site t policy := by
  constructor
  · intro other otherSite h
    exact h.search_eq t
  · intro callee isVariadic names tail arguments rest hnames harguments hends
    exact search_of_respelled hnames harguments hends callee isVariadic t

/-- A variadic function whose last argument has no parameter, and one with a parameter that nothing is passed for. -/
theorem only_scored_morphemes_matter_resize :
    let policy : MorphemePolicy := {}
    let signature : Signature := { callee := some "resize", parameters := some ["width", "height"], isVariadic := true }
    let site := CallSite.ofNames ["height", "width", "height"]
    let other : Signature := { parameters := some ["theWidth", "HEIGHT_2", "depth"] }
    let otherSite : CallSite := ⟨[⟨["the", "height"]⟩, .named "Width"]⟩
    AreScoredAlike policy signature other site otherSite ∧
      search signature site 1.2 policy = search other otherSite 1.2 policy ∧
      ["theWidth", "HEIGHT_2"].map policy.morphemes = signature.morphemes (signature.scoredRange site) policy ∧
      otherSite.arguments.map (fun argument => argument.morphemes policy) =
        site.morphemes (signature.scoredRange site) policy ∧
      search { callee := none, parameters := some (["theWidth", "HEIGHT_2"] ++ ["depth"]), isVariadic := false }
        ⟨otherSite.arguments ++ []⟩ 1.2 policy = search signature site 1.2 policy ∧
      (search signature site 1.2 policy).positions = [(1, 2)] := by
  intro policy signature site other otherSite
  have hrange : signature.scoredRange site = 2 := by decide +kernel
  have halike : AreScoredAlike policy signature other site otherSite := by
    refine ⟨by decide +kernel, ?_, ?_⟩
    · rw [hrange]
      decide +kernel
    · rw [hrange]
      decide +kernel
  have hnames : ["theWidth", "HEIGHT_2"].map policy.morphemes =
      signature.morphemes (signature.scoredRange site) policy := by decide +kernel
  have harguments : otherSite.arguments.map (fun argument => argument.morphemes policy) =
      site.morphemes (signature.scoredRange site) policy := by decide +kernel
  obtain ⟨hsame, hrespelled⟩ := only_scored_morphemes_matter policy signature site 1.2
  exact ⟨halike, hsame other otherSite halike, hnames, harguments,
    hrespelled none false _ ["depth"] _ [] hnames harguments (.inr rfl), by decide +kernel⟩

end CallOrder
