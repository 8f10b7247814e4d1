import CallOrder.Proofs.Segmentation
import CallOrder.Proofs.Soundness
import Mathlib.Data.List.Sort
import Mathlib.Data.String.Basic

/-! Arguments given in components. The components say together what the one name says in which they are joined, so
neither the way in which a member access is spelled nor the order of its components matters to a check. -/
namespace CallOrder

namespace Identifier
variable {c d : Char} {text rest : List Char}

private theorem pieces_cons_ne_nil (hc : ¬ Separates c) (rest : List Char) : pieces (c :: rest) ≠ [] := by
  rw [pieces]
  unfold addChar
  rw [if_neg (mt isSeparator_iff.1 hc)]
  split
  · split <;> exact List.cons_ne_nil _ _
  · exact List.cons_ne_nil _ _

/-- Before a separator a text ends as it does at its own end. -/
theorem pieces_append_separator (hc : Separates c) (text rest : List Char) :
    pieces (text ++ c :: rest) = pieces text ++ pieces rest := by
  induction text with
  | nil => exact addChar_separator hc
  | cons d text ih =>
    rw [List.cons_append, pieces, ih, pieces]
    by_cases hd : Separates d
    · rw [addChar_separator hd, addChar_separator hd]
    cases text with
    | nil =>
      have hgap : EndsBefore [d] ([c] ++ rest) := endsBefore_gap (by simpa using hc) (.inl (List.cons_ne_nil _ _))
      have hend : EndsBefore [d] [] := fun e he => by cases he
      rw [addChar_alone hd hend]
      exact addChar_alone hd hgap
    | cons e text =>
      by_cases hends : EndsBefore [d] (e :: text)
      · rw [addChar_alone hd hends]
        exact addChar_alone hd hends
      -- the two characters are in one piece, so the rest of the text starts with a piece
      · have hjoined : ¬ Separates e ∧ ¬ AreApart d e := by simpa [EndsBefore] using hends
        obtain ⟨piece, others, hpieces⟩ := List.exists_cons_of_ne_nil (pieces_cons_ne_nil hjoined.1 text)
        rw [hpieces, addChar_joined hd hjoined.1 hjoined.2]
        exact addChar_joined hd hjoined.1 hjoined.2

theorem tokens_append_separator (hc : Separates c) (name other : String) :
    tokens (name ++ String.singleton c ++ other) = tokens name ++ tokens other := by
  rw [tokens, String.toList_append, String.toList_append, String.toList_singleton, List.append_assoc,
    List.singleton_append, pieces_append_separator hc, List.map_append]
  rfl

/-- The tokens of names that a separator joins are the tokens of each, one name after the other. -/
theorem tokens_intercalate (hc : Separates c) (names : List String) :
    tokens ((String.singleton c).intercalate names) = names.flatMap tokens := by
  induction names with
  | nil => rfl
  | cons name rest ih =>
    cases rest with
    | nil => rw [String.intercalate_singleton, List.flatMap_singleton]
    | cons next rest => rw [String.intercalate_cons_cons, tokens_append_separator hc, ih, ← List.flatMap_cons]

end Identifier

theorem MorphemeSet.ext_members {s t : MorphemeSet} (h : ∀ m, m ∈ s ↔ m ∈ t) : s = t :=
  MorphemeSet.ext (s.ascending.eq_of_mem_iff t.ascending h)

namespace MorphemePolicy
variable {policy : MorphemePolicy} {m name : String} {names others : List String} {c : Char}

theorem mem_morphemes : m ∈ policy.morphemes name ↔ m ∈ Identifier.tokens name ∧ policy.keeps m = true := by
  rw [morphemes, MorphemeSet.mem_ofList, List.mem_filter]

theorem mem_morphemesOfAll : m ∈ policy.morphemesOfAll names ↔ ∃ name ∈ names, m ∈ policy.morphemes name := by
  rw [morphemesOfAll, MorphemeSet.mem_ofList, List.mem_flatMap]
  rfl

theorem morphemesOfAll_singleton (policy : MorphemePolicy) (name : String) :
    policy.morphemesOfAll [name] = policy.morphemes name :=
  MorphemeSet.ext_members fun m => by simp [mem_morphemesOfAll]

theorem morphemesOfAll_congr (h : ∀ name, name ∈ names ↔ name ∈ others) :
    policy.morphemesOfAll names = policy.morphemesOfAll others :=
  MorphemeSet.ext_members fun m => by simp only [mem_morphemesOfAll, h]

theorem morphemes_intercalate (hc : Identifier.Separates c) (policy : MorphemePolicy) (names : List String) :
    policy.morphemes ((String.singleton c).intercalate names) = policy.morphemesOfAll names := by
  refine MorphemeSet.ext_members fun m => ?_
  simp only [mem_morphemesOfAll, mem_morphemes, Identifier.tokens_intercalate hc, List.mem_flatMap]
  constructor
  · rintro ⟨⟨name, hname, hm⟩, hkeeps⟩
    exact ⟨name, hname, hm, hkeeps⟩
  · rintro ⟨name, hname, hm, hkeeps⟩
    exact ⟨⟨name, hname, hm⟩, hkeeps⟩

end MorphemePolicy

/-- Two ways to give one argument: in components and by the name in which a separator joins them, or in components that
are listed in another order or more often. -/
inductive Argument.Respells : Argument → Argument → Prop where
  | joined {c : Char} (hc : Identifier.Separates c) (components : List String) :
      Respells ⟨components⟩ (.named ((String.singleton c).intercalate components))
  | listed {components others : List String} (h : ∀ name, name ∈ others ↔ name ∈ components) :
      Respells ⟨components⟩ ⟨others⟩

section Arguments
variable {argument other : Argument}

theorem Argument.morphemes_named (name : String) (policy : MorphemePolicy) :
    (Argument.named name).morphemes policy = policy.morphemes name := by
  rw [Argument.morphemes, Argument.named]
  split
  · rename_i h
    rw [h]
    rfl
  · exact policy.morphemesOfAll_singleton name

theorem Argument.Respells.morphemes_eq (h : argument.Respells other) (policy : MorphemePolicy) :
    argument.morphemes policy = other.morphemes policy := by
  cases h with
  | joined hc components =>
    rw [morphemes_named, MorphemePolicy.morphemes_intercalate hc]
    rfl
  | listed hsame => exact (MorphemePolicy.morphemesOfAll_congr hsame).symm

private theorem map_morphemes_eq {arguments others : List Argument} (h : List.Forall₂ Argument.Respells arguments others)
    (policy : MorphemePolicy) :
    (arguments.map fun argument => argument.morphemes policy) = others.map fun argument => argument.morphemes policy := by
  induction h with
  | nil => rfl
  | cons hargument _ ih => rw [List.map_cons, List.map_cons, hargument.morphemes_eq, ih]

theorem CallSite.search_respelled {site respelled : CallSite}
    (h : List.Forall₂ Argument.Respells site.arguments respelled.arguments) (signature : Signature) (t : Float)
    (policy : MorphemePolicy) : search signature site t policy = search signature respelled t policy :=
  search_congr (congrArg (Alignment.mk _) (map_morphemes_eq h policy)) t

end Arguments

/-- The components of an argument and the name that joins them have the same morphemes, whatever the separator and in
whatever order and how often the components are given; and no check tells calls apart whose arguments differ in this
only. -/
theorem components_agree_with_joined_name (policy : MorphemePolicy) (components : List String) (c : Char)
    (hc : Identifier.Separates c) :
    let joined := (String.singleton c).intercalate components
    policy.morphemesOfAll components = policy.morphemes joined ∧
    (Argument.mk components).morphemes policy = (Argument.named joined).morphemes policy ∧
    (∀ others : List String, (∀ name, name ∈ others ↔ name ∈ components) →
      policy.morphemesOfAll others = policy.morphemesOfAll components ∧
      policy.morphemes ((String.singleton c).intercalate others) = policy.morphemes joined) ∧
    ∀ (signature : Signature) (site respelled : CallSite),
      List.Forall₂ Argument.Respells site.arguments respelled.arguments →
      (∀ t, search signature site t policy = search signature respelled t policy) ∧
      ∀ checker : Checker, checker.checkSite signature site = checker.checkSite signature respelled ∧
        ∀ t, checker.checkAt t signature site = checker.checkAt t signature respelled := by
  intro joined
  refine ⟨(MorphemePolicy.morphemes_intercalate hc policy components).symm,
    (Argument.Respells.joined hc components).morphemes_eq policy, fun others hsame => ?_,
    fun signature site respelled h => ⟨fun t => CallSite.search_respelled h signature t policy,
      fun checker => ⟨?_, fun t => ?_⟩⟩⟩
  · have hall : policy.morphemesOfAll others = policy.morphemesOfAll components :=
      MorphemePolicy.morphemesOfAll_congr hsame
    refine ⟨hall, ?_⟩
    rw [MorphemePolicy.morphemes_intercalate hc, hall, ← MorphemePolicy.morphemes_intercalate hc]
  · rw [checker.checkSite_eq, checker.checkSite_eq, CallSite.search_respelled h]
  · rw [checker.checkAt_eq, checker.checkAt_eq, CallSite.search_respelled h]

theorem components_agree_with_joined_name_rect :
    let policy : MorphemePolicy := {}
    let components := ["rect", "maxWidth", ""]
    let others := ["", "maxWidth", "rect", "maxWidth"]
    let signature : Signature := { parameters := some ["height", "max_width"] }
    let site : CallSite := ⟨[⟨components⟩, ⟨["height"]⟩]⟩
    let respelled : CallSite := ⟨[.named "rect.maxWidth.", ⟨["height", "height"]⟩]⟩
    Identifier.Separates '.' ∧ (∀ name, name ∈ others ↔ name ∈ components) ∧
      List.Forall₂ Argument.Respells site.arguments respelled.arguments ∧
      policy.morphemesOfAll components = policy.morphemes "rect.maxWidth." ∧
      policy.morphemesOfAll others = policy.morphemesOfAll components ∧
      policy.morphemes ".maxWidth.rect.maxWidth" = policy.morphemes "rect.maxWidth." ∧
      Checker.default.checkSite signature site = Checker.default.checkSite signature respelled ∧
      (search signature respelled 1.2 policy).positions = [(1, 2)] := by
  intro policy components others signature site respelled
  have hdot : Identifier.Separates '.' := by decide +kernel
  have hjoined : (String.singleton '.').intercalate components = "rect.maxWidth." := by decide +kernel
  have hothers : (String.singleton '.').intercalate others = ".maxWidth.rect.maxWidth" := by decide +kernel
  have hsame : ∀ name, name ∈ others ↔ name ∈ components := by
    intro name
    simp only [others, components, List.mem_cons, List.not_mem_nil, or_false]
    tauto
  have hrespelled : List.Forall₂ Argument.Respells site.arguments respelled.arguments := by
    refine .cons ?_ (.cons (.listed fun name => by simp) .nil)
    rw [← hjoined]
    exact .joined hdot components
  obtain ⟨hnames, -, hlisted, hchecks⟩ := components_agree_with_joined_name policy components '.' hdot
  obtain ⟨hall, hjoins⟩ := hlisted others hsame
  rw [hjoined] at hnames hjoins
  rw [hothers] at hjoins
  exact ⟨hdot, hsame, hrespelled, hnames, hall, hjoins, ((hchecks signature site respelled hrespelled).2 .default).1,
    by decide +kernel⟩

end CallOrder
