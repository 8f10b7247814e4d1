import CallOrder.Proofs.Json.Layout
import Mathlib.Logic.Relation

/-! Values whose objects have their members in another order. Names are told apart by the text that they stand for, not
by its spelling. -/
namespace CallOrder.Json

namespace Reading
variable {reading reordered : Reading}

/-- Two members whose keys do not stand for one text. -/
def DifferInName (a b : Quoted × Reading) : Prop := ∀ name, a.1.text = .ok name → b.1.text ≠ .ok name

theorem DifferInName.symm {a b : Quoted × Reading} (h : DifferInName a b) : DifferInName b a :=
  fun name hb ha => h name ha hb

/-- Keys that were written from different texts stand for them. -/
theorem differInName_ofText {s t : String} (h : s ≠ t) (value other : Reading) :
    DifferInName (.ofText s, value) (.ofText t, other) := by
  intro name hs ht
  rw [Quoted.text_ofText, Except.ok.injEq] at hs ht
  exact h (hs.trans ht.symm)

/-- No object repeats a key. -/
inductive HasDistinctKeys : Reading → Prop where
  | word (w : Word) : HasDistinctKeys (.word w)
  | number (n : Numeral) : HasDistinctKeys (.number n)
  | string (q : Quoted) : HasDistinctKeys (.string q)
  | list {items : List Reading} {ending : ListEnd} (h : ∀ item ∈ items, HasDistinctKeys item) :
      HasDistinctKeys (.list items ending)
  | object {members : List (Quoted × Reading)} {ending : ObjectEnd} (hnames : members.Pairwise DifferInName)
      (h : ∀ member ∈ members, HasDistinctKeys member.2) : HasDistinctKeys (.object members ending)
  | flaw (fault : Fault) : HasDistinctKeys (.flaw fault)

theorem hasDistinctKeys_list {items : List Reading} {ending : ListEnd} :
    (Reading.list items ending).HasDistinctKeys ↔ ∀ item ∈ items, item.HasDistinctKeys := by
  constructor
  · intro h
    cases h with
    | list h => exact h
  · exact .list

theorem hasDistinctKeys_object {members : List (Quoted × Reading)} {ending : ObjectEnd} :
    (Reading.object members ending).HasDistinctKeys ↔
      members.Pairwise DifferInName ∧ ∀ member ∈ members, member.2.HasDistinctKeys := by
  constructor
  · intro h
    cases h with
    | object hnames h => exact ⟨hnames, h⟩
  · rintro ⟨hnames, h⟩
    exact .object hnames h

/-- One object somewhere in a value has its members in another order. -/
inductive Reorders : Reading → Reading → Prop where
  | members {members permuted : List (Quoted × Reading)} {ending : ObjectEnd} (h : members.Perm permuted) :
      Reorders (.object members ending) (.object permuted ending)
  | item {before after : List Reading} {item reordered : Reading} {ending : ListEnd} (h : Reorders item reordered) :
      Reorders (.list (before ++ item :: after) ending) (.list (before ++ reordered :: after) ending)
  | member {before after : List (Quoted × Reading)} {key : Quoted} {value reordered : Reading} {ending : ObjectEnd}
      (h : Reorders value reordered) :
      Reorders (.object (before ++ (key, value) :: after) ending) (.object (before ++ (key, reordered) :: after) ending)

theorem pairwise_differInName_member {before after : List (Quoted × Reading)} {key : Quoted} (value other : Reading)
    (h : (before ++ (key, value) :: after).Pairwise DifferInName) :
    (before ++ (key, other) :: after).Pairwise DifferInName := by
  rw [List.pairwise_append, List.pairwise_cons] at h ⊢
  obtain ⟨hbefore, ⟨hkey, hafter⟩, hacross⟩ := h
  refine ⟨hbefore, ⟨hkey, hafter⟩, ?_⟩
  intro a ha b hb
  rcases List.mem_cons.1 hb with rfl | hb
  · exact hacross a ha (key, value) List.mem_cons_self
  · exact hacross a ha b (List.mem_cons_of_mem _ hb)

theorem HasDistinctKeys.reorders (h : reading.HasDistinctKeys) (hreorders : Reorders reading reordered) :
    reordered.HasDistinctKeys := by
  induction hreorders with
  | members hperm =>
    rw [hasDistinctKeys_object] at h ⊢
    exact ⟨(hperm.pairwise_iff fun h => h.symm).1 h.1, fun member hmember => h.2 member (hperm.mem_iff.2 hmember)⟩
  | item _ ih =>
    rw [hasDistinctKeys_list, List.forall_mem_append, List.forall_mem_cons] at h ⊢
    exact ⟨h.1, ih h.2.1, h.2.2⟩
  | member _ ih =>
    rw [hasDistinctKeys_object, List.forall_mem_append, List.forall_mem_cons] at h ⊢
    exact ⟨pairwise_differInName_member _ _ h.1, h.2.1, ih h.2.2.1, h.2.2.2⟩

theorem IsComplete.reorders (h : reading.IsComplete) (hreorders : Reorders reading reordered) : reordered.IsComplete := by
  induction hreorders with
  | members hperm =>
    rw [isComplete_object] at h ⊢
    exact ⟨fun member hmember => h.1 member (hperm.mem_iff.2 hmember), h.2⟩
  | item _ ih =>
    rw [isComplete_list, List.forall_mem_append, List.forall_mem_cons] at h ⊢
    exact ⟨⟨h.1.1, ih h.1.2.1, h.1.2.2⟩, h.2⟩
  | member _ ih =>
    rw [isComplete_object, List.forall_mem_append, List.forall_mem_cons] at h ⊢
    obtain ⟨⟨hbefore, ⟨hkey, hvalue⟩, hafter⟩, hending⟩ := h
    exact ⟨⟨hbefore, ⟨hkey, ih hvalue⟩, hafter⟩, hending⟩

end Reading

namespace Layout

/-- One object somewhere in a text has its members in another order, each with the white space around its key and its
value. -/
inductive Reorders : Layout → Layout → Prop where
  | members {space : Blank} {members permuted : List (KeyText × Layout)} (h : members.Perm permuted) :
      Reorders (.object space members) (.object space permuted)
  | item {space : Blank} {before after : List Layout} {item reordered : Layout} (h : Reorders item reordered) :
      Reorders (.list space (before ++ item :: after)) (.list space (before ++ reordered :: after))
  | member {space : Blank} {before after : List (KeyText × Layout)} {key : KeyText} {value reordered : Layout}
      (h : Reorders value reordered) :
      Reorders (.object space (before ++ (key, value) :: after)) (.object space (before ++ (key, reordered) :: after))
  | spaced {before after : Blank} {value reordered : Layout} (h : Reorders value reordered) :
      Reorders (.spaced before value after) (.spaced before reordered after)

variable {layout reordered : Layout}

theorem Reorders.reading (h : Reorders layout reordered) : Reading.Reorders layout.reading reordered.reading := by
  induction h with
  | members hperm =>
    rw [Layout.reading, Layout.reading, memberReadings_eq, memberReadings_eq]
    exact .members (hperm.map _)
  | item _ ih =>
    rw [Layout.reading, Layout.reading, itemReadings_eq, itemReadings_eq, List.map_append, List.map_append, List.map_cons,
      List.map_cons]
    exact .item ih
  | member _ ih =>
    rw [Layout.reading, Layout.reading, memberReadings_eq, memberReadings_eq, List.map_append, List.map_append,
      List.map_cons, List.map_cons]
    exact .member ih
  | spaced _ ih => exact ih

end Layout

end CallOrder.Json
