import CallOrder.Json.Format
import CallOrder.Proofs.Json.Reordered

/-! Values with the members of their objects in the order of the keys. They differ from the values as they were written in
the order of members alone. -/
namespace CallOrder.Json

/-- One value is the other with the members of its objects in another order, as often as need be. -/
abbrev Reading.Rearranges : Reading → Reading → Prop := Relation.ReflTransGen Reading.Reorders

namespace Reading

theorem rearranges_list {items rearranged : List Reading} (h : List.Forall₂ Rearranges items rearranged)
    (ending : ListEnd) (before : List Reading) :
    Rearranges (.list (before ++ items) ending) (.list (before ++ rearranged) ending) := by
  induction h generalizing before with
  | nil => exact .refl
  | @cons item rearranged items after hitem _ ih =>
    have hfirst : Rearranges (.list (before ++ item :: items) ending) (.list (before ++ rearranged :: items) ending) :=
      Relation.ReflTransGen.lift (p := Reorders) (fun item => list (before ++ item :: items) ending)
        (fun _ _ hstep => .item hstep) _ _ hitem
    have hrest := ih (before ++ [rearranged])
    rw [List.append_assoc, List.append_assoc] at hrest
    exact hfirst.trans hrest

/-- The relation on members with one key. -/
def RearrangesMember (member rearranged : Quoted × Reading) : Prop :=
  member.1 = rearranged.1 ∧ Rearranges member.2 rearranged.2

theorem rearranges_object {members rearranged : List (Quoted × Reading)}
    (h : List.Forall₂ RearrangesMember members rearranged) (ending : ObjectEnd) (before : List (Quoted × Reading)) :
    Rearranges (.object (before ++ members) ending) (.object (before ++ rearranged) ending) := by
  induction h generalizing before with
  | nil => exact .refl
  | @cons member rearranged members after hmember _ ih =>
    obtain ⟨key, value⟩ := member
    obtain ⟨_, value'⟩ := rearranged
    obtain ⟨rfl, hvalue⟩ := hmember
    have hfirst : Rearranges (.object (before ++ (key, value) :: members) ending)
        (.object (before ++ (key, value') :: members) ending) :=
      Relation.ReflTransGen.lift (p := Reorders) (fun value => object (before ++ (key, value) :: members) ending)
        (fun _ _ hstep => .member hstep) _ _ hvalue
    have hrest := ih (before ++ [(key, value')])
    rw [List.append_assoc, List.append_assoc] at hrest
    exact hfirst.trans hrest

end Reading

namespace Value

theorem insertMember_perm (member : String × Value) (members : List (String × Value)) :
    (insertMember member members).Perm (member :: members) := by
  induction members with
  | nil => exact .refl _
  | cons next rest ih =>
    rw [insertMember]
    split
    · exact (ih.cons next).trans (.swap member next rest)
    · exact .refl _

theorem sortMembers_perm (members : List (String × Value)) :
    (sortMembers members).Perm (members.map fun (key, value) => (key, value.sortKeys)) := by
  induction members with
  | nil => exact .refl _
  | cons member rest ih =>
    obtain ⟨key, value⟩ := member
    rw [sortMembers]
    exact (insertMember_perm _ _).trans (ih.cons _)

mutual

/-- Sorting the keys of a value rearranges what is read of it. -/
theorem reading_sortKeys : (value : Value) → Reading.Rearranges value.reading value.sortKeys.reading
  | .null | .boolean _ | .integer _ | .real _ | .string _ => .refl
  | .list items => by
    rw [sortKeys]
    exact Reading.rearranges_list (itemReadings_sortItems items) .closed []
  | .object members => by
    have hvalues := Reading.rearranges_object (memberReadings_sortKeys members) .closed []
    have hperm : (memberReadings (members.map fun (key, value) => (key, value.sortKeys))).Perm
        (memberReadings (sortMembers members)) := by
      rw [memberReadings_eq, memberReadings_eq]
      exact (sortMembers_perm members).symm.map _
    rw [sortKeys]
    exact hvalues.tail (.members hperm)

theorem itemReadings_sortItems : (items : List Value) →
    List.Forall₂ Reading.Rearranges (itemReadings items) (itemReadings (sortItems items))
  | [] => .nil
  | item :: rest => .cons (reading_sortKeys item) (itemReadings_sortItems rest)

theorem memberReadings_sortKeys : (members : List (String × Value)) →
    List.Forall₂ Reading.RearrangesMember (memberReadings members)
      (memberReadings (members.map fun (key, value) => (key, value.sortKeys)))
  | [] => .nil
  | (_, value) :: rest => .cons ⟨rfl, reading_sortKeys value⟩ (memberReadings_sortKeys rest)

end

end Value

end CallOrder.Json
