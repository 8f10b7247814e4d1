/-! Maps from names, kept in ascending order of the names. -/
namespace CallOrder

/-- A map from names to values, listed by ascending names, each name once. -/
@[ext]
structure NameMap (α : Type) where
  entries : List (String × α)
  ascending : entries.Pairwise fun a b => a.1 < b.1

namespace NameMap

variable {α : Type}

instance [DecidableEq α] : DecidableEq (NameMap α) := fun a b =>
  decidable_of_iff (a.entries = b.entries) ⟨NameMap.ext, congrArg entries⟩

def empty : NameMap α := ⟨[], .nil⟩

instance : EmptyCollection (NameMap α) := ⟨empty⟩

instance : Inhabited (NameMap α) := ⟨empty⟩

/-- Puts an entry into its place in an ascending list; it takes the place of one with its name. -/
def insertEntry (name : String) (value : α) : List (String × α) → List (String × α)
  | [] => [(name, value)]
  | entry :: rest =>
    if name < entry.1 then (name, value) :: entry :: rest
    else if entry.1 < name then entry :: insertEntry name value rest
    else (name, value) :: rest

theorem name_of_mem_insertEntry {name : String} {value : α} {x : String × α} :
    ∀ {entries : List (String × α)}, x ∈ insertEntry name value entries →
      x = (name, value) ∨ x ∈ entries
  | [], h => by simpa [insertEntry] using h
  | entry :: rest, h => by
    unfold insertEntry at h
    split at h
    · simpa using h
    · split at h
      · rcases List.mem_cons.1 h with h | h
        · simp [h]
        · rcases name_of_mem_insertEntry h with h | h <;> simp [h]
      · rcases List.mem_cons.1 h with h | h <;> simp [h]

theorem ascending_insertEntry {name : String} {value : α} :
    ∀ {entries : List (String × α)}, entries.Pairwise (fun a b => a.1 < b.1) →
      (insertEntry name value entries).Pairwise fun a b => a.1 < b.1
  | [], _ => by simp [insertEntry]
  | entry :: rest, h => by
    have hh := List.pairwise_cons.1 h
    unfold insertEntry
    split
    · rename_i hlt
      refine List.pairwise_cons.2 ⟨fun x hx => ?_, h⟩
      rcases List.mem_cons.1 hx with hx | hx
      · exact hx ▸ hlt
      · exact String.lt_trans hlt (hh.1 x hx)
    · split
      · rename_i hlt
        refine List.pairwise_cons.2 ⟨fun x hx => ?_, ascending_insertEntry hh.2⟩
        rcases name_of_mem_insertEntry hx with hx | hx
        · exact hx ▸ hlt
        · exact hh.1 x hx
      · rename_i h₁ h₂
        have heq : name = entry.1 := String.le_antisymm (String.not_lt.1 h₂) (String.not_lt.1 h₁)
        exact List.pairwise_cons.2 ⟨fun x hx => heq ▸ hh.1 x hx, hh.2⟩

/-- The map with a value for a name, in place of the value that the name had. -/
def insert (name : String) (value : α) (map : NameMap α) : NameMap α :=
  ⟨insertEntry name value map.entries, ascending_insertEntry map.ascending⟩

def get? (map : NameMap α) (name : String) : Option α := map.entries.lookup name

/-- The map of a list of entries; of several with one name the last counts. -/
def ofList (entries : List (String × α)) : NameMap α :=
  entries.foldl (fun map entry => map.insert entry.1 entry.2) empty

end NameMap

end CallOrder
