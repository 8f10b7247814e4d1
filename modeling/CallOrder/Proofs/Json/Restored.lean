import CallOrder.Json.Format
import CallOrder.Proofs.Json.Written
import Mathlib.Data.List.Forall2

/-! What a format writes it reads back. For a record this is said field by field, and for a map of names in whichever
order its members are written. -/
namespace CallOrder

namespace NameMap
variable {α : Type}

private theorem insertEntry_perm {name : String} {value : α} {entries : List (String × α)}
    (h : name ∉ entries.map Prod.fst) : (insertEntry name value entries).Perm ((name, value) :: entries) := by
  induction entries with
  | nil => exact .refl _
  | cons entry entries ih =>
    rw [List.map_cons, List.mem_cons, not_or] at h
    rw [insertEntry]
    split
    · exact .refl _
    split
    · exact ((ih h.2).cons entry).trans (.swap _ _ _)
    · rename_i hlt hgt
      exact absurd (String.le_antisymm (String.not_lt.1 hgt) (String.not_lt.1 hlt)) h.1

private theorem foldl_insert_perm {entries : List (String × α)} {map : NameMap α}
    (h : ((map.entries ++ entries).map Prod.fst).Nodup) :
    (entries.foldl (fun map entry => map.insert entry.1 entry.2) map).entries.Perm (map.entries ++ entries) := by
  induction entries generalizing map with
  | nil => simp
  | cons entry entries ih =>
    have hfresh : entry.1 ∉ map.entries.map Prod.fst := by
      rw [List.map_append, List.map_cons, List.nodup_append] at h
      exact fun hmem => h.2.2 _ hmem _ List.mem_cons_self rfl
    have hinsert : (map.insert entry.1 entry.2).entries.Perm (entry :: map.entries) := insertEntry_perm hfresh
    have hmove : ((map.insert entry.1 entry.2).entries ++ entries).Perm (map.entries ++ entry :: entries) :=
      (hinsert.append_right entries).trans List.perm_middle.symm
    rw [List.foldl_cons]
    exact (ih (((hmove.map Prod.fst).nodup_iff).2 h)).trans hmove

theorem names_nodup (map : NameMap α) : (map.entries.map Prod.fst).Nodup :=
  List.pairwise_map.2 (map.ascending.imp fun h => String.ne_of_lt h)

/-- The entries of a map make up that map in any order. -/
theorem ofList_perm {entries : List (String × α)} {map : NameMap α} (h : entries.Perm map.entries) :
    ofList entries = map := by
  have hnodup : (((empty : NameMap α).entries ++ entries).map Prod.fst).Nodup :=
    ((h.map Prod.fst).nodup_iff).2 map.names_nodup
  have hperm : (ofList entries).entries.Perm map.entries := (foldl_insert_perm hnodup).trans h
  refine NameMap.ext (hperm.eq_of_pairwise (fun a b _ _ hab hba => ?_) (ofList entries).ascending map.ascending)
  exact absurd hab (String.lt_asymm hba)

/-- Entries of different names make up one map in any order. -/
theorem ofList_eq_of_perm {entries others : List (String × α)} (hnames : (entries.map Prod.fst).Nodup)
    (h : entries.Perm others) : ofList entries = ofList others := by
  have hnodup : (((empty : NameMap α).entries ++ others).map Prod.fst).Nodup := ((h.map Prod.fst).nodup_iff).1 hnames
  have hperm : (ofList others).entries.Perm others := foldl_insert_perm hnodup
  exact ofList_perm (h.trans hperm.symm)

end NameMap

namespace Json

namespace Format
variable {α β : Type} {levels : ℕ} {written : Value}

/-- Whether a written value is read as a value by one who may go through more than so many levels. -/
def Reads (format : Format α) (levels : ℕ) (written : Value) (value : α) : Prop :=
  ∀ depth, levels < depth → format.read depth written.reading = .ok value

/-- Whether a value that the format wrote is read as that value. -/
def Restores (format : Format α) (levels : ℕ) (value : α) : Prop := format.Reads levels (format.write value) value

theorem Reads.mono {format : Format α} {value : α} {more : ℕ} (h : format.Reads levels written value) (hle : levels ≤ more) :
    format.Reads more written value := fun depth hdepth => h depth (hle.trans_lt hdepth)

theorem readText_eq {format : Format α} {value : α} {text : String} (h : format.Reads levels written value)
    (hlevels : levels < depthLimit) (htext : Token.IsTokenText written.tokens text.toList) :
    format.readText text = .ok value := by
  rw [readText, Value.ofText_eq htext]
  simp only [h depthLimit hlevels]
  rfl

theorem text_reads (s : String) : Format.text.Reads levels (.string s) s := fun _ _ => Quoted.text_ofText s

theorem flag_reads (b : Bool) : flag.Reads levels (.boolean b) b := by
  intro depth _
  cases b <;> rfl

theorem wholeNumeral_value {n : ℕ} (hn : n < UInt64.size) : (Value.wholeNumeral n).value = .ok (.whole n) := by
  have hvalue : Decimal.valueOfDigits (Value.wholeNumeral n).whole = n := Decimal.valueOfDigits_digitsOf n
  have hplain : (Value.wholeNumeral n).fraction.isNone && (Value.wholeNumeral n).exponent.isNone &&
      !(Value.wholeNumeral n).negative && n < UInt64.size := by
    simpa [Value.wholeNumeral, Numeral.ofSpelling] using hn
  have hending : (Value.wholeNumeral n).ending = .complete := rfl
  unfold Numeral.value
  rw [hending]
  simp only [hvalue]
  exact if_pos hplain

theorem natural_reads {n : ℕ} (hn : n < UInt64.size) (wanted : String) : (natural wanted).Reads levels (.integer n) n := by
  intro depth _
  simp only [natural, Value.reading, wholeNumeral_value hn]
  rfl

theorem via_reads {format : Format α} {into : α → β} {back : β → α} {value : α} (h : format.Reads levels written value) :
    (format.via into back).Reads levels written (into value) := by
  intro depth hdepth
  simp only [via, h depth hdepth]
  rfl

theorem word_reads (n : UInt64) : word.Reads levels (.integer n.toNat) n := by
  have h : word.Reads levels (.integer n.toNat) n.toNat.toUInt64 := via_reads (natural_reads n.toNat_lt "u64")
  rwa [Nat.toUInt64_eq, UInt64.ofNat_toNat] at h

theorem optional_none_reads (format : Format α) : format.optional.Reads levels .null none := fun _ _ => rfl

/-- A value that is there is told from one that is absent if it is not written as the word for nothing. -/
theorem optional_some_reads {format : Format α} {value : α} (hnull : written.reading ≠ .word .null)
    (h : format.Reads levels written value) : format.optional.Reads levels written (some value) := by
  intro depth hdepth
  have hread := h depth hdepth
  have hflaw : ∀ fault, written.reading ≠ .flaw fault := by
    intro fault hflaw
    cases written with
    | real x =>
      rw [Value.reading, Value.realReading] at hflaw
      split at hflaw <;> cases hflaw
    | _ => cases hflaw
  simp only [optional, hread]
  rfl

theorem optional_restores {format : Format α} {value : Option α}
    (h : ∀ x, value = some x → format.Restores levels x ∧ (format.write x).reading ≠ .word .null) :
    format.optional.Restores levels value := by
  cases value with
  | none => exact optional_none_reads format
  | some x => exact optional_some_reads (h x rfl).2 (h x rfl).1

private theorem descend_eq {depth : ℕ} (h : levels + 1 < depth) : Reading.descend depth = .ok (depth - 1) := by
  rw [Reading.descend, if_neg (by omega)]

theorem list_reads {format : Format α} {items : List Value} {values : List α}
    (h : List.Forall₂ (format.Reads levels) items values) : format.list.Reads (levels + 1) (.list items) values := by
  intro depth hdepth
  have hitems : ∀ depth, levels < depth → (items.map Value.reading).mapM (format.read depth) = .ok values := by
    intro depth hdepth
    induction h with
    | nil => rfl
    | cons hitem _ ih =>
      rw [List.map_cons, List.mapM_cons, hitem depth hdepth, ih]
      rfl
  simp only [list, Value.reading, Value.itemReadings_eq, descend_eq hdepth, bind, Except.bind,
    hitems (depth - 1) (by omega)]
  rfl

theorem list_restores {format : Format α} {values : List α} (h : ∀ value ∈ values, format.Restores levels value) :
    format.list.Restores (levels + 1) values :=
  list_reads (List.forall₂_map_left_iff.2 (List.forall₂_same.2 h))

private theorem readEntries_eq {format : Format α} {members : List (String × Value)} {entries : List (String × α)}
    (h : List.Forall₂ (fun member entry => member.1 = entry.1 ∧ format.Reads levels member.2 entry.2) members entries)
    {depth : ℕ} (hdepth : levels < depth) (map : NameMap α) :
    readEntries format depth (Value.memberReadings members) map =
      .ok (entries.foldl (fun map entry => map.insert entry.1 entry.2) map) := by
  induction h generalizing map with
  | nil => rfl
  | cons hmember _ ih =>
    obtain ⟨hname, hvalue⟩ := hmember
    rw [Value.memberReadings, readEntries, Quoted.text_ofText, hname, List.foldl_cons, ← ih]
    simp only [bind, Except.bind, hvalue depth hdepth]

/-- The members of a map may be written in any order. -/
theorem nameMap_reads {format : Format α} {members : List (String × Value)} {entries : List (String × α)} {map : NameMap α}
    (h : List.Forall₂ (fun member entry => member.1 = entry.1 ∧ format.Reads levels member.2 entry.2) members entries)
    (hentries : entries.Perm map.entries) : format.nameMap.Reads (levels + 1) (.object members) map := by
  intro depth hdepth
  have hread := readEntries_eq h (show levels < depth - 1 by omega) ∅
  have hmap : entries.foldl (fun map entry => map.insert entry.1 entry.2) ∅ = map := NameMap.ofList_perm hentries
  simp only [nameMap, Value.reading, descend_eq hdepth, bind, Except.bind, hread, hmap]
  rfl

theorem nameMap_restores {format : Format α} {map : NameMap α} (h : ∀ entry ∈ map.entries, format.Restores levels entry.2) :
    format.nameMap.Restores (levels + 1) map :=
  nameMap_reads (List.forall₂_map_left_iff.2 (List.forall₂_same.2 fun entry hentry => ⟨rfl, h entry hentry⟩)) (.refl _)

end Format

namespace Fields
variable {types : List Type} {levels : ℕ}

/-- The names of the fields. -/
def names : {types : List Type} → Fields types → List String
  | _, .nil => []
  | _, .cons name _ _ rest => name :: rest.names

/-- Whether written members are read as the values of the fields, in their order. -/
def Reads (levels : ℕ) : {types : List Type} → Fields types → List (String × Value) → Row types → Prop
  | _, .nil, members, _ => members = []
  | _, .cons name format _ rest, members, (value, values) => ∃ written more, members = (name, written) :: more ∧
      format.Reads levels written value ∧ rest.Reads levels more values

/-- The slots of fields that were all read. -/
def filled : {types : List Type} → Row types → Slots types
  | [], _ => ()
  | _ :: _, (value, values) => (some value, filled values)

theorem names_of_reads {fields : Fields types} {members : List (String × Value)} {row : Row types}
    (h : fields.Reads levels members row) : members.map Prod.fst = fields.names := by
  induction fields generalizing members with
  | nil =>
    cases h
    rfl
  | cons name format absent rest ih =>
    obtain ⟨written, more, rfl, -, hmore⟩ := h
    rw [List.map_cons, ih hmore, names]

-- Members of other names go to the fields behind the first.
private theorem readMembers_behind {α : Type} {name : String} {format : Format α} {absent : Absent α} {rest : Fields types}
    {members : List (String × Value)} (h : name ∉ members.map Prod.fst) (depth : ℕ) (slot : Option α) (slots : Slots types) :
    readMembers depth (.cons name format absent rest) (Value.memberReadings members) (slot, slots) =
      (readMembers depth rest (Value.memberReadings members) slots).map (slot, ·) := by
  induction members generalizing slots with
  | nil => rfl
  | cons member members ih =>
    obtain ⟨key, written⟩ := member
    rw [List.map_cons, List.mem_cons, not_or] at h
    simp only [Value.memberReadings, readMembers, Quoted.text_ofText, bind, Except.bind, put?, if_neg (Ne.symm h.1)]
    cases hput : rest.put? depth key written.reading slots with
    | none =>
      simp only [Option.map_none]
      cases written.reading.skip with
      | error fault => rfl
      | ok u => exact ih h.2 slots
    | some result =>
      simp only [Option.map_some]
      cases result with
      | error fault => rfl
      | ok slots => exact ih h.2 slots

theorem readMembers_eq {fields : Fields types} (hnames : fields.names.Nodup) {members : List (String × Value)}
    {row : Row types} (h : fields.Reads levels members row) {depth : ℕ} (hdepth : levels < depth) :
    fields.readMembers depth (Value.memberReadings members) .empty = .ok (filled row) := by
  induction fields generalizing members with
  | nil =>
    cases h
    rfl
  | cons name format absent rest ih =>
    obtain ⟨written, more, rfl, hvalue, hmore⟩ := h
    obtain ⟨value, values⟩ := row
    rw [names, List.nodup_cons] at hnames
    have hbehind : name ∉ more.map Prod.fst := by
      rw [names_of_reads hmore]
      exact hnames.1
    have hread := hvalue depth hdepth
    simp only [Value.memberReadings, readMembers, Quoted.text_ofText, bind, Except.bind, Slots.empty, put?, if_pos]
    simp only [hread, Except.map]
    rw [readMembers_behind hbehind, ih hnames.2 hmore]
    rfl

theorem complete_filled (fields : Fields types) (row : Row types) : fields.complete (filled row) = .ok row := by
  induction fields with
  | nil => rfl
  | cons name format absent rest ih =>
    obtain ⟨value, values⟩ := row
    simp only [filled, complete, bind, Except.bind, ih]
    rfl

end Fields

/-- A record whose fields have different names is read field by field. -/
theorem Format.record_reads {α : Type} {types : List Type} {name : String} {fields : Fields types} {ofRow : Row types → α}
    {toRow : α → Row types} {levels : ℕ} {members : List (String × Value)} {value : α} (hnames : fields.names.Nodup)
    (hback : ofRow (toRow value) = value) (h : fields.Reads levels members (toRow value)) :
    (Format.record name fields ofRow toRow).Reads (levels + 1) (.object members) value := by
  intro depth hdepth
  have hread := Fields.readMembers_eq hnames h (show levels < depth - 1 by omega)
  simp only [record, Value.reading, descend_eq hdepth, bind, Except.bind, hread, Fields.complete_filled, hback]
  rfl

end Json

end CallOrder
