import CallOrder.Proofs.Json.Orderly

/-! Records do not depend on the order of their members. A field takes one member, and a member that is no field changes
nothing, so two that stand side by side may change places. -/
namespace CallOrder.Json

namespace Fields
variable {types : List Type} {depth : ℕ}

/-- The formats of all fields are orderly. -/
def IsOrderly : {types : List Type} → Fields types → Prop
  | _, .nil => True
  | _, .cons _ format _ rest => format.IsOrderly ∧ rest.IsOrderly

/-- Reads one member into the slots. -/
def readMember (depth : ℕ) (fields : Fields types) (member : Quoted × Reading) (slots : Slots types) :
    Except Fault (Slots types) := do
  let name ← member.1.text
  match fields.put? depth name member.2 slots with
  | some result => result
  | none => do
    member.2.skip
    return slots

theorem readMembers_cons (fields : Fields types) (member : Quoted × Reading) (members : List (Quoted × Reading))
    (slots : Slots types) :
    fields.readMembers depth (member :: members) slots =
      fields.readMember depth member slots >>= fields.readMembers depth members := by
  rw [readMembers, readMember, bind_assoc]
  congr 1
  funext name
  cases fields.put? depth name member.2 slots with
  | some result => rfl
  | none =>
    dsimp only
    rw [bind_assoc]
    rfl

section Put
variable {α : Type} {fields : Fields types} {slots next last : Slots types} {name other : String} {value written : Reading}

/-- A member that goes to the first field, or to one of the others. -/
private theorem put?_cons_iff {field : String} {format : Format α} {absent : Absent α} {slot : Option α}
    {result : Slots (α :: types)} :
    (Fields.cons field format absent fields).put? depth name value (slot, slots) = some (.ok result) ↔
      (name = field ∧ slot = none ∧ ∃ v, format.read depth value = .ok v ∧ (some v, slots) = result) ∨
        name ≠ field ∧ ∃ more, fields.put? depth name value slots = some (.ok more) ∧ (slot, more) = result := by
  simp only [put?]
  split
  · rename_i hname
    cases slot with
    | some v =>
      constructor
      · intro h
        cases h
      · rintro (⟨-, ⟨⟩, -⟩ | ⟨hne, -⟩)
        exact absurd hname hne
    | none =>
      constructor
      · intro h
        obtain ⟨v, hread, hresult⟩ := map_eq_ok.1 (Option.some.inj h)
        exact .inl ⟨hname, rfl, v, hread, hresult⟩
      · rintro (⟨-, -, hread⟩ | ⟨hne, -⟩)
        · exact congrArg some (map_eq_ok.2 hread)
        · exact absurd hname hne
  · rename_i hname
    rw [Option.map_eq_some_iff]
    constructor
    · rintro ⟨read, hput, hread⟩
      obtain ⟨more, rfl, hresult⟩ := map_eq_ok.1 hread
      exact .inr ⟨hname, more, hput, hresult⟩
    · rintro (⟨heq, -⟩ | ⟨-, more, hput, hresult⟩)
      · exact absurd heq hname
      · exact ⟨.ok more, hput, map_eq_ok.2 ⟨more, rfl, hresult⟩⟩

/-- Whether there is a field for a member depends on its name alone. -/
private theorem put?_eq_none (h : fields.put? depth name value slots = none) (written : Reading) (next : Slots types) :
    fields.put? depth name written next = none := by
  induction fields with
  | nil => rfl
  | cons field format absent rest ih =>
    obtain ⟨slot, slots⟩ := slots
    obtain ⟨slot', next⟩ := next
    simp only [put?] at h ⊢
    split at h
    · cases slot <;> cases h
    · rename_i hother
      rw [Option.map_eq_none_iff] at h
      rw [if_neg hother, ih h next]
      rfl

/-- Members that both go to fields go to different ones. -/
private theorem put?_comm (h : fields.put? depth name value slots = some (.ok next))
    (h' : fields.put? depth other written next = some (.ok last)) :
    ∃ between, fields.put? depth other written slots = some (.ok between) ∧
      fields.put? depth name value between = some (.ok last) := by
  induction fields with
  | nil => cases h
  | cons field format absent rest ih =>
    obtain ⟨slot, slots⟩ := slots
    obtain ⟨slot', next⟩ := next
    rcases put?_cons_iff.1 h with ⟨hname, rfl, v, hread, hnext⟩ | ⟨hname, more, hput, hnext⟩
    · cases hnext
      rcases put?_cons_iff.1 h' with ⟨-, hslot, -⟩ | ⟨hother, more, hput, hlast⟩
      · cases hslot
      · cases hlast
        exact ⟨(none, more), put?_cons_iff.2 (.inr ⟨hother, more, hput, rfl⟩),
          put?_cons_iff.2 (.inl ⟨hname, rfl, v, hread, rfl⟩)⟩
    · cases hnext
      rcases put?_cons_iff.1 h' with ⟨hother, rfl, v, hread, hlast⟩ | ⟨hother, more', hput', hlast⟩
      · cases hlast
        exact ⟨(some v, slots), put?_cons_iff.2 (.inl ⟨hother, rfl, v, hread, rfl⟩),
          put?_cons_iff.2 (.inr ⟨hname, next, hput, rfl⟩)⟩
      · cases hlast
        obtain ⟨between, hbetween, hput⟩ := ih hput hput'
        exact ⟨(slot, between), put?_cons_iff.2 (.inr ⟨hother, between, hbetween, rfl⟩),
          put?_cons_iff.2 (.inr ⟨hname, more', hput, rfl⟩)⟩

/-- What goes to a field has no flaw, and may have the members of its objects in another order. -/
private theorem put?_isOrderly (hfields : fields.IsOrderly) (h : fields.put? depth name value slots = some (.ok next)) :
    value.IsComplete ∧ ∀ reordered, value.HasDistinctKeys → Reading.Reorders value reordered →
      fields.put? depth name reordered slots = some (.ok next) := by
  induction fields with
  | nil => cases h
  | cons field format absent rest ih =>
    obtain ⟨slot, slots⟩ := slots
    obtain ⟨hformat, hrest⟩ := hfields
    rcases put?_cons_iff.1 h with ⟨hname, hslot, v, hread, hnext⟩ | ⟨hname, more, hput, hnext⟩
    · refine ⟨hformat.isComplete hread, ?_⟩
      intro reordered hkeys hreorders
      exact put?_cons_iff.2 (.inl ⟨hname, hslot, v, hformat.reorders hreorders hkeys hread, hnext⟩)
    · obtain ⟨hcomplete, hreorders⟩ := ih hrest hput
      refine ⟨hcomplete, ?_⟩
      intro reordered hkeys hreordered
      exact put?_cons_iff.2 (.inr ⟨hname, more, hreorders reordered hkeys hreordered, hnext⟩)

end Put

section Members
variable {fields : Fields types} {slots next last result : Slots types} {member other : Quoted × Reading}
  {members permuted : List (Quoted × Reading)}

/-- A member goes to its field, or is passed over. -/
private theorem readMember_iff :
    fields.readMember depth member slots = .ok next ↔ ∃ name, member.1.text = .ok name ∧
      (fields.put? depth name member.2 slots = some (.ok next) ∨
        fields.put? depth name member.2 slots = none ∧ member.2.IsComplete ∧ slots = next) := by
  rw [readMember, bind_eq_ok]
  constructor
  · rintro ⟨name, hname, hput⟩
    refine ⟨name, hname, ?_⟩
    cases hfield : fields.put? depth name member.2 slots with
    | some result =>
      rw [hfield] at hput
      exact .inl (congrArg some hput)
    | none =>
      rw [hfield] at hput
      obtain ⟨u, hskip, hnext⟩ := bind_eq_ok.1 hput
      exact .inr ⟨rfl, (Reading.skip_iff _).1 hskip, Except.ok.inj hnext⟩
  · rintro ⟨name, hname, hput | ⟨hput, hcomplete, rfl⟩⟩
    · exact ⟨name, hname, by rw [hput]⟩
    · refine ⟨name, hname, ?_⟩
      rw [hput]
      exact bind_eq_ok.2 ⟨(), (Reading.skip_iff _).2 hcomplete, rfl⟩

private theorem readMember_comm (h : fields.readMember depth member slots = .ok next)
    (h' : fields.readMember depth other next = .ok last) :
    ∃ between, fields.readMember depth other slots = .ok between ∧ fields.readMember depth member between = .ok last := by
  obtain ⟨name, hname, hmember⟩ := readMember_iff.1 h
  obtain ⟨name', hname', hother⟩ := readMember_iff.1 h'
  rcases hmember with hput | ⟨hnone, hcomplete, rfl⟩
  · rcases hother with hput' | ⟨hnone', hcomplete', rfl⟩
    · obtain ⟨between, hbetween, hlast⟩ := put?_comm hput hput'
      exact ⟨between, readMember_iff.2 ⟨name', hname', .inl hbetween⟩, readMember_iff.2 ⟨name, hname, .inl hlast⟩⟩
    · exact ⟨slots, readMember_iff.2 ⟨name', hname', .inr ⟨put?_eq_none hnone' _ _, hcomplete', rfl⟩⟩, h⟩
  · exact ⟨last, h', readMember_iff.2 ⟨name, hname, .inr ⟨put?_eq_none hnone _ _, hcomplete, rfl⟩⟩⟩

/-- The members of an object may be read in any order. -/
private theorem readMembers_perm (hperm : members.Perm permuted)
    (h : fields.readMembers depth members slots = .ok result) : fields.readMembers depth permuted slots = .ok result := by
  induction hperm generalizing slots with
  | nil => exact h
  | cons member _ ih =>
    rw [readMembers_cons, bind_eq_ok] at h ⊢
    obtain ⟨next, hmember, hrest⟩ := h
    exact ⟨next, hmember, ih hrest⟩
  | swap first second rest =>
    rw [readMembers_cons, bind_eq_ok] at h ⊢
    obtain ⟨next, hsecond, h⟩ := h
    rw [readMembers_cons, bind_eq_ok] at h
    obtain ⟨last, hthen, hrest⟩ := h
    obtain ⟨between, hbetween, hlast⟩ := readMember_comm hsecond hthen
    refine ⟨between, hbetween, ?_⟩
    rw [readMembers_cons, bind_eq_ok]
    exact ⟨last, hlast, hrest⟩
  | trans _ _ ih ih' => exact ih' (ih h)

private theorem readMember_isOrderly (hfields : fields.IsOrderly) (h : fields.readMember depth member slots = .ok next) :
    (member.1.ending = .closed ∧ member.2.IsComplete) ∧
      ∀ reordered, member.2.HasDistinctKeys → Reading.Reorders member.2 reordered →
        fields.readMember depth (member.1, reordered) slots = .ok next := by
  obtain ⟨name, hname, hput | ⟨hnone, hcomplete, hnext⟩⟩ := readMember_iff.1 h
  · obtain ⟨hcomplete, hreorders⟩ := put?_isOrderly hfields hput
    refine ⟨⟨Quoted.closed_of_text hname, hcomplete⟩, ?_⟩
    intro reordered hkeys hreordered
    exact readMember_iff.2 ⟨name, hname, .inl (hreorders reordered hkeys hreordered)⟩
  · refine ⟨⟨Quoted.closed_of_text hname, hcomplete⟩, ?_⟩
    intro reordered hkeys hreordered
    exact readMember_iff.2 ⟨name, hname, .inr ⟨put?_eq_none hnone _ _, hcomplete.reorders hreordered, hnext⟩⟩

private theorem readMembers_isComplete (hfields : fields.IsOrderly)
    (h : fields.readMembers depth members slots = .ok result) :
    ∀ member ∈ members, member.1.ending = .closed ∧ member.2.IsComplete := by
  induction members generalizing slots with
  | nil => exact List.forall_mem_nil _
  | cons member members ih =>
    rw [readMembers_cons, bind_eq_ok] at h
    obtain ⟨next, hmember, hrest⟩ := h
    exact List.forall_mem_cons.2 ⟨(readMember_isOrderly hfields hmember).1, ih hrest⟩

private theorem readMembers_replace (hfields : fields.IsOrderly) {before after : List (Quoted × Reading)} {key : Quoted}
    {value reordered : Reading} (hkeys : value.HasDistinctKeys) (hreorders : Reading.Reorders value reordered)
    (h : fields.readMembers depth (before ++ (key, value) :: after) slots = .ok result) :
    fields.readMembers depth (before ++ (key, reordered) :: after) slots = .ok result := by
  induction before generalizing slots with
  | nil =>
    rw [List.nil_append, readMembers_cons, bind_eq_ok] at h ⊢
    obtain ⟨next, hmember, hrest⟩ := h
    exact ⟨next, (readMember_isOrderly hfields hmember).2 reordered hkeys hreorders, hrest⟩
  | cons first before ih =>
    rw [List.cons_append, readMembers_cons, bind_eq_ok] at h ⊢
    obtain ⟨next, hmember, hrest⟩ := h
    exact ⟨next, hmember, ih hrest⟩

end Members

section Items
variable {fields : Fields types} {wanted : String} {ending : ListEnd} {count : ℕ} {items : List Reading} {row : Row types}

private theorem readItems_isComplete (hfields : fields.IsOrderly)
    (h : fields.readItems depth wanted ending count items = .ok row) :
    (∀ item ∈ items, item.IsComplete) ∧ ending = .closed := by
  induction fields generalizing count items with
  | nil =>
    cases items with
    | nil =>
      obtain ⟨u, hending, -⟩ := bind_eq_ok.1 h
      exact ⟨List.forall_mem_nil _, ListEnd.checkFull_eq_ok.1 hending⟩
    | cons item items => cases h
  | cons field format absent rest ih =>
    cases items with
    | nil =>
      obtain ⟨u, hending, -⟩ := bind_eq_ok.1 h
      exact ⟨List.forall_mem_nil _, ListEnd.check_eq_ok.1 hending⟩
    | cons item items =>
      obtain ⟨value, hread, h⟩ := bind_eq_ok.1 h
      obtain ⟨values, hrest, -⟩ := bind_eq_ok.1 h
      obtain ⟨hitems, hending⟩ := ih hfields.2 hrest
      exact ⟨List.forall_mem_cons.2 ⟨hfields.1.isComplete hread, hitems⟩, hending⟩

private theorem readItems_replace (hfields : fields.IsOrderly) {before after : List Reading} {item reordered : Reading}
    (hkeys : item.HasDistinctKeys) (hreorders : Reading.Reorders item reordered)
    (h : fields.readItems depth wanted ending count (before ++ item :: after) = .ok row) :
    fields.readItems depth wanted ending count (before ++ reordered :: after) = .ok row := by
  induction fields generalizing count before with
  | nil => cases before <;> cases h
  | cons field format absent rest ih =>
    cases before with
    | nil =>
      obtain ⟨value, hread, h⟩ := bind_eq_ok.1 h
      exact bind_eq_ok.2 ⟨value, hfields.1.reorders hreorders hkeys hread, h⟩
    | cons first before =>
      obtain ⟨value, hread, h⟩ := bind_eq_ok.1 h
      obtain ⟨values, hrest, hrow⟩ := bind_eq_ok.1 h
      exact bind_eq_ok.2 ⟨value, hread, bind_eq_ok.2 ⟨values, ih hfields.2 hrest, hrow⟩⟩

end Items

end Fields

namespace Format

section Record
variable {α : Type} {types : List Type} {name : String} {fields : Fields types} {ofRow : Row types → α} {toRow : α → Row types}
  {depth : ℕ} {value : α}

private theorem record_read_object_iff {members : List (Quoted × Reading)} {ending : ObjectEnd} :
    (record name fields ofRow toRow).read depth (.object members ending) = .ok value ↔
      ∃ below slots row, Reading.descend depth = .ok below ∧ fields.readMembers below members .empty = .ok slots ∧
        ending = .closed ∧ fields.complete slots = .ok row ∧ ofRow row = value := by
  simp only [record, bind_eq_ok]
  constructor
  · rintro ⟨below, hbelow, slots, hmembers, u, hending, row, hrow, ⟨⟩⟩
    exact ⟨below, slots, row, hbelow, hmembers, ObjectEnd.check_eq_ok.1 hending, hrow, rfl⟩
  · rintro ⟨below, slots, row, hbelow, hmembers, hending, hrow, rfl⟩
    exact ⟨below, hbelow, slots, hmembers, (), ObjectEnd.check_eq_ok.2 hending, row, hrow, rfl⟩

/-- A list is read as the values of the fields, whatever an error would say. -/
private theorem exists_record_read_list (name : String) (fields : Fields types) (ofRow : Row types → α)
    (toRow : α → Row types) : ∃ wanted, ∀ depth items ending value,
      (record name fields ofRow toRow).read depth (.list items ending) = .ok value ↔
        ∃ below row, Reading.descend depth = .ok below ∧ fields.readItems below wanted ending 0 items = .ok row ∧
          ofRow row = value := by
  refine ⟨"struct " ++ name ++ " with " ++ String.ofList (Decimal.digitsOf fields.count) ++
    if fields.count = 1 then " element" else " elements", ?_⟩
  intro depth items ending value
  simp only [record, bind_eq_ok]
  constructor
  · rintro ⟨below, hbelow, row, hrow, ⟨⟩⟩
    exact ⟨below, row, hbelow, hrow, rfl⟩
  · rintro ⟨below, row, hbelow, hrow, rfl⟩
    exact ⟨below, hbelow, row, hrow, rfl⟩

theorem record_isOrderly (name : String) (hfields : fields.IsOrderly) (ofRow : Row types → α) (toRow : α → Row types) :
    (record name fields ofRow toRow).IsOrderly where
  isComplete {depth reading value} hread := by
    obtain ⟨wanted, hlist⟩ := exists_record_read_list name fields ofRow toRow
    cases reading with
    | object members ending =>
      obtain ⟨below, slots, row, -, hmembers, hending, -⟩ := record_read_object_iff.1 hread
      exact Reading.isComplete_object.2 ⟨Fields.readMembers_isComplete hfields hmembers, hending⟩
    | list items ending =>
      obtain ⟨below, row, -, hitems, -⟩ := (hlist _ _ _ _).1 hread
      exact Reading.isComplete_list.2 (Fields.readItems_isComplete hfields hitems)
    | _ => exact absurd hread mismatch_ne_ok
  reorders {depth reading reordered value} hreorders hkeys hread := by
    obtain ⟨wanted, hlist⟩ := exists_record_read_list name fields ofRow toRow
    cases hreorders with
    | members hperm =>
      obtain ⟨below, slots, row, hbelow, hmembers, hrest⟩ := record_read_object_iff.1 hread
      exact record_read_object_iff.2 ⟨below, slots, row, hbelow, Fields.readMembers_perm hperm hmembers, hrest⟩
    | member hreorders =>
      obtain ⟨below, slots, row, hbelow, hmembers, hrest⟩ := record_read_object_iff.1 hread
      cases hkeys with
      | object _ hkeys =>
        have hvalue := hkeys _ (List.mem_append_right _ List.mem_cons_self)
        exact record_read_object_iff.2
          ⟨below, slots, row, hbelow, Fields.readMembers_replace hfields hvalue hreorders hmembers, hrest⟩
    | item hreorders =>
      obtain ⟨below, row, hbelow, hitems, hvalue⟩ := (hlist _ _ _ _).1 hread
      cases hkeys with
      | list hkeys =>
        have hitem := hkeys _ (List.mem_append_right _ List.mem_cons_self)
        exact (hlist _ _ _ _).2 ⟨below, row, hbelow, Fields.readItems_replace hfields hitem hreorders hitems, hvalue⟩

end Record

variable {α : Type}

theorem readText_eq_ok {format : Format α} {text : String} {value : α} :
    format.readText text = .ok value ↔
      ∃ reading, Reading.ofText text = (reading, false) ∧ format.read depthLimit reading = .ok value := by
  rw [readText]
  obtain ⟨reading, goesOn⟩ := Reading.ofText text
  dsimp only
  constructor
  · intro h
    split at h
    · cases h
    · cases goesOn with
      | true => cases h
      | false =>
        cases h
        exact ⟨reading, rfl, ‹_›⟩
  · rintro ⟨_, ⟨⟩, hread⟩
    rw [hread]
    rfl

/-- What a format reads in a text is told by the layout of the text. -/
theorem readText_layout {format : Format α} {layout : Layout} {value : α} :
    format.readText (String.ofList layout.text) = .ok value ↔ format.read depthLimit layout.reading = .ok value := by
  rw [readText_eq_ok, layout.ofText_text]
  constructor
  · rintro ⟨_, ⟨⟩, hread⟩
    exact hread
  · intro hread
    exact ⟨layout.reading, rfl, hread⟩

/-- Every text that an orderly format reads is laid out in some way. -/
theorem IsOrderly.exists_layout {format : Format α} (h : format.IsOrderly) {text : String} {value : α}
    (hread : format.readText text = .ok value) : ∃ layout : Layout, layout.text = text.toList := by
  obtain ⟨reading, hreading, hvalue⟩ := readText_eq_ok.1 hread
  obtain ⟨layout, htext, -⟩ := Layout.exists_layout (h.isComplete hvalue) hreading
  exact ⟨layout, htext⟩

/-- Texts that differ in the order of the members of their objects are read alike. -/
theorem IsOrderly.readText_reorders {format : Format α} (h : format.IsOrderly) {layout reordered : Layout} {value : α}
    (hkeys : layout.reading.HasDistinctKeys) (hreorders : Relation.ReflTransGen Layout.Reorders layout reordered)
    (hread : format.readText (String.ofList layout.text) = .ok value) :
    reordered.reading.HasDistinctKeys ∧ format.readText (String.ofList reordered.text) = .ok value := by
  induction hreorders with
  | refl => exact ⟨hkeys, hread⟩
  | tail _ hstep ih =>
    obtain ⟨hkeys, hread⟩ := ih
    rw [readText_layout] at hread ⊢
    exact ⟨hkeys.reorders hstep.reading, h.reorders hstep.reading hkeys hread⟩

end Format

end CallOrder.Json
