import CallOrder.Proofs.Json.Reordered
import CallOrder.Proofs.Json.Restored
import CallOrder.Proofs.Results

/-! Formats that look at all of a value, but not at the order in which the members of its objects stand. -/
namespace CallOrder.Json

theorem Quoted.check_eq_ok {ending : Quoted.End} : ending.check = .ok () ↔ ending = .closed := by
  cases ending <;> simp [Quoted.End.check]

private theorem Quoted.closed_of_characters {ending : Quoted.End} {pieces : List Piece} {cs : List Char}
    (h : characters ending pieces = .ok cs) : ending = .closed := by
  fun_induction characters ending pieces generalizing cs with
  | case1 =>
    obtain ⟨u, hcheck, -⟩ := bind_eq_ok.1 h
    exact Quoted.check_eq_ok.1 hcheck
  | case3 | case5 | case7 | case8 => cases h
  | case2 | case4 | case6 | case9 =>
    rename_i ih
    obtain ⟨more, hmore, -⟩ := bind_eq_ok.1 h
    exact ih hmore

/-- Only a closed string stands for a text. -/
theorem Quoted.closed_of_text {quoted : Quoted} {s : String} (h : quoted.text = .ok s) : quoted.ending = .closed := by
  obtain ⟨cs, hcs, -⟩ := bind_eq_ok.1 h
  exact Quoted.closed_of_characters hcs

theorem Numeral.complete_of_value {numeral : Numeral} {n : Number} (h : numeral.value = .ok n) :
    numeral.ending = .complete := by
  rw [Numeral.value] at h
  cases hending : numeral.ending with
  | complete => rfl
  | cut | malformed =>
    rw [hending] at h
    cases h

theorem Numeral.skip_iff {numeral : Numeral} : numeral.skip = .ok () ↔ numeral.ending = .complete := by
  rw [Numeral.skip]
  split
  · simp_all
  · simp_all

theorem ListEnd.check_eq_ok {ending : ListEnd} : ending.check = .ok () ↔ ending = .closed := by
  cases ending <;> simp [ListEnd.check]

theorem ListEnd.checkFull_eq_ok {ending : ListEnd} : ending.checkFull = .ok () ↔ ending = .closed := by
  cases ending <;> simp [ListEnd.checkFull]

theorem ListEnd.skip_eq_ok {ending : ListEnd} : ending.skip = .ok () ↔ ending = .closed := by
  cases ending <;> simp [ListEnd.skip, ListEnd.check]

theorem ObjectEnd.check_eq_ok {ending : ObjectEnd} : ending.check = .ok () ↔ ending = .closed := by
  cases ending <;> simp [ObjectEnd.check]

theorem ObjectEnd.skip_eq_ok {ending : ObjectEnd} : ending.skip = .ok () ↔ ending = .closed := by
  cases ending <;> simp [ObjectEnd.skip, ObjectEnd.check]

namespace Reading

mutual

/-- A value is passed over if nothing in it is cut off or misspelled. -/
theorem skip_iff : (reading : Reading) → (reading.skip = .ok () ↔ reading.IsComplete)
  | .word w => ⟨fun _ => .word w, fun _ => rfl⟩
  | .number n => by
    rw [skip, Numeral.skip_iff]
    exact ⟨.number, fun h => by cases h; assumption⟩
  | .string q => by
    rw [skip, Quoted.skip, Quoted.check_eq_ok]
    exact ⟨.string, fun h => by cases h; assumption⟩
  | .list items ending => by
    rw [skip, bind_eq_ok, isComplete_list, ← skipItems_iff items, ← ListEnd.skip_eq_ok]
    exact ⟨fun ⟨_, h, h'⟩ => ⟨h, h'⟩, fun ⟨h, h'⟩ => ⟨(), h, h'⟩⟩
  | .object members ending => by
    rw [skip, bind_eq_ok, isComplete_object, ← skipMembers_iff members, ← ObjectEnd.skip_eq_ok]
    exact ⟨fun ⟨_, h, h'⟩ => ⟨h, h'⟩, fun ⟨h, h'⟩ => ⟨(), h, h'⟩⟩
  | .flaw fault => ⟨nofun, nofun⟩

theorem skipItems_iff : (items : List Reading) → (skipItems items = .ok () ↔ ∀ item ∈ items, item.IsComplete)
  | [] => ⟨fun _ => List.forall_mem_nil _, fun _ => rfl⟩
  | item :: rest => by
    rw [skipItems, bind_eq_ok, List.forall_mem_cons, ← skip_iff item, ← skipItems_iff rest]
    exact ⟨fun ⟨_, h, h'⟩ => ⟨h, h'⟩, fun ⟨h, h'⟩ => ⟨(), h, h'⟩⟩

theorem skipMembers_iff : (members : List (Quoted × Reading)) →
    (skipMembers members = .ok () ↔ ∀ member ∈ members, member.1.ending = .closed ∧ member.2.IsComplete)
  | [] => ⟨fun _ => List.forall_mem_nil _, fun _ => rfl⟩
  | (key, value) :: rest => by
    rw [skipMembers, bind_eq_ok, List.forall_mem_cons, ← skip_iff value, ← skipMembers_iff rest, ← Quoted.check_eq_ok]
    simp only [bind_eq_ok]
    exact ⟨fun ⟨_, h, _, h', h''⟩ => ⟨⟨h, h'⟩, h''⟩, fun ⟨⟨h, h'⟩, h''⟩ => ⟨(), h, (), h', h''⟩⟩

end

end Reading

namespace Format
variable {α β : Type}

/-- What the format reads has no flaw, and is read the same with the members of its objects in another order. -/
structure IsOrderly (format : Format α) : Prop where
  isComplete : ∀ {depth : ℕ} {reading : Reading} {value : α}, format.read depth reading = .ok value → reading.IsComplete
  reorders : ∀ {depth : ℕ} {reading reordered : Reading} {value : α}, Reading.Reorders reading reordered →
    reading.HasDistinctKeys → format.read depth reading = .ok value → format.read depth reordered = .ok value

theorem mismatch_ne_ok {reading : Reading} {wanted : String} {value : α} : reading.mismatch wanted ≠ .ok value := by
  intro h
  obtain ⟨found, -, h⟩ := bind_eq_ok.1 h
  cases h

/-- A value that has no parts cannot have them in another order. -/
theorem isOrderly_of_leaf {format : Format α}
    (h : ∀ depth reading value, format.read depth reading = .ok value →
      reading.IsComplete ∧ ∀ reordered, ¬ Reading.Reorders reading reordered) : format.IsOrderly where
  isComplete hread := (h _ _ _ hread).1
  reorders hreorders _ hread := absurd hreorders ((h _ _ _ hread).2 _)

theorem text_isOrderly : Format.text.IsOrderly := by
  apply isOrderly_of_leaf
  intro depth reading value h
  cases reading with
  | string q => exact ⟨.string (Quoted.closed_of_text h), nofun⟩
  | _ => exact absurd h mismatch_ne_ok

theorem flag_isOrderly : flag.IsOrderly := by
  apply isOrderly_of_leaf
  intro depth reading value h
  cases reading with
  | word w => exact ⟨.word w, nofun⟩
  | _ => exact absurd h mismatch_ne_ok

theorem natural_isOrderly (wanted : String) : (natural wanted).IsOrderly := by
  apply isOrderly_of_leaf
  intro depth reading value h
  cases reading with
  | number n =>
    obtain ⟨m, hvalue, -⟩ := bind_eq_ok.1 h
    exact ⟨.number (Numeral.complete_of_value hvalue), nofun⟩
  | _ => exact absurd h mismatch_ne_ok

theorem via_isOrderly {format : Format α} (h : format.IsOrderly) (into : α → β) (back : β → α) :
    (format.via into back).IsOrderly where
  isComplete hread := by
    obtain ⟨value, hread, -⟩ := map_eq_ok.1 hread
    exact h.isComplete hread
  reorders hreorders hkeys hread := by
    obtain ⟨value, hread, hinto⟩ := map_eq_ok.1 hread
    exact map_eq_ok.2 ⟨value, h.reorders hreorders hkeys hread, hinto⟩

theorem word_isOrderly : Format.word.IsOrderly := via_isOrderly (natural_isOrderly _) _ _

/-- A value that is there is read as such. -/
private theorem optional_read {format : Format α} {depth : ℕ} {reading : Reading} (hnull : reading ≠ .word .null)
    (hflaw : ∀ fault, reading ≠ .flaw fault) :
    format.optional.read depth reading = (format.read depth reading).map some := by
  simp only [optional]

theorem optional_isOrderly {format : Format α} (h : format.IsOrderly) : format.optional.IsOrderly where
  isComplete {depth reading value} hread := by
    by_cases hnull : reading = .word .null
    · rw [hnull]
      exact .word .null
    · have hflaw : ∀ fault, reading ≠ .flaw fault := by
        rintro fault rfl
        cases hread
      rw [optional_read hnull hflaw] at hread
      obtain ⟨value, hread, -⟩ := map_eq_ok.1 hread
      exact h.isComplete hread
  reorders {depth reading reordered value} hreorders hkeys hread := by
    have hparts : (∀ w, reading ≠ .word w ∧ reordered ≠ .word w) ∧
        ∀ fault, reading ≠ .flaw fault ∧ reordered ≠ .flaw fault := by
      cases hreorders <;> exact ⟨fun _ => ⟨nofun, nofun⟩, fun _ => ⟨nofun, nofun⟩⟩
    rw [optional_read (hparts.1 _).1 fun fault => (hparts.2 fault).1] at hread
    rw [optional_read (hparts.1 _).2 fun fault => (hparts.2 fault).2]
    obtain ⟨inner, hread, hsome⟩ := map_eq_ok.1 hread
    exact map_eq_ok.2 ⟨inner, h.reorders hreorders hkeys hread, hsome⟩

section List

private theorem mapM_isComplete {format : Format α} (h : format.IsOrderly) {depth : ℕ} {items : List Reading} {values : List α}
    (hread : items.mapM (format.read depth) = .ok values) : ∀ item ∈ items, item.IsComplete := by
  induction items generalizing values with
  | nil => exact List.forall_mem_nil _
  | cons item items ih =>
    rw [List.mapM_cons, bind_eq_ok] at hread
    obtain ⟨value, hitem, hread⟩ := hread
    obtain ⟨others, hothers, -⟩ := bind_eq_ok.1 hread
    exact List.forall_mem_cons.2 ⟨h.isComplete hitem, ih hothers⟩

private theorem mapM_replace {f : Reading → Except Fault α} {before after : List Reading} {item other : Reading}
    {values : List α} (h : ∀ value, f item = .ok value → f other = .ok value)
    (hread : (before ++ item :: after).mapM f = .ok values) : (before ++ other :: after).mapM f = .ok values := by
  induction before generalizing values with
  | nil =>
    rw [List.nil_append, List.mapM_cons, bind_eq_ok] at hread ⊢
    obtain ⟨value, hitem, hrest⟩ := hread
    exact ⟨value, h value hitem, hrest⟩
  | cons first before ih =>
    rw [List.cons_append, List.mapM_cons, bind_eq_ok] at hread ⊢
    obtain ⟨value, hfirst, hrest⟩ := hread
    obtain ⟨others, hothers, hvalues⟩ := bind_eq_ok.1 hrest
    exact ⟨value, hfirst, bind_eq_ok.2 ⟨others, ih hothers, hvalues⟩⟩

private theorem list_read_iff {format : Format α} {depth : ℕ} {items : List Reading} {ending : ListEnd} {values : List α} :
    format.list.read depth (.list items ending) = .ok values ↔
      ∃ below, Reading.descend depth = .ok below ∧ items.mapM (format.read below) = .ok values ∧ ending = .closed := by
  simp only [list, bind_eq_ok]
  constructor
  · rintro ⟨below, hbelow, result, hitems, u, hending, ⟨⟩⟩
    exact ⟨below, hbelow, hitems, ListEnd.check_eq_ok.1 hending⟩
  · rintro ⟨below, hbelow, hitems, hending⟩
    exact ⟨below, hbelow, values, hitems, (), ListEnd.check_eq_ok.2 hending, rfl⟩

theorem list_isOrderly {format : Format α} (h : format.IsOrderly) : format.list.IsOrderly where
  isComplete {depth reading values} hread := by
    cases reading with
    | list items ending =>
      obtain ⟨below, -, hitems, hending⟩ := list_read_iff.1 hread
      exact Reading.isComplete_list.2 ⟨mapM_isComplete h hitems, hending⟩
    | _ => exact absurd hread mismatch_ne_ok
  reorders {depth reading reordered values} hreorders hkeys hread := by
    cases hreorders with
    | item hreorders =>
      obtain ⟨below, hbelow, hitems, hending⟩ := list_read_iff.1 hread
      refine list_read_iff.2 ⟨below, hbelow, mapM_replace ?_ hitems, hending⟩
      intro value hitem
      cases hkeys with
      | list hkeys =>
        exact h.reorders hreorders (hkeys _ (List.mem_append_right _ List.mem_cons_self)) hitem
    | _ => exact absurd hread mismatch_ne_ok

end List

section NameMap
variable {format : Format α} {depth : ℕ} {members : List (Quoted × Reading)}

/-- Whether a member of a map is read as an entry. -/
def IsEntry (format : Format α) (depth : ℕ) (member : Quoted × Reading) (entry : String × α) : Prop :=
  member.1.text = .ok entry.1 ∧ format.read depth member.2 = .ok entry.2

private theorem readEntries_iff {map result : NameMap α} :
    readEntries format depth members map = .ok result ↔
      ∃ entries, List.Forall₂ (IsEntry format depth) members entries ∧
        entries.foldl (fun map entry => map.insert entry.1 entry.2) map = result := by
  induction members generalizing map with
  | nil =>
    constructor
    · intro h
      exact ⟨[], .nil, Except.ok.inj h⟩
    · rintro ⟨entries, hentries, rfl⟩
      cases hentries
      rfl
  | cons member members ih =>
    simp only [readEntries, bind_eq_ok, ih]
    constructor
    · rintro ⟨name, hname, value, hvalue, entries, hentries, hresult⟩
      exact ⟨(name, value) :: entries, .cons ⟨hname, hvalue⟩ hentries, hresult⟩
    · rintro ⟨entries, hentries, hresult⟩
      cases hentries with
      | cons hentry hentries => exact ⟨_, hentry.1, _, hentry.2, _, hentries, hresult⟩

private theorem nameMap_read_iff {ending : ObjectEnd} {map : NameMap α} :
    format.nameMap.read depth (.object members ending) = .ok map ↔
      ∃ below entries, Reading.descend depth = .ok below ∧ List.Forall₂ (IsEntry format below) members entries ∧
        NameMap.ofList entries = map ∧ ending = .closed := by
  simp only [nameMap, bind_eq_ok, readEntries_iff]
  constructor
  · rintro ⟨below, hbelow, result, ⟨entries, hentries, hresult⟩, u, hending, ⟨⟩⟩
    exact ⟨below, entries, hbelow, hentries, hresult, ObjectEnd.check_eq_ok.1 hending⟩
  · rintro ⟨below, entries, hbelow, hentries, hresult, hending⟩
    exact ⟨below, hbelow, map, ⟨entries, hentries, hresult⟩, (), ObjectEnd.check_eq_ok.2 hending, rfl⟩

private theorem members_isComplete {entries : List (String × α)} (hformat : format.IsOrderly)
    (h : List.Forall₂ (IsEntry format depth) members entries) :
    ∀ member ∈ members, member.1.ending = .closed ∧ member.2.IsComplete := by
  induction h with
  | nil => exact List.forall_mem_nil _
  | cons hentry _ ih =>
    exact List.forall_mem_cons.2 ⟨⟨Quoted.closed_of_text hentry.1, hformat.isComplete hentry.2⟩, ih⟩

private theorem exists_member {entries : List (String × α)} {entry : String × α}
    (h : List.Forall₂ (IsEntry format depth) members entries) (hentry : entry ∈ entries) :
    ∃ member ∈ members, member.1.text = .ok entry.1 := by
  induction h with
  | nil => exact absurd hentry List.not_mem_nil
  | @cons member other members entries hfirst _ ih =>
    rcases List.mem_cons.1 hentry with rfl | hentry
    · exact ⟨member, List.mem_cons_self, hfirst.1⟩
    · obtain ⟨found, hfound, hname⟩ := ih hentry
      exact ⟨found, List.mem_cons_of_mem _ hfound, hname⟩

private theorem entries_replace {before after : List (Quoted × Reading)} {key : Quoted} {value other : Reading}
    {entries : List (String × α)}
    (hother : ∀ result, format.read depth value = .ok result → format.read depth other = .ok result)
    (h : List.Forall₂ (IsEntry format depth) (before ++ (key, value) :: after) entries) :
    List.Forall₂ (IsEntry format depth) (before ++ (key, other) :: after) entries := by
  induction before generalizing entries with
  | nil =>
    cases h with
    | cons hentry hentries => exact .cons ⟨hentry.1, hother _ hentry.2⟩ hentries
  | cons first before ih =>
    cases h with
    | cons hentry hentries => exact .cons hentry (ih hentries)

private theorem names_nodup {entries : List (String × α)} (hmembers : members.Pairwise Reading.DifferInName)
    (h : List.Forall₂ (IsEntry format depth) members entries) : (entries.map Prod.fst).Nodup := by
  induction h with
  | nil => exact List.nodup_nil
  | @cons member entry members entries hentry hentries ih =>
    obtain ⟨hfirst, hmembers⟩ := List.pairwise_cons.1 hmembers
    rw [List.map_cons, List.nodup_cons]
    refine ⟨?_, ih hmembers⟩
    intro hmem
    obtain ⟨other, hother, hname⟩ := List.mem_map.1 hmem
    obtain ⟨found, hfound, htext⟩ := exists_member hentries hother
    rw [hname] at htext
    exact hfirst found hfound entry.1 hentry.1 htext

end NameMap

theorem nameMap_isOrderly {format : Format α} (h : format.IsOrderly) : format.nameMap.IsOrderly where
  isComplete {depth reading map} hread := by
    cases reading with
    | object members ending =>
      obtain ⟨below, entries, -, hentries, -, hending⟩ := nameMap_read_iff.1 hread
      exact Reading.isComplete_object.2 ⟨members_isComplete h hentries, hending⟩
    | _ => exact absurd hread mismatch_ne_ok
  reorders {depth reading reordered map} hreorders hkeys hread := by
    cases hreorders with
    | @members members permuted ending hperm =>
      obtain ⟨below, entries, hbelow, hentries, hmap, hending⟩ := nameMap_read_iff.1 hread
      obtain ⟨others, hothers, hpermuted⟩ := List.perm_comp_forall₂ hperm.symm hentries
      cases hkeys with
      | object hnames hkeys =>
        rw [NameMap.ofList_eq_of_perm (names_nodup hnames hentries) hpermuted.symm] at hmap
        exact nameMap_read_iff.2 ⟨below, others, hbelow, hothers, hmap, hending⟩
    | @member before after key value reordered ending hreorders =>
      obtain ⟨below, entries, hbelow, hentries, hmap, hending⟩ := nameMap_read_iff.1 hread
      cases hkeys with
      | object hnames hkeys =>
        have hvalue := hkeys _ (List.mem_append_right _ List.mem_cons_self)
        have hothers := entries_replace (fun result hread => h.reorders hreorders hvalue hread) hentries
        exact nameMap_read_iff.2 ⟨below, entries, hbelow, hothers, hmap, hending⟩
    | item => exact absurd hread mismatch_ne_ok

end Format

end CallOrder.Json
