import CallOrder.Json.Reading
import CallOrder.Proofs.Json.Spelling

/-! Readings without a flaw. They are the values that the grammar of JSON knows: such a reading has tokens of its own,
which are read as the reading before any other tokens, and no other tokens are. -/
namespace CallOrder.Json

/-- Puts commas between runs of tokens. -/
def Token.joinCommas : List (List Token) → List Token
  | [] => []
  | [tokens] => tokens
  | tokens :: rest => tokens ++ .comma :: joinCommas rest

theorem Token.joinCommas_cons {run next : List Token} (runs : List (List Token)) :
    joinCommas (run :: next :: runs) = run ++ .comma :: joinCommas (next :: runs) := rfl

theorem Token.mem_joinCommas {token : Token} {runs : List (List Token)} (h : token ∈ joinCommas runs) :
    token = .comma ∨ ∃ run ∈ runs, token ∈ run := by
  induction runs with
  | nil => exact absurd h List.not_mem_nil
  | cons run runs ih =>
    cases runs with
    | nil => exact .inr ⟨run, List.mem_cons_self, h⟩
    | cons next runs =>
      rw [joinCommas_cons, List.mem_append, List.mem_cons] at h
      rcases h with h | rfl | h
      · exact .inr ⟨run, List.mem_cons_self, h⟩
      · exact .inl rfl
      · rcases ih h with rfl | ⟨other, hother, h⟩
        · exact .inl rfl
        · exact .inr ⟨other, List.mem_cons_of_mem _ hother, h⟩

namespace Reading

/-- Nothing in the reading is cut off or misspelled. -/
inductive IsComplete : Reading → Prop where
  | word (w : Word) : IsComplete (.word w)
  | number {n : Numeral} (h : n.ending = .complete) : IsComplete (.number n)
  | string {q : Quoted} (h : q.ending = .closed) : IsComplete (.string q)
  | list {items : List Reading} (h : ∀ item ∈ items, IsComplete item) : IsComplete (.list items .closed)
  | object {members : List (Quoted × Reading)} (hkeys : ∀ member ∈ members, member.1.ending = .closed)
      (h : ∀ member ∈ members, IsComplete member.2) : IsComplete (.object members .closed)

theorem isComplete_list {items : List Reading} {ending : ListEnd} :
    (Reading.list items ending).IsComplete ↔ (∀ item ∈ items, item.IsComplete) ∧ ending = .closed := by
  constructor
  · intro h
    cases h with
    | list h => exact ⟨h, rfl⟩
  · rintro ⟨h, rfl⟩
    exact .list h

theorem isComplete_object {members : List (Quoted × Reading)} {ending : ObjectEnd} :
    (Reading.object members ending).IsComplete ↔
      (∀ member ∈ members, member.1.ending = .closed ∧ member.2.IsComplete) ∧ ending = .closed := by
  constructor
  · intro h
    cases h with
    | object hkeys h => exact ⟨fun member hmember => ⟨hkeys member hmember, h member hmember⟩, rfl⟩
  · rintro ⟨h, rfl⟩
    exact .object (fun member hmember => (h member hmember).1) fun member hmember => (h member hmember).2

mutual

/-- The tokens that are read as a reading, if it is complete. -/
def tokens : Reading → List Token
  | .word w => [.word w]
  | .number n => [.number n]
  | .string q => [.string q]
  | .list items _ => .openList :: Token.joinCommas (itemTokens items) ++ [.closeList]
  | .object members _ => .openObject :: Token.joinCommas (memberTokens members) ++ [.closeObject]
  | .flaw _ => []

def itemTokens : List Reading → List (List Token)
  | [] => []
  | item :: rest => tokens item :: itemTokens rest

def memberTokens : List (Quoted × Reading) → List (List Token)
  | [] => []
  | (key, value) :: rest => (.string key :: .colon :: tokens value) :: memberTokens rest

end

section Tokens
variable {reading item : Reading} {items : List Reading} {members : List (Quoted × Reading)}

theorem IsComplete.tokens_eq_cons (h : reading.IsComplete) :
    ∃ token rest, reading.tokens = token :: rest ∧ token ≠ .closeList := by
  cases h <;> exact ⟨_, _, rfl, nofun⟩

theorem IsComplete.joinCommas_itemTokens (h : item.IsComplete) (items : List Reading) :
    ∃ token rest, Token.joinCommas (itemTokens (item :: items)) = token :: rest ∧ token ≠ .closeList := by
  obtain ⟨token, rest, htokens, hne⟩ := h.tokens_eq_cons
  cases items with
  | nil => exact ⟨token, rest, htokens, hne⟩
  | cons next items => exact ⟨token, _, by rw [itemTokens, itemTokens, Token.joinCommas_cons, htokens]; rfl, hne⟩

theorem joinCommas_memberTokens (key : Quoted) (value : Reading) (members : List (Quoted × Reading)) :
    ∃ rest, Token.joinCommas (memberTokens ((key, value) :: members)) = .string key :: rest := by
  cases members <;> exact ⟨_, rfl⟩

end Tokens

section Read
variable {count : ℕ} {reading : Reading} {key next : Quoted} {token : Token} {tokens rest : List Token}

private theorem readValue_openList (h : token ≠ .closeList) :
    readValue (count + 1) (.openList :: token :: tokens) =
      (.list (readItems count (token :: tokens)).1 (readItems count (token :: tokens)).2.1,
        (readItems count (token :: tokens)).2.2) := by
  rw [readValue]
  · exact nofun
  · exact fun _ h' => h (List.cons.inj h').1

private theorem readItems_last (h : readValue count tokens = (reading, .closeList :: rest)) :
    readItems (count + 1) tokens = ([reading], .closed, rest) := by
  rw [readItems, h]

private theorem readItems_more (h : readValue count tokens = (reading, .comma :: token :: rest))
    (htoken : token ≠ .closeList) :
    readItems (count + 1) tokens =
      (reading :: (readItems count (token :: rest)).1, (readItems count (token :: rest)).2) := by
  rw [readItems, h]
  cases token <;> first | rfl | exact absurd rfl htoken

private theorem readMembers_last (h : readValue count tokens = (reading, .closeObject :: rest)) :
    readMembers (count + 1) key (.colon :: tokens) = ([(key, reading)], .closed, rest) := by
  rw [readMembers, h]

private theorem readMembers_more (h : readValue count tokens = (reading, .comma :: .string next :: rest)) :
    readMembers (count + 1) key (.colon :: tokens) =
      ((key, reading) :: (readMembers count next rest).1, (readMembers count next rest).2) := by
  rw [readMembers, h]

/-- Whether the tokens of a reading are read as it, whatever follows them. -/
private def IsRead (reading : Reading) : Prop :=
  ∀ count rest, 2 * reading.tokens.length ≤ count → readValue count (reading.tokens ++ rest) = (reading, rest)

private theorem readItems_tokens {item : Reading} {items : List Reading} (hcomplete : ∀ r ∈ item :: items, r.IsComplete)
    (h : ∀ r ∈ item :: items, IsRead r) (count : ℕ) (rest : List Token)
    (hcount : 2 * (Token.joinCommas (itemTokens (item :: items))).length < count) :
    readItems count (Token.joinCommas (itemTokens (item :: items)) ++ .closeList :: rest) =
      (item :: items, .closed, rest) := by
  induction items generalizing item count with
  | nil =>
    obtain ⟨count, rfl⟩ := Nat.exists_eq_succ_of_ne_zero (Nat.ne_zero_of_lt hcount)
    have hlength : 2 * item.tokens.length ≤ count := by
      simpa [itemTokens, Token.joinCommas] using Nat.le_of_lt_succ hcount
    exact readItems_last (h item List.mem_cons_self count _ hlength)
  | cons next items ih =>
    obtain ⟨count, rfl⟩ := Nat.exists_eq_succ_of_ne_zero (Nat.ne_zero_of_lt hcount)
    have htokens : Token.joinCommas (itemTokens (item :: next :: items)) =
        item.tokens ++ .comma :: Token.joinCommas (itemTokens (next :: items)) := rfl
    rw [htokens] at hcount ⊢
    simp only [List.length_append, List.length_cons] at hcount
    have hmore := ih (fun r hr => hcomplete r (List.mem_cons_of_mem _ hr))
      (fun r hr => h r (List.mem_cons_of_mem _ hr)) count (by omega)
    obtain ⟨token, more, hhead, htoken⟩ :=
      (hcomplete next (List.mem_cons_of_mem _ List.mem_cons_self)).joinCommas_itemTokens items
    rw [hhead, List.cons_append] at hmore
    rw [hhead, List.append_assoc, List.cons_append, List.cons_append,
      readItems_more (h item List.mem_cons_self count _ (by omega)) htoken, hmore]

private theorem readMembers_tokens {value : Reading} {members : List (Quoted × Reading)}
    (h : ∀ member ∈ (key, value) :: members, IsRead member.2) (count : ℕ) (rest : List Token)
    (hcount : 2 * (Token.joinCommas (memberTokens ((key, value) :: members))).length < count) :
    readMembers count key ((Token.joinCommas (memberTokens ((key, value) :: members))).tail ++ .closeObject :: rest) =
      ((key, value) :: members, .closed, rest) := by
  induction members generalizing key value count with
  | nil =>
    obtain ⟨count, rfl⟩ := Nat.exists_eq_succ_of_ne_zero (Nat.ne_zero_of_lt hcount)
    have htokens : Token.joinCommas (memberTokens [(key, value)]) = .string key :: .colon :: value.tokens := rfl
    rw [htokens] at hcount ⊢
    simp only [List.length_cons] at hcount
    have hvalue : 2 * value.tokens.length ≤ count := by omega
    exact readMembers_last (h (key, value) List.mem_cons_self count _ hvalue)
  | cons member members ih =>
    obtain ⟨next, value'⟩ := member
    obtain ⟨count, rfl⟩ := Nat.exists_eq_succ_of_ne_zero (Nat.ne_zero_of_lt hcount)
    have htokens : Token.joinCommas (memberTokens ((key, value) :: (next, value') :: members)) =
        .string key :: .colon :: value.tokens ++
          .comma :: Token.joinCommas (memberTokens ((next, value') :: members)) := rfl
    rw [htokens] at hcount ⊢
    simp only [List.length_append, List.length_cons] at hcount
    have hmore := ih (fun member hmember => h member (List.mem_cons_of_mem _ hmember)) count (by omega)
    obtain ⟨more, hhead⟩ := joinCommas_memberTokens next value' members
    have hvalue : 2 * value.tokens.length ≤ count := by omega
    rw [hhead, List.tail_cons] at hmore
    rw [hhead, List.cons_append, List.tail_cons, List.append_assoc, List.cons_append, List.cons_append,
      List.cons_append, readMembers_more (h (key, value) List.mem_cons_self count _ hvalue), hmore]

private theorem IsComplete.exists_succ (h : reading.IsComplete) (hcount : 2 * reading.tokens.length ≤ count) :
    ∃ n, count = n + 1 := by
  obtain ⟨token, more, htokens, -⟩ := h.tokens_eq_cons
  rw [htokens, List.length_cons] at hcount
  exact ⟨count - 1, by omega⟩

private theorem IsComplete.isRead (h : reading.IsComplete) : IsRead reading := by
  induction h with
  | word | number | string =>
    intro count rest hcount
    cases count with
    | zero => cases hcount
    | succ count => rfl
  | @list items hitems ih =>
    intro count rest hcount
    obtain ⟨count, rfl⟩ := (IsComplete.list hitems).exists_succ hcount
    cases items with
    | nil => rfl
    | cons item items =>
      have htokens : (Reading.list (item :: items) .closed).tokens =
          .openList :: Token.joinCommas (itemTokens (item :: items)) ++ [.closeList] := rfl
      rw [htokens] at hcount ⊢
      simp only [List.length_append, List.length_cons, List.length_nil] at hcount
      have hall := readItems_tokens hitems ih count rest (by omega)
      obtain ⟨token, more, hhead, htoken⟩ := (hitems item List.mem_cons_self).joinCommas_itemTokens items
      rw [hhead, List.cons_append] at hall
      rw [hhead, List.append_assoc, List.cons_append, List.cons_append, List.singleton_append,
        readValue_openList htoken, hall]
  | @object members hkeys hmembers ih =>
    intro count rest hcount
    obtain ⟨count, rfl⟩ := (IsComplete.object hkeys hmembers).exists_succ hcount
    cases members with
    | nil => rfl
    | cons member members =>
      obtain ⟨key, value⟩ := member
      have htokens : (Reading.object ((key, value) :: members) .closed).tokens =
          .openObject :: Token.joinCommas (memberTokens ((key, value) :: members)) ++ [.closeObject] := rfl
      rw [htokens] at hcount ⊢
      simp only [List.length_append, List.length_cons, List.length_nil] at hcount
      have hall := readMembers_tokens ih count rest (by omega)
      obtain ⟨more, hhead⟩ := joinCommas_memberTokens key value members
      rw [hhead, List.tail_cons] at hall
      rw [hhead, List.append_assoc, List.cons_append, List.cons_append, List.singleton_append, readValue, hall]

/-- The tokens of a complete reading are read as it, whatever follows them. -/
theorem IsComplete.readValue_tokens (h : reading.IsComplete) (count : ℕ) (rest : List Token)
    (hcount : 2 * reading.tokens.length ≤ count) : readValue count (reading.tokens ++ rest) = (reading, rest) :=
  h.isRead count rest hcount

end Read

section Consumed
variable {count : ℕ} {key : Quoted} {tokens rest : List Token} {items : List Reading} {members : List (Quoted × Reading)}

/-- What a list that is closed goes through. -/
private theorem readItems_closed (h : readItems (count + 1) tokens = (items, .closed, rest)) :
    ∃ item after, readValue count tokens = (item, after) ∧
      (items = [item] ∧ after = .closeList :: rest ∨
        ∃ more others, after = .comma :: more ∧ readItems count more = (others, .closed, rest) ∧ items = item :: others) := by
  rw [readItems] at h
  generalize readValue count tokens = read at h ⊢
  obtain ⟨item, after⟩ := read
  refine ⟨item, after, rfl, ?_⟩
  simp only at h
  split at h
  · cases h
  · cases h
    exact .inl ⟨rfl, rfl⟩
  · cases h
  · cases h
  · obtain ⟨rfl, hmore⟩ := Prod.mk.inj h
    exact .inr ⟨_, _, rfl, Prod.ext rfl hmore, rfl⟩
  · cases h

private theorem readMembers_closed (h : readMembers (count + 1) key tokens = (members, .closed, rest)) :
    ∃ value more after, tokens = .colon :: more ∧ readValue count more = (value, after) ∧
      (members = [(key, value)] ∧ after = .closeObject :: rest ∨
        ∃ next more others, after = .comma :: .string next :: more ∧
          readMembers count next more = (others, .closed, rest) ∧ members = (key, value) :: others) := by
  cases tokens with
  | nil => cases h
  | cons token tokens =>
    cases token with
    | colon =>
      rw [readMembers] at h
      generalize hread : readValue count tokens = read at h
      obtain ⟨value, after⟩ := read
      refine ⟨value, tokens, after, rfl, hread, ?_⟩
      simp only at h
      split at h
      · cases h
      · cases h
        exact .inl ⟨rfl, rfl⟩
      · cases h
      · cases h
      · obtain ⟨rfl, hmore⟩ := Prod.mk.inj h
        exact .inr ⟨_, _, _, rfl, Prod.ext rfl hmore, rfl⟩
      · cases h
      · cases h
    | _ => cases h

/-- What was consumed of the tokens, when what was read is complete, are the tokens of what was read. -/
private def ConsumesValue (count : ℕ) : Prop :=
  ∀ ⦃tokens reading rest⦄, readValue count tokens = (reading, rest) → reading.IsComplete →
    tokens = reading.tokens ++ rest

private def ConsumesItems (count : ℕ) : Prop :=
  ∀ ⦃tokens items rest⦄, readItems count tokens = (items, .closed, rest) → (∀ item ∈ items, item.IsComplete) →
    items ≠ [] ∧ tokens = Token.joinCommas (itemTokens items) ++ .closeList :: rest

private def ConsumesMembers (count : ℕ) : Prop :=
  ∀ ⦃key tokens members rest⦄, readMembers count key tokens = (members, .closed, rest) →
    (∀ member ∈ members, member.2.IsComplete) →
    members ≠ [] ∧ .string key :: tokens = Token.joinCommas (memberTokens members) ++ .closeObject :: rest

private theorem consumesItems_succ (hvalue : ConsumesValue count) (hitems : ConsumesItems count) :
    ConsumesItems (count + 1) := by
  intro tokens items rest h hcomplete
  obtain ⟨item, after, hread, ⟨rfl, rfl⟩ | ⟨more, others, rfl, hmore, rfl⟩⟩ := readItems_closed h
  · exact ⟨List.cons_ne_nil _ _, hvalue hread (hcomplete item List.mem_cons_self)⟩
  · obtain ⟨hne, rfl⟩ := hitems hmore fun other hother => hcomplete other (List.mem_cons_of_mem _ hother)
    obtain ⟨next, others, rfl⟩ := List.exists_cons_of_ne_nil hne
    have htokens : Token.joinCommas (itemTokens (item :: next :: others)) =
        item.tokens ++ .comma :: Token.joinCommas (itemTokens (next :: others)) := rfl
    refine ⟨List.cons_ne_nil _ _, ?_⟩
    rw [hvalue hread (hcomplete item List.mem_cons_self), htokens, List.append_assoc, List.cons_append]

private theorem consumesMembers_succ (hvalue : ConsumesValue count) (hmembers : ConsumesMembers count) :
    ConsumesMembers (count + 1) := by
  intro key tokens members rest h hcomplete
  obtain ⟨value, tokens, after, rfl, hread, ⟨rfl, rfl⟩ | ⟨next, more, others, rfl, hmore, rfl⟩⟩ := readMembers_closed h
  · refine ⟨List.cons_ne_nil _ _, ?_⟩
    rw [hvalue hread (hcomplete _ List.mem_cons_self)]
    rfl
  · obtain ⟨hne, hnext⟩ := hmembers hmore fun other hother => hcomplete other (List.mem_cons_of_mem _ hother)
    obtain ⟨⟨other, value'⟩, others, rfl⟩ := List.exists_cons_of_ne_nil hne
    have htokens : Token.joinCommas (memberTokens ((key, value) :: (other, value') :: others)) =
        .string key :: .colon :: value.tokens ++ .comma :: Token.joinCommas (memberTokens ((other, value') :: others)) := rfl
    refine ⟨List.cons_ne_nil _ _, ?_⟩
    rw [hvalue hread (hcomplete _ List.mem_cons_self), hnext, htokens]
    simp only [List.append_assoc, List.cons_append]

private theorem consumes_list (hitems : ConsumesItems count) {reading : Reading}
    (h : readValue (count + 1) (.openList :: tokens) = (reading, rest)) (hcomplete : reading.IsComplete) :
    .openList :: tokens = reading.tokens ++ rest := by
  cases tokens with
  | nil =>
    cases h
    cases hcomplete
  | cons token tokens =>
    by_cases htoken : token = .closeList
    · subst htoken
      cases h
      rfl
    · rw [readValue_openList htoken] at h
      generalize hread : readItems count (token :: tokens) = read at h
      obtain ⟨items, ending, after⟩ := read
      cases h
      cases hcomplete with
      | list hcomplete =>
        obtain ⟨-, htokens⟩ := hitems hread hcomplete
        rw [htokens, Reading.tokens, List.append_assoc, List.cons_append, List.singleton_append]

private theorem consumes_object (hmembers : ConsumesMembers count) {reading : Reading}
    (h : readValue (count + 1) (.openObject :: tokens) = (reading, rest)) (hcomplete : reading.IsComplete) :
    .openObject :: tokens = reading.tokens ++ rest := by
  cases tokens with
  | nil =>
    cases h
    cases hcomplete
  | cons token tokens =>
    cases token with
    | closeObject =>
      cases h
      rfl
    | string key =>
      rw [readValue] at h
      generalize hread : readMembers count key tokens = read at h
      obtain ⟨members, ending, after⟩ := read
      cases h
      cases hcomplete with
      | object hkeys hcomplete =>
        obtain ⟨-, htokens⟩ := hmembers hread hcomplete
        rw [htokens, Reading.tokens, List.append_assoc, List.cons_append, List.singleton_append]
    | _ =>
      cases h
      cases hcomplete

private theorem consumesValue_succ (hitems : ConsumesItems count) (hmembers : ConsumesMembers count) :
    ConsumesValue (count + 1) := by
  intro tokens reading rest h hcomplete
  cases tokens with
  | nil =>
    cases h
    cases hcomplete
  | cons token tokens =>
    cases token with
    | word | number | string =>
      cases h
      rfl
    | openList => exact consumes_list hitems h hcomplete
    | openObject => exact consumes_object hmembers h hcomplete
    | _ =>
      cases h
      cases hcomplete

-- A step consumes a token or is followed by one that does, so all three go down together.
private theorem consumes (count : ℕ) : ConsumesValue count ∧ ConsumesItems count ∧ ConsumesMembers count := by
  induction count with
  | zero =>
    refine ⟨?_, ?_, ?_⟩
    · intro tokens reading rest h hcomplete
      cases h
      cases hcomplete
    · intro tokens items rest h
      cases h
    · intro key tokens members rest h
      cases h
  | succ count ih =>
    obtain ⟨hvalue, hitems, hmembers⟩ := ih
    exact ⟨consumesValue_succ hitems hmembers, consumesItems_succ hvalue hitems, consumesMembers_succ hvalue hmembers⟩

end Consumed

section Text
variable {reading : Reading} {text : String}

theorem itemTokens_eq (items : List Reading) : itemTokens items = items.map tokens := by
  induction items with
  | nil => rfl
  | cons item items ih => rw [itemTokens, ih, List.map_cons]

theorem memberTokens_eq (members : List (Quoted × Reading)) :
    memberTokens members = members.map fun (key, value) => .string key :: .colon :: value.tokens := by
  induction members with
  | nil => rfl
  | cons member members ih => rw [memberTokens, ih, List.map_cons]

private theorem isLast_joinCommas {runs : List (List Token)} (h : ∀ run ∈ runs, ∀ token ∈ run, token.isLast = false) :
    ∀ token ∈ Token.joinCommas runs, token.isLast = false := by
  intro token htoken
  rcases Token.mem_joinCommas htoken with rfl | ⟨run, hrun, htoken⟩
  · rfl
  · exact h run hrun token htoken

/-- No token of a complete reading has a fault. -/
theorem IsComplete.isLast (h : reading.IsComplete) : ∀ token ∈ reading.tokens, token.isLast = false := by
  induction h with
  | word w =>
    rw [tokens, List.forall_mem_singleton]
    rfl
  | number h | string h =>
    rw [tokens, List.forall_mem_singleton, Token.isLast, h]
    rfl
  | @list items hitems ih =>
    rw [tokens, itemTokens_eq, List.cons_append, List.forall_mem_cons, List.forall_mem_append, List.forall_mem_singleton]
    refine ⟨rfl, isLast_joinCommas ?_, rfl⟩
    exact List.forall_mem_map.2 ih
  | @object members hkeys hmembers ih =>
    rw [tokens, memberTokens_eq, List.cons_append, List.forall_mem_cons, List.forall_mem_append, List.forall_mem_singleton]
    refine ⟨rfl, isLast_joinCommas (List.forall_mem_map.2 fun member hmember => ?_), rfl⟩
    rw [List.forall_mem_cons, List.forall_mem_cons, Token.isLast, hkeys member hmember]
    exact ⟨rfl, rfl, ih member hmember⟩

/-- A text that spells the tokens of a complete reading is read as it. -/
theorem IsComplete.ofText_eq (h : reading.IsComplete) (htext : Token.IsTokenText reading.tokens text.toList) :
    ofText text = (reading, false) := by
  have htokens := Token.ofText_eq htext
  have hread := h.readValue_tokens (2 * reading.tokens.length + 1) [] (by omega)
  rw [List.append_nil] at hread
  simp only [ofText, htokens, hread]
  rfl

/-- A text that is read as a complete reading, and does not go on, spells the tokens of the reading. -/
theorem IsComplete.isTokenText (h : reading.IsComplete) (htext : ofText text = (reading, false)) :
    Token.IsTokenText reading.tokens text.toList := by
  rw [ofText, Prod.mk.injEq, Bool.not_eq_false', List.isEmpty_iff] at htext
  have htokens := (consumes _).1 (Prod.ext htext.1 htext.2) h
  rw [List.append_nil] at htokens
  rw [← htokens]
  apply Token.isTokenText_ofText
  rw [htokens]
  exact h.isLast

end Text

end Reading

end CallOrder.Json
