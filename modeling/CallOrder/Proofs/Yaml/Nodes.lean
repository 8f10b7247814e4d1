import CallOrder.Yaml.Content
import CallOrder.Yaml.Node
import Mathlib.Data.List.Basic

/-! The nodes that tokens of a YAML text stand for: scalars, lists of scalars, and mappings of them. -/
namespace CallOrder.Yaml.Node

/-- The tokens of a value in a mapping, before another key or the end of the mapping. -/
structure Parses (tokens : List Token) (node : Node) : Prop where
  starts : ∀ rest, endsMappingPart (tokens ++ rest) = false
  parse_eq : ∀ count scope rest, 4 * tokens.length ≤ count → endsMappingPart rest = true →
    parse? count .inMapping scope (tokens ++ rest) = some (node, scope, rest)

section Values
variable {count : ℕ} {position : Position} {scope : Scope} {rest : List Token}

theorem parse?_scalar (hcount : 0 < count) (style : ScalarStyle) (text : List Char) :
    parse? count position scope (.scalar style text :: rest) =
      some (.scalar none none style (String.ofList text), scope, rest) := by
  cases count with
  | zero => cases hcount
  | succ count => simp [parse?, Properties.take]

theorem parses_scalar (style : ScalarStyle) (text : List Char) :
    Parses [.scalar style text] (.scalar none none style (String.ofList text)) where
  starts := fun _ => rfl
  parse_eq := fun count scope rest hcount _ => parse?_scalar (by simp at hcount; omega) style text

theorem parses_emptyList : Parses [.flowSequenceStart, .flowSequenceEnd] (.sequence none []) where
  starts := fun _ => rfl
  parse_eq := by
    intro count scope rest hcount _
    obtain ⟨count, rfl⟩ : ∃ n, count = n + 2 := ⟨count - 2, by simp at hcount; omega⟩
    simp [parse?, Properties.take, parseFlowItems?]

/-- The items of a list without a block of its own. -/
def itemTokens (items : List (ScalarStyle × List Char)) : List Token :=
  items.flatMap fun item => [.blockEntry, .scalar item.1 item.2]

def itemNodes (items : List (ScalarStyle × List Char)) : List Node :=
  items.map fun item => .scalar none none item.1 (String.ofList item.2)

private theorem parseLooseItems?_items (count : ℕ) (scope : Scope) (items : List (ScalarStyle × List Char)) (hcount : items.length + 2 ≤ count)
    (hrest : endsMappingPart rest = true) :
    parseLooseItems? count scope (itemTokens items ++ rest) = some (itemNodes items, scope, rest) := by
  induction items generalizing count with
  | nil =>
    obtain ⟨count, rfl⟩ : ∃ n, count = n + 1 := ⟨count - 1, by omega⟩
    rw [itemTokens, List.flatMap_nil, List.nil_append, parseLooseItems?]
    · rfl
    · rintro rest' rfl
      cases hrest
  | cons item items ih =>
    obtain ⟨count, rfl⟩ : ∃ n, count = n + 1 := ⟨count - 1, by omega⟩
    obtain ⟨count, rfl⟩ : ∃ n, count = n + 1 := ⟨count - 1, by simp at hcount; omega⟩
    have htail := ih (count + 1) (by simp at hcount; omega)
    have hscalar : parse? count .block scope (.scalar item.1 item.2 :: (itemTokens items ++ rest)) =
        some (.scalar none none item.1 (String.ofList item.2), scope, itemTokens items ++ rest) :=
      parse?_scalar (by simp at hcount; omega) item.1 item.2
    have hnode : itemNodes (item :: items) = .scalar none none item.1 (String.ofList item.2) :: itemNodes items := rfl
    have htokens : itemTokens (item :: items) ++ rest =
        .blockEntry :: .scalar item.1 item.2 :: (itemTokens items ++ rest) := rfl
    rw [htokens, parseLooseItems?, parseUnless?]
    simp [endsLooseItem, endsItem, endsMappingPart, hscalar, htail, hnode]

theorem parses_items {items : List (ScalarStyle × List Char)} (hne : items ≠ []) :
    Parses (itemTokens items) (.sequence none (itemNodes items)) where
  starts := by
    cases items with
    | nil => exact absurd rfl hne
    | cons item items => exact fun _ => rfl
  parse_eq := by
    intro count scope rest hcount hrest
    cases items with
    | nil => exact absurd rfl hne
    | cons item items =>
      have hlength : (itemTokens (item :: items)).length = 2 * (items.length + 1) := by
        simp [itemTokens]
        omega
      obtain ⟨count, rfl⟩ : ∃ n, count = n + 1 := ⟨count - 1, by omega⟩
      have hitems := parseLooseItems?_items count scope (item :: items) (by simp; omega) hrest
      have htokens : itemTokens (item :: items) ++ rest =
          .blockEntry :: .scalar item.1 item.2 :: (itemTokens items ++ rest) := rfl
      rw [htokens] at hitems ⊢
      rw [parse?]
      · simp [Properties.take, hitems]
      · simp

end Values

/-- A key with the tokens and the node of its value. -/
structure Entry where
  key : List Char
  tokens : List Token
  node : Node

def Entry.field (entry : Entry) : String × Node := (String.ofList entry.key, entry.node)

def entryTokens (entries : List Entry) : List Token :=
  entries.flatMap fun entry => .key :: .scalar .plain entry.key :: .value :: entry.tokens

/-- The mapping of fields to their values. -/
def ofFields (fields : List (String × Node)) : Node :=
  .mapping none (fields.map fun field => (.scalar none none .plain field.1, field.2))

section Mappings
variable {count : ℕ} {scope : Scope} {rest : List Token} {entries : List Entry}

private theorem parseEntries?_entries (count : ℕ) (scope : Scope) (rest : List Token) (hentries : ∀ entry ∈ entries, Parses entry.tokens entry.node)
    (hcount : 4 * (entryTokens entries).length + 4 ≤ count) :
    parseEntries? count scope (entryTokens entries ++ .blockEnd :: rest) =
      some (entries.map fun entry => (.scalar none none .plain (String.ofList entry.key), entry.node), scope, rest) := by
  induction entries generalizing count with
  | nil =>
    obtain ⟨count, rfl⟩ : ∃ n, count = n + 1 := ⟨count - 1, by omega⟩
    rw [entryTokens, List.flatMap_nil, List.nil_append, parseEntries?]
    rfl
  | cons entry entries ih =>
    obtain ⟨hentry, hrest⟩ := List.forall_mem_cons.1 hentries
    have hlength : (entryTokens (entry :: entries)).length = entry.tokens.length + 3 + (entryTokens entries).length := by
      simp [entryTokens]
      omega
    obtain ⟨count, rfl⟩ : ∃ n, count = n + 3 := ⟨count - 3, by omega⟩
    have hends : endsMappingPart (entryTokens entries ++ .blockEnd :: rest) = true := by
      cases entries <;> rfl
    have hvalue := hentry.parse_eq count scope (entryTokens entries ++ .blockEnd :: rest) (by omega) hends
    have hmore := ih (count + 2) hrest (by omega)
    have htokens : entryTokens (entry :: entries) ++ .blockEnd :: rest = .key :: .scalar .plain entry.key :: .value ::
        (entry.tokens ++ (entryTokens entries ++ .blockEnd :: rest)) := by
      simp [entryTokens]
    have hkey : parseUnless? (count + 2) false .inMapping scope (.scalar .plain entry.key :: .value ::
        (entry.tokens ++ (entryTokens entries ++ .blockEnd :: rest))) =
          some (.scalar none none .plain (String.ofList entry.key), scope,
            .value :: (entry.tokens ++ (entryTokens entries ++ .blockEnd :: rest))) := by
      rw [parseUnless?, if_neg (by decide)]
      exact parse?_scalar (Nat.succ_pos count) .plain entry.key
    have hparsed : parseValue? (count + 2) scope (.value :: (entry.tokens ++ (entryTokens entries ++ .blockEnd :: rest))) =
        some (entry.node, scope, entryTokens entries ++ .blockEnd :: rest) := by
      rw [parseValue?, hentry.starts, parseUnless?, if_neg (by decide)]
      exact hvalue
    rw [htokens, parseEntries?]
    change (parseUnless? (count + 2) false .inMapping scope _).bind _ = _
    rw [hkey]
    change (parseValue? (count + 2) scope _).bind _ = _
    rw [hparsed]
    change (parseEntries? (count + 2) scope _).bind _ = _
    rw [hmore]
    rfl

theorem parse?_mapping (hentries : ∀ entry ∈ entries, Parses entry.tokens entry.node)
    (hcount : 4 * (entryTokens entries).length + 8 ≤ count) {position : Position} (hposition : position ≠ .flow) :
    parse? count position scope (.blockMappingStart :: (entryTokens entries ++ .blockEnd :: rest)) =
      some (ofFields (entries.map Entry.field), scope, rest) := by
  obtain ⟨count, rfl⟩ : ∃ n, count = n + 1 := ⟨count - 1, by omega⟩
  have hparsed := parseEntries?_entries count scope rest hentries (by omega)
  rw [parse?]
  · simp [Properties.take, hposition, hparsed, ofFields, Entry.field, Function.comp_def]
  · simp

theorem parses_mapping (hentries : ∀ entry ∈ entries, Parses entry.tokens entry.node) :
    Parses (.blockMappingStart :: (entryTokens entries ++ [.blockEnd])) (ofFields (entries.map Entry.field)) where
  starts := fun _ => rfl
  parse_eq := by
    intro count scope rest hcount _
    rw [List.cons_append, List.append_assoc, List.singleton_append]
    exact parse?_mapping hentries (by simp at hcount; omega) (by decide)

theorem ofTokens?_mapping (hentries : ∀ entry ∈ entries, Parses entry.tokens entry.node) :
    ofTokens? (.blockMappingStart :: (entryTokens entries ++ [.blockEnd, .streamEnd])) =
      some (ofFields (entries.map Entry.field)) := by
  obtain ⟨tokens, htokens⟩ : ∃ tokens, tokens = Token.blockMappingStart :: (entryTokens entries ++ [.blockEnd, .streamEnd]) :=
    ⟨_, rfl⟩
  have hdocument : ofTokens? tokens = onlyDocument? (parse? (4 * tokens.length + 4) .block {} tokens) := by
    simp [ofTokens?, htokens]
  have hparsed : parse? (4 * tokens.length + 4) .block {} tokens =
      some (ofFields (entries.map Entry.field), {}, [.streamEnd]) := by
    rw [htokens]
    exact parse?_mapping hentries (by simp; omega) (by decide)
  rw [← htokens, hdocument, hparsed]
  rfl

end Mappings

private theorem mapM_eq_map {α β : Type} {f : α → Option β} {g : α → β} {xs : List α} (h : ∀ x ∈ xs, f x = some (g x)) :
    xs.mapM f = some (xs.map g) := by
  induction xs with
  | nil => rfl
  | cons x xs ih =>
    obtain ⟨hx, hxs⟩ := List.forall_mem_cons.1 h
    simp [hx, ih hxs]

section Fields
variable {fields : List (String × Node)}

private theorem filter_field (hnodup : (fields.map Prod.fst).Nodup) {field : String × Node} (hfield : field ∈ fields) :
    fields.filter (fun entry => entry.1 = field.1) = [field] := by
  induction fields with
  | nil => cases hfield
  | cons first fields ih =>
    obtain ⟨hfirst, hrest⟩ := List.nodup_cons.1 hnodup
    rcases List.mem_cons.1 hfield with rfl | hfield
    · have hnone : fields.filter (fun entry => entry.1 = field.1) = [] := by
        refine List.filter_eq_nil_iff.2 fun entry hentry => ?_
        rw [decide_eq_true_eq]
        exact fun heq => hfirst (heq ▸ List.mem_map_of_mem hentry)
      rw [List.filter_cons_of_pos (by simp), hnone]
    · have hne : first.1 ≠ field.1 := fun heq => hfirst (heq ▸ List.mem_map_of_mem hfield)
      rw [List.filter_cons_of_neg (by simpa using hne), ih hrest hfield]

/-- A mapping of fields has the values of these, if no field is there twice. -/
theorem fieldsIn?_ofFields (document : Node) (fields : List (String × Node)) (hnodup : (fields.map Prod.fst).Nodup) :
    fieldsIn? document (ofFields fields) (fields.map Prod.fst) = some (fields.map fun field => some field.2) := by
  have hnamed : (fields.map fun field : String × Node => (scalar none none .plain field.1, field.2)).mapM
      (fun entry => (text? document entry.1).map (·, entry.2)) = some fields := by
    rw [List.mapM_map]
    exact (mapM_eq_map fun _ _ => rfl).trans (by rw [List.map_id'])
  rw [fieldsIn?]
  change (((fields.map fun field : String × Node => (scalar none none .plain field.1, field.2)).mapM
    (fun entry => (text? document entry.1).map (·, entry.2))).bind _) = _
  rw [hnamed, Option.bind_some, List.mapM_map]
  refine mapM_eq_map fun field hfield => ?_
  rw [Function.comp_apply, filter_field hnodup hfield]

theorem texts?_items (document : Node) (items : List (ScalarStyle × List Char)) :
    texts? document (.sequence none (itemNodes items)) = some (items.map fun item => String.ofList item.2) := by
  have hitems : (itemNodes items).mapM (text? document) = some (items.map fun item => String.ofList item.2) := by
    rw [itemNodes, List.mapM_map]
    exact mapM_eq_map fun _ _ => rfl
  exact hitems

end Fields

end CallOrder.Yaml.Node
