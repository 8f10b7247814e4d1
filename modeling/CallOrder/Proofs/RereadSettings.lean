import CallOrder.Proofs.WrittenSettings

/-! Settings that were written are read back, with stop tokens of any text and any threshold but one that is no number. -/
namespace CallOrder.Settings
open Yaml

section Nodes
variable (document : Node)

private theorem size?_digitsOf (n : UInt64) :
    Node.size? document (.scalar none none .plain (String.ofList (Decimal.digitsOf n.toNat))) = some n := by
  have hmeaning : Node.meaningful? "int" document (.scalar none none .plain (String.ofList (Decimal.digitsOf n.toNat))) =
      some (Decimal.digitsOf n.toNat) := by
    simp [Node.meaningful?, Node.follow?]
  have hsize : n.toNat < UInt64.size := n.toNat_lt
  simp [Node.size?, hmeaning, unsignedOf?_digitsOf, hsize]

private theorem flag?_flagText (flag : Bool) :
    Node.flag? document (.scalar none none .plain (String.ofList (flagText flag))) = some flag := by
  cases flag <;> rfl

private theorem texts?_stopItems (tokens : List String) :
    Node.texts? document (.sequence none (Node.itemNodes (stopItems tokens))) = some tokens := by
  have hsame : (stopItems tokens).map (fun item => String.ofList item.2) = tokens := by
    rw [stopItems, List.map_map]
    exact (List.map_congr_left fun token _ => String.ofList_toList).trans (List.map_id tokens)
  rw [Node.texts?_items, hsame]

private theorem policy_reads (policy : MorphemePolicy) :
    MorphemePolicy.ofNode? document (Node.ofFields [
      ("min_token_len", .scalar none none .plain (String.ofList (Decimal.digitsOf policy.minTokenLength.toNat))),
      ("keep_numeric_tokens", .scalar none none .plain (String.ofList (flagText policy.keepNumericTokens))),
      ("stop_tokens", .sequence none (Node.itemNodes (stopItems policy.stopTokens)))]) = some policy := by
  have hfields := Node.fieldsIn?_ofFields document [
      ("min_token_len", .scalar none none .plain (String.ofList (Decimal.digitsOf policy.minTokenLength.toNat))),
      ("keep_numeric_tokens", .scalar none none .plain (String.ofList (flagText policy.keepNumericTokens))),
      ("stop_tokens", .sequence none (Node.itemNodes (stopItems policy.stopTokens)))] (by simp)
  simp only [List.map_cons, List.map_nil] at hfields
  simp [MorphemePolicy.ofNode?, hfields, Node.fieldOr?, size?_digitsOf, flag?_flagText, texts?_stopItems]

theorem thresholdOfNode?_scalar {value : List Char} {x : Float} (h : realOf? value = some x) :
    thresholdOfNode? document (Node.ofFields [("threshold", .scalar none none .plain (String.ofList value))]) = some x := by
  have hfields := Node.fieldsIn?_ofFields document
    [("threshold", .scalar none none .plain (String.ofList value))] (by simp)
  simp only [List.map_cons, List.map_nil] at hfields
  simp [thresholdOfNode?, hfields, Node.fieldOr?, Node.real?, Node.meaningful?, Node.follow?, h]

private theorem threads_read (threads : Option UInt64) :
    maxThreadsOfNode? document (Node.ofFields [
      ("max_threads", .scalar none none .plain (String.ofList (threadsText threads)))]) = some threads := by
  have hfields := Node.fieldsIn?_ofFields document [
      ("max_threads", .scalar none none .plain (String.ofList (threadsText threads)))] (by simp)
  simp only [List.map_cons, List.map_nil] at hfields
  have hread : Node.optional? (Node.size? document) document (.scalar none none .plain (String.ofList (threadsText threads))) =
      some threads := by
    cases threads with
    | none => rfl
    | some n =>
      -- A word that says that there is no number has no digits.
      have hnull : isNull (Decimal.digitsOf n.toNat) = false := by
        have hwords : ∀ word ∈ ["~".toList, "null".toList, "Null".toList, "NULL".toList], word.all Decimal.isDigit = false := by
          decide
        rw [← Bool.not_eq_true]
        intro hnull
        have hword : Decimal.digitsOf n.toNat ∈ ["~".toList, "null".toList, "Null".toList, "NULL".toList] := by
          simpa [isNull, or_assoc] using hnull
        exact absurd (List.all_eq_true.2 (Decimal.digitsOf_isDigits n.toNat).all) (by simp [hwords _ hword])
      have hempty : Decimal.digitsOf n.toNat ≠ [] := (Decimal.digitsOf_isDigits _).ne_nil
      simp [threadsText, Node.optional?, Node.follow?, hnull, hempty, size?_digitsOf]
  simp [maxThreadsOfNode?, hfields, Node.fieldOr?, hread]

/-- The node of written settings stands for these settings. -/
private theorem ofNode?_entries {settings : Settings} (hthreshold : settings.threshold.isNaN = false) :
    ofNode? (Node.ofFields (settings.entries.map Node.Entry.field)) = some settings := by
  have hnames : (settings.entries.map Node.Entry.field).map Prod.fst = ["morphemes", "search", "scan"] := by
    simp [entries, sectionEntry, Node.Entry.field]
  have hfields := Node.fieldsIn?_ofFields (Node.ofFields (settings.entries.map Node.Entry.field))
    (settings.entries.map Node.Entry.field) (by rw [hnames]; decide)
  rw [hnames] at hfields
  have hpolicy := policy_reads (Node.ofFields (settings.entries.map Node.Entry.field)) settings.policy
  have hexplicit : yamlNotation.IsExplicit := ⟨rfl, .inl rfl⟩
  have hreal := thresholdOfNode?_scalar (Node.ofFields (settings.entries.map Node.Entry.field))
    (real_reads hexplicit rfl hthreshold).1
  have hthreads := threads_read (Node.ofFields (settings.entries.map Node.Entry.field)) settings.maxThreads
  rw [ofNode?]
  generalize Node.ofFields (settings.entries.map Node.Entry.field) = document at *
  simp [entries, sectionEntry, plainEntry, stopEntry, Node.Entry.field] at hfields
  simp [hfields, Node.fieldOr?, hpolicy, hreal, hthreads]

end Nodes

/-- A text that was written as bytes is the text that is read. -/
theorem decodeFile_toUTF8 (text : String) : decodeFile text.toUTF8 = .ok text := by
  have hdecoded : String.fromUTF8? text.toUTF8 = some text := by
    rw [String.fromUTF8?]
    exact dif_pos text.isValidUTF8
  rw [decodeFile, hdecoded]

/-- A file with the text of a node that stands for settings has these settings. -/
private theorem load_toUTF8 {text : String} {node : Node} {settings : Settings} (hnode : Node.ofText? text = some node)
    (hsettings : ofNode? node = some settings) (path : String) : load path (.ok text.toUTF8) = .ok settings := by
  have htext : (Except.ok text.toUTF8).bind decodeFile = .ok text := decodeFile_toUTF8 text
  rw [load, htext]
  simp only [ofYaml, hnode, Option.bind_some, hsettings]

/-- Settings that were written to a file are read from it, valid or not, and are as valid as before. -/
theorem load_toYaml (settings : Settings) (path : String) (hthreshold : settings.threshold.isNaN = false) :
    load path (.ok settings.toYaml.toUTF8) = .ok settings ∧
      (load path (.ok settings.toYaml.toUTF8)).bind check = settings.check := by
  have hload : load path (.ok settings.toYaml.toUTF8) = .ok settings :=
    load_toUTF8 (ofText?_toYaml settings hthreshold) (ofNode?_entries hthreshold) path
  exact ⟨hload, congrArg (Except.bind · check) hload⟩

/-- Settings that are not valid, with stop tokens that are written in every style. -/
def adverse : Settings where
  policy := {
    minTokenLength := 0
    keepNumericTokens := true
    stopTokens := ["x", "", "null", "1.0", "- a: b #c", "it's", "\u2028", "\x00\n", "a\n  b\n\n"] }
  threshold := -1.5
  maxThreads := some 0

theorem load_toYaml_adverse : adverse.threshold.isNaN = false ∧
    adverse.policy.stopTokens.map (fun token => styleOf token.toList) =
      [.plain, .singleQuoted, .singleQuoted, .singleQuoted, .singleQuoted, .plain, .singleQuoted, .doubleQuoted, .literal] ∧
    load "config.yaml" (.ok adverse.toYaml.toUTF8) = .ok adverse ∧
    (load "config.yaml" (.ok adverse.toYaml.toUTF8)).bind check =
      .error (.validation "morphemes.min_token_len must be between 1 and 64" (some "morphemes.min_token_len")) := by
  have hreread := load_toYaml adverse "config.yaml" (by decide +kernel)
  exact ⟨by decide +kernel, by decide +kernel, hreread.1, hreread.2.trans (by decide +kernel)⟩

end CallOrder.Settings
