import CallOrder.Corpus.Scanner
import CallOrder.Proofs.Json.Records
import CallOrder.Proofs.Lines

/-! The order of the members of an object does not matter in a corpus: neither that of the fields of a record, nor that
of the entries of a map, nor that of members which are passed over. -/
namespace CallOrder.Json.Layout

section Characters
variable {texts others : List (List Char)}

private theorem joinCommas_perm_flatten (texts : List (List Char)) :
    (Value.joinCommas texts).Perm (List.replicate (texts.length - 1) ',' ++ texts.flatten) := by
  rw [List.perm_iff_count]
  intro c
  fun_induction Value.joinCommas texts with
  | case1 => rfl
  | case2 text => simp
  | case3 text rest hrest ih =>
    have hlength : rest.length = rest.length - 1 + 1 := by
      have := List.length_pos_of_ne_nil (by simpa using hrest)
      omega
    rw [List.length_cons, Nat.add_sub_cancel, hlength, List.replicate_succ, List.flatten_cons]
    simp only [List.count_append, List.count_cons] at ih ⊢
    omega

private theorem joinCommas_perm (hlength : texts.length = others.length) (h : texts.flatten.Perm others.flatten) :
    (Value.joinCommas texts).Perm (Value.joinCommas others) := by
  refine (joinCommas_perm_flatten texts).trans (.trans ?_ (joinCommas_perm_flatten others).symm)
  rw [hlength]
  exact h.append_left _

private theorem bracketed_perm (opening closing : Char) (space : List Char) (hlength : texts.length = others.length)
    (h : texts.flatten.Perm others.flatten) :
    (opening :: (space ++ Value.joinCommas texts) ++ [closing]).Perm
      (opening :: (space ++ Value.joinCommas others) ++ [closing]) :=
  (((joinCommas_perm hlength h).append_left space).cons opening).append_right [closing]

private theorem flatten_perm_of_part (before after : List (List Char)) {text other : List Char} (h : text.Perm other) :
    (before ++ text :: after).flatten.Perm (before ++ other :: after).flatten := by
  rw [List.flatten_append, List.flatten_append, List.flatten_cons, List.flatten_cons]
  exact (h.append_right _).append_left _

end Characters

variable {layout reordered : Layout}

/-- With the members of an object in another order, a text has the same characters. -/
theorem Reorders.text_perm (h : Reorders layout reordered) : layout.text.Perm reordered.text := by
  induction h with
  | members hperm =>
    rw [Layout.text, Layout.text, memberTexts_eq, memberTexts_eq]
    exact bracketed_perm _ _ _ (hperm.map _).length_eq (hperm.map _).flatten
  | item _ ih =>
    rw [Layout.text, Layout.text, itemTexts_eq, itemTexts_eq, List.map_append, List.map_append, List.map_cons,
      List.map_cons]
    exact bracketed_perm _ _ _ (by simp) (flatten_perm_of_part _ _ ih)
  | member _ ih =>
    rw [Layout.text, Layout.text, memberTexts_eq, memberTexts_eq, List.map_append, List.map_append, List.map_cons,
      List.map_cons]
    exact bracketed_perm _ _ _ (by simp) (flatten_perm_of_part _ _ (ih.append_left _))
  | spaced _ ih => exact (ih.append_right _).append_left _

/-- It ends with the same character, too. -/
theorem Reorders.getLast?_text (h : Reorders layout reordered) : layout.text.getLast? = reordered.text.getLast? := by
  induction h with
  | members | item | member => rw [Layout.text, Layout.text, List.getLast?_concat, List.getLast?_concat]
  | spaced _ ih =>
    rw [Layout.text, Layout.text, List.getLast?_append, List.getLast?_append, List.getLast?_append, List.getLast?_append,
      ih]

end CallOrder.Json.Layout

namespace CallOrder.Corpus

open Json

section Formats

theorem FileKey.format_isOrderly : FileKey.format.IsOrderly := by
  apply Format.isOrderly_of_leaf
  intro depth reading key h
  obtain ⟨u, -, h⟩ := bind_eq_ok.1 h
  cases reading with
  | number n =>
    obtain ⟨m, hvalue, -⟩ := bind_eq_ok.1 h
    exact ⟨.number (Numeral.complete_of_value hvalue), nofun⟩
  | string q =>
    obtain ⟨s, htext, -⟩ := bind_eq_ok.1 h
    exact ⟨.string (Quoted.closed_of_text htext), nofun⟩
  | _ => cases h

theorem RecordedPlace.format_isOrderly : RecordedPlace.format.IsOrderly := by
  apply Format.record_isOrderly
  exact ⟨Format.optional_isOrderly FileKey.format_isOrderly, Format.optional_isOrderly Format.word_isOrderly, trivial⟩

theorem NamedItem.format_isOrderly : NamedItem.format.IsOrderly := by
  apply Format.record_isOrderly
  exact ⟨Format.optional_isOrderly Format.text_isOrderly, trivial⟩

theorem Declaration.format_isOrderly : Declaration.format.IsOrderly := by
  apply Format.record_isOrderly
  exact ⟨Format.optional_isOrderly RecordedPlace.format_isOrderly,
    Format.optional_isOrderly (Format.list_isOrderly NamedItem.format_isOrderly), Format.flag_isOrderly, trivial⟩

theorem argumentsFormat_isOrderly : argumentsFormat.IsOrderly := by
  apply Format.record_isOrderly
  exact ⟨Format.list_isOrderly NamedItem.format_isOrderly, trivial⟩

theorem RecordedCall.format_isOrderly : RecordedCall.format.IsOrderly := by
  apply Format.record_isOrderly
  exact ⟨RecordedPlace.format_isOrderly, argumentsFormat_isOrderly, trivial⟩

theorem FunctionRecord.format_isOrderly : FunctionRecord.format.IsOrderly := by
  apply Format.record_isOrderly
  exact ⟨Declaration.format_isOrderly, Format.list_isOrderly RecordedCall.format_isOrderly, trivial⟩

theorem Document.format_isOrderly : Document.format.IsOrderly := by
  apply Format.record_isOrderly
  exact ⟨Format.nameMap_isOrderly Format.text_isOrderly, Format.nameMap_isOrderly FunctionRecord.format_isOrderly, trivial⟩

end Formats

/-- Whether two lines are the same but for the order of the members of objects. It may differ in a document in which no
object repeats a key. -/
inductive IsSameLine : List Char → List Char → Prop where
  | refl (line : List Char) : IsSameLine line line
  | reordered {layout reordered : Layout} {document : Document} (hdocument : document.IsWritten layout.text)
      (hkeys : layout.reading.HasDistinctKeys) (h : Relation.ReflTransGen Layout.Reorders layout reordered) :
      IsSameLine layout.text reordered.text

namespace IsSameLine
variable {line other : List Char}

theorem perm (h : IsSameLine line other) : line.Perm other := by
  cases h with
  | refl => exact .refl line
  | reordered _ _ h =>
    induction h with
    | refl => exact .refl _
    | tail _ hstep ih => exact ih.trans hstep.text_perm

theorem getLast?_eq (h : IsSameLine line other) : line.getLast? = other.getLast? := by
  cases h with
  | refl => rfl
  | reordered _ _ h =>
    induction h with
    | refl => rfl
    | tail _ hstep ih => exact ih.trans hstep.getLast?_text

theorem isBlankLine_eq (h : IsSameLine line other) : isBlankLine line = isBlankLine other := h.perm.all_eq

theorem readText_eq (h : IsSameLine line other) :
    Document.format.readText (String.ofList line) = Document.format.readText (String.ofList other) := by
  cases h with
  | refl => rfl
  | reordered hdocument hkeys h =>
    obtain ⟨-, hreordered⟩ := Document.format_isOrderly.readText_reorders hkeys h hdocument
    exact hdocument.trans hreordered.symm

end IsSameLine

/-- Whether two texts are the same line by line, but for the order of the members of objects. -/
inductive IsSameCorpus : List Char → List Char → Prop where
  | last {line other : List Char} (hline : '\n' ∉ line) (h : IsSameLine line other) : IsSameCorpus line other
  | feed {line other rest more : List Char} (hline : '\n' ∉ line) (hreturn : line.getLast? ≠ some '\r')
      (h : IsSameLine line other) (hrest : IsSameCorpus rest more) :
      IsSameCorpus (line ++ '\n' :: rest) (other ++ '\n' :: more)
  | returnFeed {line other rest more : List Char} (hline : '\n' ∉ line) (h : IsSameLine line other)
      (hrest : IsSameCorpus rest more) : IsSameCorpus (line ++ '\r' :: '\n' :: rest) (other ++ '\r' :: '\n' :: more)

section Corpus
variable {text other : List Char}

private theorem IsSameCorpus.exists_lines (h : IsSameCorpus text other) :
    ∃ lines others, IsLines text lines ∧ IsLines other others ∧ List.Forall₂ IsSameLine lines others := by
  induction h with
  | @last line other hline h =>
    by_cases hne : line = []
    · obtain rfl : other = [] := by rw [hne] at h; exact h.perm.nil_eq.symm
      rw [hne]
      exact ⟨[], [], .nil, .nil, .nil⟩
    · have hother : other ≠ [] := fun hother => hne (List.perm_nil.1 (hother ▸ h.perm))
      exact ⟨[line], [other], .last hline hne, .last (mt h.perm.mem_iff.2 hline) hother, .cons h .nil⟩
  | feed hline hreturn h _ ih =>
    obtain ⟨lines, others, hlines, hothers, hsame⟩ := ih
    exact ⟨_, _, .feed hline hreturn hlines, .feed (mt h.perm.mem_iff.2 hline) (h.getLast?_eq ▸ hreturn) hothers,
      .cons h hsame⟩
  | returnFeed hline h _ ih =>
    obtain ⟨lines, others, hlines, hothers, hsame⟩ := ih
    exact ⟨_, _, .returnFeed hline hlines, .returnFeed (mt h.perm.mem_iff.2 hline) hothers, .cons h hsame⟩

private theorem readLines_eq {lines others : List (List Char)} (h : List.Forall₂ IsSameLine lines others) (number : ℕ) :
    readLines number lines = readLines number others := by
  induction h generalizing number with
  | nil => rfl
  | cons hline _ ih => rw [readLines, readLines, hline.isBlankLine_eq, hline.readText_eq, ih]

end Corpus

/-- The order of members does not matter. Every line that is a document is laid out in some way, as a value with all
spaces, spellings and members; the members of its objects may be permuted, of any object at any depth, if no object
repeats a key. A corpus with such lines is read and scanned the same. -/
theorem key_order_is_irrelevant :
    (∀ line document, Document.IsWritten line document → ∃ layout : Layout, layout.text = line) ∧
    (∀ (layout reordered : Layout) (document : Document), layout.reading.HasDistinctKeys →
      Relation.ReflTransGen Layout.Reorders layout reordered → document.IsWritten layout.text →
        document.IsWritten reordered.text) ∧
    ∀ text reordered : String, IsSameCorpus text.toList reordered.toList →
      read reordered = read text ∧
        ∀ scanner : Scanner, (read reordered).bind scanner.scan = (read text).bind scanner.scan := by
  refine ⟨?_, ?_, ?_⟩
  · intro line document hline
    obtain ⟨layout, hlayout⟩ := Document.format_isOrderly.exists_layout hline
    exact ⟨layout, hlayout.trans String.toList_ofList⟩
  · intro layout reordered document hkeys hreorders hdocument
    exact (Document.format_isOrderly.readText_reorders hkeys hreorders hdocument).2
  · intro text reordered h
    obtain ⟨lines, others, hlines, hothers, hsame⟩ := h.exists_lines
    have hread : read reordered = read text := by
      rw [read, read, ← isLines_iff.1 hlines, ← isLines_iff.1 hothers, readLines_eq hsame]
    refine ⟨hread, ?_⟩
    intro scanner
    rw [hread]

section Moved

private def placeMembers : List (KeyText × Layout) :=
  [(.ofText "file", .number (.ofNat 1)), (.ofText "lineNo", .number (.ofNat 3))]

private def noteMembers : List (KeyText × Layout) := [(.ofText "by", .word .null), (.ofText "at", .word .yes)]

/-- The members of a document with one call, of whose place these are the members, and with a note on it. -/
private def moveMembers (place note : List (KeyText × Layout)) : List (KeyText × Layout) :=
  [(.ofText "functions", .object .none
      [(.ofText "move", .object .none
        [(.ofText "callSites", .list .none [.object .none [(.ofText "site", .object .none place)]]),
          (.ofText "declAttrs", .object .none [(.ofText "params", .list .none [])])])]),
    (.ofText "notes", .list .none [.object .none note]),
    (.ofText "fileNameMap", .object .none [(.ofText "1", .string (.ofText "a.c"))])]

private theorem moveMembers_reorders_place (note : List (KeyText × Layout)) {place reordered : List (KeyText × Layout)}
    (h : place.Perm reordered) :
    Layout.Reorders (.object .none (moveMembers place note)) (.object .none (moveMembers reordered note)) := by
  have hcall := @Layout.Reorders.member .none [] [] (.ofText "site") _ _ (@Layout.Reorders.members .none _ _ h)
  exact @Layout.Reorders.member _ [] _ _ _ _ (@Layout.Reorders.member _ [] _ _ _ _
    (@Layout.Reorders.member _ [] _ _ _ _ (@Layout.Reorders.item _ [] _ _ _ hcall)))

private theorem moveMembers_reorders_note (place : List (KeyText × Layout)) {note reordered : List (KeyText × Layout)}
    (h : note.Perm reordered) :
    Layout.Reorders (.object .none (moveMembers place note)) (.object .none (moveMembers place reordered)) :=
  @Layout.Reorders.member _ [_] _ _ _ _ (@Layout.Reorders.item _ [] _ _ _ (.members h))

private theorem moveMembers_hasDistinctKeys :
    (Layout.object .none (moveMembers placeMembers noteMembers)).reading.HasDistinctKeys := by
  simp [moveMembers, placeMembers, noteMembers, Layout.reading, Layout.memberReadings, Layout.itemReadings, KeyText.ofText,
    StringText.ofText, Reading.hasDistinctKeys_object, Reading.hasDistinctKeys_list, Reading.differInName_ofText,
    Reading.HasDistinctKeys.word, Reading.HasDistinctKeys.number, Reading.HasDistinctKeys.string]

theorem key_order_is_irrelevant_move :
    let line := "\x7b\"functions\":\x7b\"move\":\x7b\"callSites\":[\x7b\"site\":\x7b\"file\":1,\"lineNo\":3\x7d\x7d]," ++
      "\"declAttrs\":\x7b\"params\":[]\x7d\x7d\x7d,\"notes\":[\x7b\"by\":null,\"at\":true\x7d]," ++
      "\"fileNameMap\":\x7b\"1\":\"a.c\"\x7d\x7d"
    let reordered := "\x7b\"fileNameMap\":\x7b\"1\":\"a.c\"\x7d,\"notes\":[\x7b\"at\":true,\"by\":null\x7d]," ++
      "\"functions\":\x7b\"move\":\x7b\"callSites\":[\x7b\"site\":\x7b\"lineNo\":3,\"file\":1\x7d\x7d]," ++
      "\"declAttrs\":\x7b\"params\":[]\x7d\x7d\x7d\x7d"
    let document : Document :=
      { fileNames := .ofList [("1", "a.c")]
        functions := .ofList [("move", {
          declaration := { parameters := some [] }
          calls := [{ place := { file := some (.id 1), line := some 3 } }] })] }
    document.IsWritten line.toList ∧ (∃ layout : Layout, layout.text = line.toList) ∧ document.IsWritten reordered.toList ∧
      read (reordered ++ "\r\n\x7b\x7d") = read (line ++ "\r\n\x7b\x7d") := by
  intro line reordered document
  let members := moveMembers placeMembers noteMembers
  let others := moveMembers placeMembers.reverse noteMembers.reverse
  have hline : (Layout.object .none members).text = line.toList := by decide +kernel
  have hreordered : (Layout.object .none others.reverse).text = reordered.toList := by decide +kernel
  have hdocument : document.IsWritten (Layout.object .none members).text := Format.readText_layout.2 rfl
  have hreorders : Relation.ReflTransGen Layout.Reorders (.object .none members) (.object .none others.reverse) := by
    have hplace := moveMembers_reorders_place noteMembers placeMembers.reverse_perm.symm
    have hnote := moveMembers_reorders_note placeMembers.reverse noteMembers.reverse_perm.symm
    exact .tail (.tail (.tail .refl hplace) hnote) (.members others.reverse_perm.symm)
  obtain ⟨hlayout, hsame, hcorpus⟩ := key_order_is_irrelevant
  rw [← hline, ← hreordered]
  refine ⟨hdocument, hlayout _ _ hdocument, hsame _ _ _ moveMembers_hasDistinctKeys hreorders hdocument, ?_⟩
  have hend : ∀ s : String, (s ++ "\r\n\x7b\x7d").toList = s.toList ++ '\r' :: '\n' :: ['{', '}'] :=
    fun _ => String.toList_append
  apply (hcorpus _ _ ?_).1
  rw [hend line, hend reordered, ← hline, ← hreordered]
  refine .returnFeed ?_ (.reordered hdocument moveMembers_hasDistinctKeys hreorders) (.last (by decide) (.refl _))
  decide +kernel

end Moved

end CallOrder.Corpus
