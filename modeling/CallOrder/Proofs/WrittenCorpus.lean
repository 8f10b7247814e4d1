import CallOrder.Proofs.Json.Restored
import CallOrder.Proofs.Lines

/-! A corpus that was written is read back: each document from the line on which it stands, with any blank lines
between. -/
namespace CallOrder.Corpus

open Json

section Formats
variable {levels : ℕ}

theorem FileKey.format_restores (key : FileKey) : FileKey.format.Restores levels key := by
  intro depth _
  cases key with
  | id n =>
    have hvalue := Format.wholeNumeral_value n.toNat_lt
    simp only [FileKey.format, Value.reading, Reading.readThrough, hvalue, bind, Except.bind]
    exact congrArg (Except.ok ∘ FileKey.id) (by rw [Nat.toUInt64_eq, UInt64.ofNat_toNat])
  | name s =>
    simp only [FileKey.format, Value.reading, Reading.readThrough, Quoted.text_ofText, bind, Except.bind]
    rfl

theorem FileKey.reading_ne_null (key : FileKey) : (FileKey.format.write key).reading ≠ .word .null := by
  cases key <;> exact nofun

theorem RecordedPlace.format_restores (place : RecordedPlace) : RecordedPlace.format.Restores 1 place :=
  Format.record_reads (by decide) rfl
    ⟨_, _, rfl, Format.optional_restores fun key _ => ⟨key.format_restores, key.reading_ne_null⟩,
      _, _, rfl, Format.optional_restores fun n _ => ⟨Format.word_reads n, nofun⟩, rfl⟩

theorem NamedItem.format_restores (item : NamedItem) : NamedItem.format.Restores 1 item :=
  Format.record_reads (by decide) rfl
    ⟨_, _, rfl, Format.optional_restores fun s _ => ⟨Format.text_reads s, nofun⟩, rfl⟩

theorem Declaration.format_restores (declaration : Declaration) : Declaration.format.Restores 3 declaration :=
  Format.record_reads (by decide) rfl
    ⟨_, _, rfl, Format.optional_restores fun place _ => ⟨place.format_restores.mono (by norm_num), nofun⟩,
      _, _, rfl, Format.optional_restores fun items _ => ⟨Format.list_restores fun item _ => item.format_restores, nofun⟩,
      _, _, rfl, Format.flag_reads _, rfl⟩

theorem argumentsFormat_restores (items : List NamedItem) : argumentsFormat.Restores 3 items :=
  Format.record_reads (by decide) rfl
    ⟨_, _, rfl, Format.list_restores fun item _ => item.format_restores, rfl⟩

theorem RecordedCall.format_restores (call : RecordedCall) : RecordedCall.format.Restores 4 call :=
  Format.record_reads (by decide) rfl
    ⟨_, _, rfl, call.place.format_restores.mono (by norm_num), _, _, rfl, argumentsFormat_restores _, rfl⟩

theorem FunctionRecord.format_restores (function : FunctionRecord) : FunctionRecord.format.Restores 6 function :=
  Format.record_reads (by decide) rfl
    ⟨_, _, rfl, function.declaration.format_restores.mono (by norm_num),
      _, _, rfl, Format.list_restores fun call _ => call.format_restores, rfl⟩

end Formats

/-- How a document may be written: the files stand in any order. -/
def Document.IsWriting (document : Document) (written : Value) : Prop :=
  ∃ names : List (String × String), names.Perm document.fileNames.entries ∧
    written = .object [("fileNameMap", .object (names.map fun (key, path) => (key, .string path))),
      ("functions", (Format.nameMap FunctionRecord.format).write document.functions)]

theorem Document.isWriting_write (document : Document) : document.IsWriting (Document.format.write document) :=
  ⟨document.fileNames.entries, .refl _, rfl⟩

theorem Document.reads_of_isWriting {document : Document} {written : Value} (h : document.IsWriting written) :
    Document.format.Reads 8 written document := by
  obtain ⟨names, hnames, rfl⟩ := h
  have hfiles : (Format.nameMap Format.text).Reads 7 (.object (names.map fun (key, path) => (key, .string path)))
      document.fileNames :=
    Format.nameMap_reads (List.forall₂_map_left_iff.2 (List.forall₂_same.2 fun entry _ => ⟨rfl, Format.text_reads _⟩))
      hnames
  exact Format.record_reads (by decide) rfl
    ⟨_, _, rfl, hfiles, _, _, rfl, Format.nameMap_restores fun entry _ => entry.2.format_restores, rfl⟩

/-- The texts of a corpus. Each document is written without spaces on a line of its own, in the order of the list;
there may be blank lines anywhere, and a line may end with a carriage return and a line feed. -/
inductive IsCorpus : List Document → List Char → Prop where
  | lastBlank {line : List Char} (hblank : isBlankLine line = true) (hline : '\n' ∉ line) : IsCorpus [] line
  | last {document : Document} {written : Value} (h : document.IsWriting written) : IsCorpus [document] written.compact
  | blank {line rest : List Char} {documents : List Document} (hblank : isBlankLine line = true) (hline : '\n' ∉ line)
      (hrest : IsCorpus documents rest) : IsCorpus documents (line ++ '\n' :: rest)
  | feed {document : Document} {written : Value} {documents : List Document} {rest : List Char}
      (h : document.IsWriting written) (hrest : IsCorpus documents rest) :
      IsCorpus (document :: documents) (written.compact ++ '\n' :: rest)
  | returnFeed {document : Document} {written : Value} {documents : List Document} {rest : List Char}
      (h : document.IsWriting written) (hrest : IsCorpus documents rest) :
      IsCorpus (document :: documents) (written.compact ++ '\r' :: '\n' :: rest)

section Reading
variable {document : Document} {documents : List Document} {written : Value} {line : List Char} {lines : List (List Char)}
  {number : ℕ}

theorem Document.readText_of_isWriting (h : document.IsWriting written) :
    Document.format.readText (String.ofList written.compact) = .ok document :=
  Format.readText_eq (Document.reads_of_isWriting h) (by decide)
    (by rw [String.toList_ofList]; exact (Value.spelled_compact written).isTokenText)

private theorem compact_of_isWriting (h : document.IsWriting written) :
    '\n' ∉ written.compact ∧ ∃ inside, written.compact = '{' :: inside ++ ['}'] := by
  obtain ⟨names, -, rfl⟩ := h
  exact ⟨Value.newline_not_mem_compact _, _, rfl⟩

private theorem readLines_blank (hblank : isBlankLine line = true) :
    readLines number (line :: lines) = readLines (number + 1) lines := by
  rw [readLines, if_pos hblank]

private theorem readLines_document (h : document.IsWriting written) (hrest : readLines (number + 1) lines = .ok documents) :
    readLines number (written.compact :: lines) = .ok (document :: documents) := by
  obtain ⟨-, inside, hinside⟩ := compact_of_isWriting h
  have hblank : isBlankLine written.compact = false := by
    rw [hinside]
    rfl
  rw [readLines, hblank, if_neg Bool.false_ne_true, Document.readText_of_isWriting h, hrest]
  rfl

theorem isLines_of_isCorpus {text : List Char} (h : IsCorpus documents text) :
    ∃ lines, IsLines text lines ∧ ∀ number, readLines number lines = .ok documents := by
  induction h with
  | @lastBlank line hblank hline =>
    by_cases hne : line = []
    · rw [hne]
      exact ⟨[], .nil, fun number => rfl⟩
    · exact ⟨[line], .last hline hne, fun number => readLines_blank hblank⟩
  | last h =>
    obtain ⟨hline, inside, hinside⟩ := compact_of_isWriting h
    exact ⟨_, .last hline (by rw [hinside]; simp), fun number => readLines_document h rfl⟩
  | @blank line rest documents hblank hline _ ih =>
    obtain ⟨lines, hlines, hread⟩ := ih
    by_cases hreturn : line.getLast? = some '\r'
    · obtain ⟨before, rfl⟩ := List.getLast?_eq_some_iff.1 hreturn
      rw [isBlankLine, List.all_append, Bool.and_eq_true] at hblank
      rw [List.append_assoc]
      exact ⟨before :: lines, .returnFeed (fun h => hline (List.mem_append_left _ h)) hlines,
        fun number => (readLines_blank hblank.1).trans (hread _)⟩
    · exact ⟨line :: lines, .feed hline hreturn hlines, fun number => (readLines_blank hblank).trans (hread _)⟩
  | @feed document written documents rest h _ ih =>
    obtain ⟨lines, hlines, hread⟩ := ih
    obtain ⟨hline, inside, hinside⟩ := compact_of_isWriting h
    have hreturn : written.compact.getLast? ≠ some '\r' := by
      rw [hinside, List.getLast?_concat]
      decide
    exact ⟨_, .feed hline hreturn hlines, fun number => readLines_document h (hread _)⟩
  | returnFeed h _ ih =>
    obtain ⟨lines, hlines, hread⟩ := ih
    exact ⟨_, .returnFeed (compact_of_isWriting h).1 hlines, fun number => readLines_document h (hread _)⟩

end Reading

/-- A corpus that was written is read back as exactly the documents that were written. -/
theorem written_corpus_read_back {documents : List Document} {text : String} (h : IsCorpus documents text.toList) :
    read text = .ok documents := by
  obtain ⟨lines, hlines, hread⟩ := isLines_of_isCorpus h
  rw [read, ← isLines_iff.1 hlines]
  exact hread 1

theorem written_corpus_read_back_two :
    let first : Document :=
      { fileNames := .ofList [("7", "a\"b\\c\n\r\x01.c"), ("", "é\u2028")]
        functions := .ofList [("copy", {
          declaration := {
            place := some { file := some (.id 7), line := some 18446744073709551615 }
            parameters := some [{}, { name := some "null" }] }
          calls := [{ place := { file := some (.name "7") }, arguments := [{ name := some "" }] }] })] }
    let text := "\t \r\n" ++
      "\x7b\"fileNameMap\":\x7b\"7\":\"a\\\"b\\\\c\\n\\r\\u0001.c\",\"\":\"é\u2028\"\x7d," ++
      "\"functions\":\x7b\"copy\":\x7b\"declAttrs\":\x7b\"location\":\x7b\"file\":7," ++
      "\"lineNo\":18446744073709551615\x7d,\"params\":[\x7b\"name\":null\x7d," ++
      "\x7b\"name\":\"null\"\x7d],\"isVariadic\":false\x7d,\"callSites\":[\x7b" ++
      "\"site\":\x7b\"file\":\"7\",\"lineNo\":null\x7d," ++
      "\"attrs\":\x7b\"args\":[\x7b\"name\":\"\"\x7d]\x7d\x7d]\x7d\x7d\x7d\r\n" ++
      "\u00a0\n\x7b\"fileNameMap\":\x7b\x7d,\"functions\":\x7b\x7d\x7d"
    IsCorpus [first, {}] text.toList ∧ read text = .ok [first, {}] := by
  intro first text
  let written : Value := .object [("fileNameMap", .object [("7", .string "a\"b\\c\n\r\x01.c"), ("", .string "é\u2028")]),
    ("functions", (Format.nameMap FunctionRecord.format).write first.functions)]
  have hfirst : first.IsWriting written :=
    ⟨[("7", "a\"b\\c\n\r\x01.c"), ("", "é\u2028")], by decide +kernel, rfl⟩
  have htext : text.toList = "\t \r".toList ++ '\n' :: (written.compact ++ '\r' :: '\n' ::
      (['\u00a0'] ++ '\n' :: (Document.format.write {}).compact)) := by
    simp only [text, String.toList_append]
    decide +kernel
  have hcorpus : IsCorpus [first, {}] text.toList := by
    rw [htext]
    exact .blank (by decide) (by decide)
      (.returnFeed hfirst (.blank (by decide) (by decide) (.last (Document.isWriting_write {}))))
  exact ⟨hcorpus, written_corpus_read_back hcorpus⟩

end CallOrder.Corpus
