import CallOrder.Corpus.Text
import Mathlib.Data.List.Forall2

/-! Reading a corpus line by line: the lines of a text, what is read of each, and how texts that are put together are
read. -/
namespace CallOrder.Corpus

/-- The lines of a text. A line ends at a line feed or at a carriage return and a line feed; what follows the last
line feed is a line if there is anything. -/
inductive IsLines : List Char → List (List Char) → Prop where
  | nil : IsLines [] []
  | last {line : List Char} (hline : '\n' ∉ line) (hne : line ≠ []) : IsLines line [line]
  | feed {line rest : List Char} {lines : List (List Char)} (hline : '\n' ∉ line) (hreturn : line.getLast? ≠ some '\r')
      (hrest : IsLines rest lines) : IsLines (line ++ '\n' :: rest) (line :: lines)
  | returnFeed {line rest : List Char} {lines : List (List Char)} (hline : '\n' ∉ line) (hrest : IsLines rest lines) :
      IsLines (line ++ '\r' :: '\n' :: rest) (line :: lines)

section Lines
variable {text line rest : List Char} {lines : List (List Char)}

private theorem dropReturn_concat (line : List Char) : dropReturn (line ++ ['\r']) = line := by
  simp [dropReturn]

private theorem dropReturn_of_ne (h : line.getLast? ≠ some '\r') : dropReturn line = line := by
  unfold dropReturn
  split
  · rename_i hr
    exact absurd hr h
  · rfl

private theorem go_line (hline : '\n' ∉ line) (before rest : List Char) :
    linesOf.go before (line ++ rest) = linesOf.go (line.reverse ++ before) rest := by
  induction line generalizing before with
  | nil => rfl
  | cons c line ih =>
    rw [List.mem_cons, not_or] at hline
    rw [List.cons_append, linesOf.go, if_neg (Ne.symm hline.1), ih hline.2, List.reverse_cons, List.append_assoc]
    rfl

private theorem linesOf_feed (hline : '\n' ∉ line) (rest : List Char) :
    linesOf (line ++ '\n' :: rest) = dropReturn line :: linesOf rest := by
  rw [linesOf, go_line hline, linesOf.go, if_pos rfl, List.append_nil, List.reverse_reverse]
  rfl

private theorem linesOf_last (hline : '\n' ∉ line) (hne : line ≠ []) : linesOf line = [line] := by
  have hgo := go_line hline [] []
  rw [List.append_nil, List.append_nil] at hgo
  rw [linesOf, hgo, linesOf.go, List.isEmpty_reverse, List.reverse_reverse, if_neg (by simpa using hne)]

-- The induction is on the length: what follows the first line feed is shorter.
private theorem linesOf_isLines (text : List Char) : IsLines text (linesOf text) := by
  by_cases hfeed : '\n' ∈ text
  · obtain ⟨line, rest, rfl, hline⟩ := List.eq_append_cons_of_mem hfeed
    have hrest := linesOf_isLines rest
    rw [linesOf_feed hline]
    by_cases hreturn : line.getLast? = some '\r'
    · obtain ⟨before, rfl⟩ := List.getLast?_eq_some_iff.1 hreturn
      rw [dropReturn_concat, List.append_assoc]
      exact .returnFeed (fun h => hline (List.mem_append_left _ h)) hrest
    · rw [dropReturn_of_ne hreturn]
      exact .feed hline hreturn hrest
  · by_cases hne : text = []
    · rw [hne]
      exact .nil
    · rw [linesOf_last hfeed hne]
      exact .last hfeed hne
termination_by text.length
decreasing_by
  subst_vars
  rw [List.length_append, List.length_cons]
  omega

/-- Every text has its lines, and no others. -/
theorem isLines_iff : IsLines text lines ↔ lines = linesOf text := by
  constructor
  · intro h
    induction h with
    | nil => rfl
    | last hline hne => exact (linesOf_last hline hne).symm
    | feed hline hreturn _ ih => rw [linesOf_feed hline, dropReturn_of_ne hreturn, ih]
    | @returnFeed line rest _ hline _ ih =>
      have hline' : '\n' ∉ line ++ ['\r'] := by simp [hline]
      have h := linesOf_feed hline' rest
      rw [List.append_assoc, dropReturn_concat, ← ih] at h
      exact h.symm
  · rintro rfl
    exact linesOf_isLines text

/-- A text that is empty or ends with a line feed. -/
def IsEnded (text : List Char) : Prop := text = [] ∨ ∃ before, text = before ++ ['\n']

private theorem go_append (line before rest : List Char) :
    linesOf.go line (before ++ '\n' :: rest) = linesOf.go line (before ++ ['\n']) ++ linesOf rest := by
  induction before generalizing line with
  | nil => rfl
  | cons c before ih =>
    rw [List.cons_append, List.cons_append, linesOf.go, linesOf.go]
    split
    · rw [ih, List.cons_append]
    · exact ih (c :: line)

theorem linesOf_append (h : IsEnded text) (rest : List Char) : linesOf (text ++ rest) = linesOf text ++ linesOf rest := by
  obtain rfl | ⟨before, rfl⟩ := h
  · rfl
  · rw [List.append_assoc]
    exact go_append [] before rest

private theorem length_go (line before : List Char) :
    (linesOf.go line (before ++ ['\n'])).length = (before ++ ['\n']).count '\n' := by
  induction before generalizing line with
  | nil => rfl
  | cons c before ih =>
    rw [List.cons_append, linesOf.go, List.count_cons]
    split
    · rename_i hc
      rw [List.length_cons, ih, hc]
      rfl
    · rename_i hc
      rw [ih, beq_false_of_ne hc]
      rfl

theorem length_linesOf (h : IsEnded text) : (linesOf text).length = text.count '\n' := by
  obtain rfl | ⟨before, rfl⟩ := h
  · rfl
  · exact length_go [] before

end Lines

/-- Whether a line has more than blanks. -/
def hasText (line : List Char) : Bool := line.any (!Text.isBlank ·)

private theorem isBlankLine_eq (line : List Char) : isBlankLine line = !hasText line := by
  rw [hasText, isBlankLine, List.not_any_eq_all_not]
  simp only [Bool.not_not]

/-- Whether a document is what a line says. -/
def Document.IsWritten (line : List Char) (document : Document) : Prop :=
  Document.format.readText (String.ofList line) = .ok document

/-- What comes of lines from a number on: the documents of the lines that have text, or the first fault with the
number of its line. -/
inductive Yields (number : ℕ) (lines : List (List Char)) : Except Error (List Document) → Prop where
  | documents {documents : List Document} (h : List.Forall₂ Document.IsWritten (lines.filter hasText) documents) :
      Yields number lines (.ok documents)
  | fault (before : List (List Char)) (line : List Char) (after : List (List Char)) {documents : List Document}
      {fault : Json.Fault} {position : ℕ} (hlines : lines = before ++ line :: after)
      (hposition : position = number + before.length)
      (hbefore : List.Forall₂ Document.IsWritten (before.filter hasText) documents)
      (hline : hasText line = true) (hfault : Document.format.readText (String.ofList line) = .error fault) :
      Yields number lines (.error (.json (some position) fault))

section Reading
variable {number : ℕ} {line : List Char} {lines rest : List (List Char)} {document : Document}
  {outcome : Except Error (List Document)}

private theorem Yields.skip (h : Yields (number + 1) lines outcome) (hline : hasText line = false) :
    Yields number (line :: lines) outcome := by
  have hfilter : ∀ rest, (line :: rest).filter hasText = rest.filter hasText := fun rest =>
    List.filter_cons_of_neg (by rw [hline]; exact Bool.false_ne_true)
  cases h with
  | documents hall => exact .documents ((hfilter lines).symm ▸ hall)
  | fault before line' after hlines hposition hbefore hline' hfault =>
    have hposition' := hposition.trans (Nat.add_right_comm number 1 before.length)
    exact .fault (line :: before) line' after (congrArg (line :: ·) hlines) hposition' ((hfilter before).symm ▸ hbefore)
      hline' hfault

private theorem Yields.cons (h : Yields (number + 1) lines outcome) (hline : hasText line = true)
    (hdocument : document.IsWritten line) : Yields number (line :: lines) (outcome.map (document :: ·)) := by
  have hfilter : ∀ rest, (line :: rest).filter hasText = line :: rest.filter hasText := fun rest =>
    List.filter_cons_of_pos hline
  cases h with
  | documents hall => exact .documents ((hfilter lines).symm ▸ List.Forall₂.cons hdocument hall)
  | fault before line' after hlines hposition hbefore hline' hfault =>
    have hposition' := hposition.trans (Nat.add_right_comm number 1 before.length)
    exact .fault (line :: before) line' after (congrArg (line :: ·) hlines) hposition'
      ((hfilter before).symm ▸ List.Forall₂.cons hdocument hbefore) hline' hfault

theorem readLines_yields (number : ℕ) (lines : List (List Char)) : Yields number lines (readLines number lines) := by
  induction lines generalizing number with
  | nil => exact .documents .nil
  | cons line lines ih =>
    rw [readLines, isBlankLine_eq]
    cases hline : hasText line with
    | false => exact (ih (number + 1)).skip hline
    | true =>
      cases hread : Document.format.readText (String.ofList line) with
      | error fault => exact .fault [] line lines rfl rfl .nil hline hread
      | ok document => exact (ih (number + 1)).cons hline hread

end Reading

theorem readLines_append (number : ℕ) (lines rest : List (List Char)) :
    readLines number (lines ++ rest) =
      (readLines number lines).bind fun documents => (readLines (number + lines.length) rest).map (documents ++ ·) := by
  induction lines generalizing number with
  | nil =>
    rw [List.nil_append, readLines, List.length_nil, Nat.add_zero]
    cases readLines number rest <;> rfl
  | cons line lines ih =>
    rw [List.cons_append, readLines, readLines, ih, List.length_cons, Nat.add_right_comm, ← Nat.add_assoc]
    split
    · rfl
    · cases Document.format.readText (String.ofList line) with
      | error fault => rfl
      | ok document =>
        cases readLines (number + 1) lines with
        | error e => rfl
        | ok documents => cases readLines (number + lines.length + 1) rest <;> rfl

/-- The same error, so many lines further on. -/
def later (k : ℕ) : Error → Error
  | .json (some line) fault => .json (some (line + k)) fault
  | e => e

theorem readLines_later (number k : ℕ) (lines : List (List Char)) :
    readLines (number + k) lines = (readLines number lines).mapError (later k) := by
  induction lines generalizing number with
  | nil => rfl
  | cons line lines ih =>
    rw [readLines, readLines, Nat.add_right_comm, ih]
    split
    · rfl
    · cases Document.format.readText (String.ofList line) with
      | error fault => rfl
      | ok document => cases readLines (number + 1) lines <;> rfl

/-- The second of two texts, the first of which ends with a line feed, is read as if it stood alone, but for the
numbers of its lines. -/
theorem read_append {text : String} (h : IsEnded text.toList) (more : String) :
    read (text ++ more) = (read text).bind fun documents =>
      ((read more).mapError (later (text.toList.count '\n'))).map (documents ++ ·) := by
  rw [read, String.toList_append, linesOf_append h, readLines_append, length_linesOf h, readLines_later]
  rfl

/-- A corpus is read line by line. Texts that are put together at the end of a line are read one after the other. -/
theorem corpus_read_by_lines (text : String) (h : text = "" ∨ ∃ before, text = before ++ "\n") :
    (∀ more e, read text = .error e → read (text ++ more) = .error e) ∧
    (∀ more documents documents', read text = .ok documents → read more = .ok documents' →
      read (text ++ more) = .ok (documents ++ documents')) ∧
    (∀ more documents e, read text = .ok documents → read more = .error e → ∃ k fault,
      e = .json (some k) fault ∧
      read (text ++ more) = .error (.json (some (k + text.toList.count '\n')) fault)) ∧
    ∀ t, ∃ lines, (∀ other, IsLines t.toList other ↔ other = lines) ∧ Yields 1 lines (read t) ∧
      ∀ documents, read t = .ok documents → documents.length = lines.countP hasText := by
  have hended : IsEnded text.toList := by
    rcases h with rfl | ⟨before, rfl⟩
    · exact .inl rfl
    · exact .inr ⟨before.toList, String.toList_append⟩
  refine ⟨fun more e htext => ?_, fun more documents documents' htext hmore => ?_, fun more documents e htext hmore => ?_,
    fun t => ⟨_, fun other => isLines_iff, readLines_yields 1 _, fun documents ht => ?_⟩⟩
  · rw [read_append hended, htext]
    rfl
  · rw [read_append hended, htext, hmore]
    rfl
  · have hyields := readLines_yields 1 (linesOf more.toList)
    rw [← read, hmore] at hyields
    cases hyields with
    | fault before line after hlines hposition hbefore hline hfault =>
      refine ⟨_, _, rfl, ?_⟩
      rw [read_append hended, htext, hmore]
      rfl
  · have hyields := readLines_yields 1 (linesOf t.toList)
    rw [← read, ht] at hyields
    cases hyields with
    | documents hall => rw [← hall.length_eq, List.countP_eq_length_filter]

theorem corpus_read_by_lines_five :
    let text := "{}\r\n\n"
    let faulty := "\n{}\n[\n"
    (text = "" ∨ ∃ before, text = before ++ "\n") ∧ (faulty = "" ∨ ∃ before, faulty = before ++ "\n") ∧
    read text = .ok [{}] ∧ read faulty = .error (.json (some 3) .endInList) ∧
    read (text ++ text) = .ok [{}, {}] ∧ read (text ++ faulty) = .error (.json (some 5) .endInList) ∧
    read (faulty ++ text) = .error (.json (some 3) .endInList) := by
  intro text faulty
  have htext : text = "" ∨ ∃ before, text = before ++ "\n" := .inr ⟨"{}\r\n", by decide⟩
  have hfaulty : faulty = "" ∨ ∃ before, faulty = before ++ "\n" := .inr ⟨"\n{}\n[", by decide⟩
  have hread : read "{}\r\n\n" = .ok [{}] := by rfl
  have hfault : read "\n{}\n[\n" = .error (.json (some 3) .endInList) := by rfl
  have hcount : text.toList.count '\n' = 2 := by decide
  obtain ⟨-, hboth, hlater, -⟩ := corpus_read_by_lines text htext
  obtain ⟨k, fault, he, hmore⟩ := hlater faulty _ _ hread hfault
  obtain ⟨rfl, rfl⟩ : 3 = k ∧ .endInList = fault := by simpa using he
  rw [hcount] at hmore
  exact ⟨htext, hfaulty, hread, hfault, hboth text _ _ hread hread, hmore,
    (corpus_read_by_lines faulty hfaulty).1 text _ hfault⟩

end CallOrder.Corpus
