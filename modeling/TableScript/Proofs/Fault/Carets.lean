import Mathlib.Data.List.TakeWhile
import TableScript.Proofs.Text.Bytes

/-!
# Carets under a span

A diagnostic quotes the line a span starts on and marks the span with carets. For a span that starts
and stops between characters of one line, `carets_mark_span` says what is written.

1. The place of the span is found (`locate?_append`): its line is what stands between the nearest
   line breaks before and after it (`exists_lastLine`, `exists_firstLine`).
2. The quoted line and the line of carets start with as many characters (`excerpt_marks`), so the
   first caret stands under the first character of the span.
3. The carets are counted in bytes of the span, up to the end of the line (`caretCount_eq`). They
   are as many as its characters when each of these takes one byte, or when nothing follows on the
   line, and otherwise too many: in `carets_past_span` one character has two carets.
-/

namespace TableScript

open String (utf8Len)

/-! ## The line of a span -/

theorem not_mem_firstLine (cs : List Char) : '\n' ∉ firstLine cs := fun h => by
  simpa using List.mem_takeWhile_imp h

theorem not_mem_lastLine (cs : List Char) : '\n' ∉ lastLine cs := fun h =>
  not_mem_firstLine cs.reverse (List.mem_reverse.1 h)

/-- What stops before a line break is everything, or a line break follows. -/
theorem exists_firstLine_append (cs : List Char) :
    ∃ below, cs = firstLine cs ++ below ∧ ∀ c ∈ below.head?, c = '\n' := by
  refine ⟨cs.dropWhile (· ≠ '\n'), List.takeWhile_append_dropWhile.symm, fun c hc => ?_⟩
  have h := List.head?_dropWhile_not (fun d => decide (d ≠ '\n')) cs
  rw [hc] at h
  simpa using h

/-- What starts after a line break is everything, or a line break stands before. -/
theorem exists_lastLine_append (cs : List Char) :
    ∃ above, cs = above ++ lastLine cs ∧ ∀ c ∈ above.getLast?, c = '\n' := by
  obtain ⟨above, h, hhead⟩ := exists_firstLine_append cs.reverse
  refine ⟨above.reverse, ?_, by rwa [List.getLast?_reverse]⟩
  rw [lastLine, ← List.reverse_append]
  change cs = (firstLine _ ++ above).reverse
  rw [← h, List.reverse_reverse]

theorem exists_firstLine (after : String) :
    ∃ tail below : String, after = tail ++ below ∧ (∀ c ∈ below.toList.head?, c = '\n') ∧
      '\n' ∉ tail.toList ∧ firstLine after.toList = tail.toList := by
  obtain ⟨below, h, hhead⟩ := exists_firstLine_append after.toList
  refine ⟨String.ofList (firstLine after.toList), String.ofList below, ?_, ?_, ?_, ?_⟩
  · rw [← String.ofList_append, ← h, String.ofList_toList]
  · rwa [String.toList_ofList]
  · rw [String.toList_ofList]
    exact not_mem_firstLine _
  · rw [String.toList_ofList]

theorem exists_lastLine (before : String) :
    ∃ above head : String, before = above ++ head ∧ (∀ c ∈ above.toList.getLast?, c = '\n') ∧
      '\n' ∉ head.toList ∧ lastLine before.toList = head.toList := by
  obtain ⟨above, h, hlast⟩ := exists_lastLine_append before.toList
  refine ⟨String.ofList above, String.ofList (lastLine before.toList), ?_, ?_, ?_, ?_⟩
  · rw [← String.ofList_append, ← h, String.ofList_toList]
  · rwa [String.toList_ofList]
  · rw [String.toList_ofList]
    exact not_mem_lastLine _
  · rw [String.toList_ofList]

theorem firstLine_append {marked : List Char} (h : '\n' ∉ marked) (after : List Char) :
    firstLine (marked ++ after) = marked ++ firstLine after :=
  List.takeWhile_append_of_pos fun _ hc => decide_eq_true fun e => h (e ▸ hc)

theorem locate?_append (before after : String) :
    locate? (before ++ after).toList before.utf8ByteSize =
      some ⟨before.toList.count '\n' + 1, (lastLine before.toList).length + 1,
        lastLine before.toList ++ firstLine after.toList⟩ := by
  rw [locate?, String.toList_append, ← String.utf8Len_toList, splitAtByte?_append]
  rfl

/-! ## The carets -/

variable {marked tail : String}

/-- A part of a line is marked by as many carets as it has bytes, as far as the line goes. -/
theorem caretCount_eq (h : marked ≠ "") (line : Nat) (head tail : String) :
    caretCount marked.utf8ByteSize ⟨line, head.length + 1, (head ++ (marked ++ tail)).toList⟩ =
      min marked.utf8ByteSize (marked ++ tail).length := by
  have hpos := List.length_pos_iff.2 (mt String.toList_eq_nil_iff.1 h)
  have hbytes := length_le_utf8Len marked.toList
  rw [String.utf8Len_toList] at hbytes
  unfold caretCount
  simp only [String.length_toList, String.length_append] at hpos hbytes ⊢
  omega

/-- These are as many carets as characters when each character takes one byte, or when the line ends
behind the part. -/
theorem caretCount_eq_length_iff :
    min marked.utf8ByteSize (marked ++ tail).length = marked.length ↔
      (∀ c ∈ marked.toList, c.utf8Size = 1) ∨ tail = "" := by
  have hbytes := length_le_utf8Len marked.toList
  rw [← utf8Len_eq_length_iff, ← String.toList_eq_nil_iff, ← List.length_eq_zero_iff,
    String.utf8Len_toList, String.length_append]
  rw [String.utf8Len_toList] at hbytes
  simp only [String.length_toList] at hbytes ⊢
  omega

/-- A report that ends with a quoted line and carets below: after a label stands the line, which is
`head`, then the part to be marked, then `tail`, and the last line has this many carets from the
column of the part on. -/
def Marks (report label head marked tail : String) (carets : Nat) : Prop :=
  ∃ upper margin : String,
    report = upper ++ "\n" ++ label ++ head ++ marked ++ tail ++ "\n" ++ margin ++
      String.ofList (List.replicate carets '^') ∧
    (∀ c ∈ margin.toList, c = ' ' ∨ c = '|') ∧ margin.length = (label ++ head).length

/-- The lines above the quoted one: where the span starts, and the start of a margin. -/
def placeLines (l : Location) : String :=
  "\n" ++ blanks (toString l.line).length ++ "--> " ++ toString l.line ++ ":" ++
    toString l.column ++ "\n" ++ blanks (toString l.line).length ++ " |"

/-- What stands before the carets on their line. -/
def caretMargin (l : Location) : String :=
  blanks (toString l.line).length ++ " | " ++ blanks (l.column - 1)

theorem mem_caretMargin {l : Location} : ∀ c ∈ (caretMargin l).toList, c = ' ' ∨ c = '|' := by
  intro c hc
  simp only [caretMargin, blanks, String.toList_append, String.toList_ofList, List.mem_append,
    List.mem_replicate] at hc
  rcases hc with (⟨-, rfl⟩ | hc) | ⟨-, rfl⟩
  · exact .inl rfl
  · simpa [or_comm] using hc
  · exact .inl rfl

theorem excerpt_marks (headline : String) (bytes line : Nat) (head marked tail : String) :
    Marks (headline ++ excerpt ⟨line, head.length + 1, (head ++ (marked ++ tail)).toList⟩ bytes)
      (toString line ++ " | ") head marked tail
      (caretCount bytes ⟨line, head.length + 1, (head ++ (marked ++ tail)).toList⟩) := by
  generalize hl : (⟨line, head.length + 1, (head ++ (marked ++ tail)).toList⟩ : Location) = l
  have htext : String.ofList l.text = head ++ (marked ++ tail) := by rw [← hl, String.ofList_toList]
  have hline : l.line = line := by rw [← hl]
  have hcolumn : l.column - 1 = head.length := by rw [← hl, Nat.add_sub_cancel]
  unfold Marks
  refine ⟨headline ++ placeLines l, caretMargin l, ?_, mem_caretMargin, ?_⟩
  · unfold excerpt placeLines caretMargin
    rw [htext, hline]
    generalize caretCount bytes l = carets
    simp only [String.append_assoc]
  · simp only [caretMargin, blanks, String.length_append, String.length_ofList,
      List.length_replicate, hline, hcolumn]

/-! ## The whole report -/

/-- **Carets under a span.** A failure whose span is a part of one line of the source is reported,
and the report ends with this line and carets that start under the first character of the part. They
are as many as the part has bytes, up to the end of the line; so one for each character, if each
takes one byte or the part ends the line, and more if not. -/
theorem carets_mark_span {u : Unwind} {before marked after : String}
    (hspan : u.span? = some ⟨before.utf8ByteSize, (before ++ marked).utf8ByteSize⟩)
    (hmarked : marked ≠ "") (hline : '\n' ∉ marked.toList) :
    ∃ above head tail below report : String,
      (before = above ++ head ∧ (∀ c ∈ above.toList.getLast?, c = '\n') ∧ '\n' ∉ head.toList) ∧
      (after = tail ++ below ∧ (∀ c ∈ below.toList.head?, c = '\n') ∧ '\n' ∉ tail.toList) ∧
      u.report? (some (before ++ marked ++ after)) = some report ∧
      Marks report (toString (above.toList.count '\n' + 1) ++ " | ") head marked tail
        (min marked.utf8ByteSize (marked ++ tail).length) ∧
      (min marked.utf8ByteSize (marked ++ tail).length = marked.length ↔
        (∀ c ∈ marked.toList, c.utf8Size = 1) ∨ tail = "") := by
  obtain ⟨above, head, hbefore, hlast, hhead, hlastLine⟩ := exists_lastLine before
  obtain ⟨tail, below, hafter, hfirst, htail, hfirstLine⟩ := exists_firstLine after
  have hlines : before.toList.count '\n' = above.toList.count '\n' := by
    rw [hbefore, String.toList_append, List.count_append, List.count_eq_zero.2 hhead, Nat.add_zero]
  have hlocate : locate? (before ++ marked ++ after).toList before.utf8ByteSize =
      some ⟨above.toList.count '\n' + 1, head.length + 1, (head ++ (marked ++ tail)).toList⟩ := by
    rw [String.append_assoc, locate?_append, String.toList_append, firstLine_append hline, hlines,
      hlastLine, hfirstLine, String.length_toList, String.toList_append, String.toList_append]
  have hwidth : (before ++ marked).utf8ByteSize - before.utf8ByteSize = marked.utf8ByteSize := by
    rw [String.utf8ByteSize_append, Nat.add_sub_cancel_left]
  have hmarks := excerpt_marks u.headline marked.utf8ByteSize (above.toList.count '\n' + 1) head
    marked tail
  rw [caretCount_eq hmarked] at hmarks
  refine ⟨above, head, tail, below, _, ⟨hbefore, hlast, hhead⟩, ⟨hafter, hfirst, htail⟩, ?_, hmarks,
    caretCount_eq_length_iff⟩
  simp only [Unwind.report?, hspan, hlocate, hwidth, Option.map_some]

/-- A string of three characters and four bytes on the second line. -/
theorem carets_mark_span_second_line :
    ∃ above head tail below report : String,
      ("a = 1\nb = " = above ++ head ∧ (∀ c ∈ above.toList.getLast?, c = '\n') ∧
        '\n' ∉ head.toList) ∧
      (" / 0\n" = tail ++ below ∧ (∀ c ∈ below.toList.head?, c = '\n') ∧ '\n' ∉ tail.toList) ∧
      (Unwind.failure .divideByZero (some ⟨10, 14⟩)).report? (some "a = 1\nb = \"é\" / 0\n") =
        some report ∧
      Marks report (toString (above.toList.count '\n' + 1) ++ " | ") head "\"é\"" tail
        (min 4 ("\"é\"" ++ tail).length) ∧
      (min 4 ("\"é\"" ++ tail).length = 3 ↔
        (∀ c ∈ "\"é\"".toList, c.utf8Size = 1) ∨ tail = "") :=
  @carets_mark_span (.failure .divideByZero (some ⟨10, 14⟩)) "a = 1\nb = " "\"é\"" " / 0\n"
    (by decide) (by decide) (by decide)

/-- Before the carets of a report stands something else. -/
theorem Marks.getLast?_ne {report label head : String} {carets : Nat}
    (h : Marks report label head marked tail carets) :
    (report.toList.take (report.toList.length - carets)).getLast? ≠ some '^' := by
  obtain ⟨upper, margin, rfl, hmargin, -⟩ := h
  intro hlast
  rw [String.toList_append, String.toList_ofList, List.length_append, List.length_replicate,
    Nat.add_sub_cancel, List.take_left, String.toList_append, String.toList_append,
    List.append_assoc, List.getLast?_append_of_ne_nil _ (by simp)] at hlast
  have hmem := List.mem_of_getLast? hlast
  rw [List.mem_append] at hmem
  rcases hmem with hbreak | hmem
  · simp at hbreak
  · simpa using hmargin _ hmem

/-- The carets count bytes: an undefined name of one character and two bytes, in the middle of a
line, has two carets. -/
theorem carets_past_span :
    ¬ ∀ (u : Unwind) (before marked after : String),
      u.span? = some ⟨before.utf8ByteSize, (before ++ marked).utf8ByteSize⟩ → marked ≠ "" →
      '\n' ∉ marked.toList →
      ∃ label head tail report, u.report? (some (before ++ marked ++ after)) = some report ∧
        Marks report label head marked tail marked.length := by
  intro h
  obtain ⟨label, head, tail, report, hreport, hmarks⟩ :=
    h (.failure (.unknownIdentifier "é" []) (some ⟨4, 6⟩)) "x = " "é" " + 1"
      (by decide) (by decide) (by decide)
  have hcomputed : (Unwind.failure (.unknownIdentifier "é" []) (some ⟨4, 6⟩)).report?
      (some "x = é + 1") = some ("error[unknown-identifier]: undefined variable 'é'\n" ++
        " --> 1:5\n  |\n1 | x = é + 1\n  |     ^^") := by
    decide +kernel
  obtain rfl := Option.some.inj (hcomputed.symm.trans hreport)
  exact hmarks.getLast?_ne (by decide +kernel)

end TableScript
