import TableScript.Proofs.Fault.Carets

/-!
# Line and column of a position

`locate?` finds line and column of each position between characters, and a position is known from
its line and column (`location_exact`).

1. A position cuts the text. What stands before it is the lines above and the start of its line,
   what stands behind it is the rest of its line and the lines below. Cut at its line breaks, the
   text has this line where `locate?` counts it, and the lines above have the bytes that stand
   before it (`exists_lines`).
2. So the place of a line and the start of it up to the column give back the position
   (`isLocation_of_split`), and two positions with one line and column are the same.
3. The four places that are searched for by bytes, where the line starts and ends, its number and
   the column, are those that the cut gives (`searchLocation?_eq`).
-/

namespace TableScript

open String (utf8Len utf8Len_append utf8Len_cons utf8Len_nil)

variable {cs source before after above head tail below : List Char} {n p : Nat}

/-! ## Positions -/

/-- A byte offset at which a character of the text starts, or the text ends. -/
def IsBoundary (cs : List Char) (p : Nat) : Prop :=
  ∃ before after, cs = before ++ after ∧ utf8Len before = p

theorem splitAtByte?_past (h : utf8Len cs ≤ n) : splitAtByte? cs n = some (cs, []) := by
  induction cs generalizing n with
  | nil => cases n <;> rfl
  | cons c cs ih =>
    have hc := c.utf8Size_pos
    rw [utf8Len_cons] at h
    obtain ⟨m, rfl⟩ := Nat.exists_eq_add_one_of_ne_zero (show n ≠ 0 by omega)
    rw [splitAtByte?, if_pos (by omega), ih (by omega)]
    rfl

theorem eq_append_of_splitAtByte? (h : splitAtByte? cs n = some (before, after)) :
    cs = before ++ after ∧ utf8Len before = min n (utf8Len cs) := by
  induction cs generalizing n before with
  | nil =>
    cases n <;> cases h <;> exact ⟨rfl, (Nat.min_zero _).symm⟩
  | cons c cs ih =>
    cases n with
    | zero =>
      cases h
      exact ⟨rfl, (Nat.zero_min _).symm⟩
    | succ n =>
      rw [splitAtByte?] at h
      split_ifs at h with hle
      obtain ⟨⟨b, a⟩, hrest, heq⟩ := Option.map_eq_some_iff.1 h
      cases heq
      obtain ⟨hcs, hbytes⟩ := ih hrest
      refine ⟨by rw [hcs]; rfl, ?_⟩
      rw [utf8Len_cons, utf8Len_cons, hbytes]
      omega

/-- The text is cut at a position between characters, and at its end by a position past it. -/
theorem exists_splitAtByte? (h : IsBoundary cs (min p (utf8Len cs))) :
    ∃ before after, splitAtByte? cs p = some (before, after) := by
  rcases Nat.le_total (utf8Len cs) p with hpast | hinside
  · exact ⟨cs, [], splitAtByte?_past hpast⟩
  · obtain ⟨before, after, rfl, hbytes⟩ := h
    rw [Nat.min_eq_left hinside] at hbytes
    exact ⟨before, after, hbytes ▸ splitAtByte?_append before after⟩

/-! ## Lines -/

/-- The bytes of lines that end in line breaks. -/
def linesLength (lines : List (List Char)) : Nat := utf8Len (lines.flatMap (· ++ ['\n']))

theorem length_splitOn_newline (cs : List Char) : (cs.splitOn '\n').length = cs.count '\n' + 1 := by
  induction cs with
  | nil => rfl
  | cons c cs ih =>
    unfold List.splitOn at ih ⊢
    rw [List.splitOnP_cons_eq_if_modifyHead, List.count_cons]
    split
    · rw [List.length_cons, ih]
    · rw [List.length_modifyHead, ih, Nat.add_zero]

theorem flatMap_newline {lines : List (List Char)} (h : lines ≠ []) :
    lines.flatMap (· ++ ['\n']) = ['\n'].intercalate lines ++ ['\n'] := by
  induction lines with
  | nil => exact absurd rfl h
  | cons line lines ih =>
    cases lines with
    | nil => simp
    | cons next lines =>
      rw [List.flatMap_cons, ih (List.cons_ne_nil _ _), List.intercalate_cons_cons]
      simp

theorem exists_lines (habove : ∀ c ∈ above.getLast?, c = '\n') {line : List Char}
    (hline : '\n' ∉ line) (hbelow : ∀ c ∈ below.head?, c = '\n') :
    ∃ upper lower, (above ++ (line ++ below)).splitOn '\n' = upper ++ line :: lower ∧
      upper.length = above.count '\n' ∧ upper.flatMap (· ++ ['\n']) = above := by
  have hfree : ∀ c ∈ line, (c == '\n') = false := fun c hc =>
    beq_eq_false_iff_ne.2 fun heq => hline (heq ▸ hc)
  have hstart : ∃ lower, (line ++ below).splitOn '\n' = line :: lower := by
    cases below with
    | nil =>
      rw [List.append_nil]
      exact ⟨[], List.splitOnP_eq_singleton hfree⟩
    | cons c below =>
      rw [hbelow c rfl]
      exact ⟨below.splitOn '\n', List.splitOnP_append_cons_of_forall_mem hfree '\n' rfl below⟩
  obtain ⟨lower, hlower⟩ := hstart
  rcases List.eq_nil_or_concat' above with rfl | ⟨upper, c, rfl⟩
  · exact ⟨[], lower, hlower, rfl, rfl⟩
  · obtain rfl := habove c List.getLast?_concat
    refine ⟨upper.splitOn '\n', lower, ?_, ?_, ?_⟩
    · rw [List.append_assoc, List.singleton_append, ← hlower]
      exact List.splitOnP_append_cons upper (line ++ below) rfl
    · rw [length_splitOn_newline, List.count_append]
      rfl
    · have hne : upper.splitOn '\n' ≠ [] := List.splitOnP_ne_nil _ _
      rw [flatMap_newline hne, List.intercalate_splitOn]

/-! ## The location of a position -/

/-- A position in its text: before it the lines above and the start of its line, behind it the rest
of its line and the lines below. -/
structure Around (source : List Char) (p : Nat) (above head tail below : List Char) : Prop where
  source_eq : source = above ++ (head ++ (tail ++ below))
  position_eq : min p (utf8Len source) = utf8Len above + utf8Len head
  above_ends : ∀ c ∈ above.getLast?, c = '\n'
  not_mem_head : '\n' ∉ head
  not_mem_tail : '\n' ∉ tail
  below_starts : ∀ c ∈ below.head?, c = '\n'
  locate_eq : locate? source p = some ⟨above.count '\n' + 1, head.length + 1, head ++ tail⟩

theorem exists_around (h : splitAtByte? source p = some (before, after)) :
    ∃ above head tail below, Around source p above head tail below := by
  obtain ⟨hsource, hbytes⟩ := eq_append_of_splitAtByte? h
  obtain ⟨above, hbefore, habove⟩ := exists_lastLine_append before
  obtain ⟨below, hafter, hbelow⟩ := exists_firstLine_append after
  have hhead := not_mem_lastLine before
  have hcount : before.count '\n' = above.count '\n' := by
    conv_lhs => rw [hbefore, List.count_append, List.count_eq_zero.2 hhead, Nat.add_zero]
  refine ⟨above, lastLine before, firstLine after, below, ?_, ?_, habove, hhead,
    not_mem_firstLine after, hbelow, ?_⟩
  · rw [← hafter, ← List.append_assoc, ← hbefore, hsource]
  · rw [← hbytes, ← utf8Len_append, ← hbefore]
  · rw [locate?, h, ← hcount]
    rfl

/-- Line and column of a position: the line is that of the text with this number, the column is not
past its end, and before the position stand the bytes of the lines above, each with its line break,
and those of the line up to the column. -/
structure IsLocation (source : List Char) (p : Nat) (l : Location) : Prop where
  line_pos : 1 ≤ l.line
  column_pos : 1 ≤ l.column
  text_eq : (source.splitOn '\n')[l.line - 1]? = some l.text
  column_le : l.column - 1 ≤ l.text.length
  offset_eq : p = linesLength ((source.splitOn '\n').take (l.line - 1)) +
    utf8Len (l.text.take (l.column - 1))

/-- A position is known from its line and column. -/
theorem IsLocation.unique {q : Nat} {l m : Location} (h : IsLocation source p l)
    (h' : IsLocation source q m) (hline : m.line = l.line) (hcolumn : m.column = l.column) :
    q = p := by
  have htext : m.text = l.text := by
    have hm := h'.text_eq
    rw [hline, h.text_eq] at hm
    exact (Option.some.inj hm).symm
  rw [h'.offset_eq, h.offset_eq, hline, hcolumn, htext]

theorem Around.isLocation (h : Around source p above head tail below) :
    IsLocation source (min p (utf8Len source))
      ⟨above.count '\n' + 1, head.length + 1, head ++ tail⟩ := by
  have hline : '\n' ∉ head ++ tail := fun hmem =>
    (List.mem_append.1 hmem).elim h.not_mem_head h.not_mem_tail
  obtain ⟨upper, lower, hlines, hcount, hupper⟩ := exists_lines h.above_ends hline h.below_starts
  have hcut : source.splitOn '\n' = upper ++ (head ++ tail) :: lower := by
    rw [← hlines, h.source_eq, List.append_assoc head]
  refine ⟨Nat.le_add_left 1 _, Nat.le_add_left 1 _, ?_, ?_, ?_⟩
  · simp only [Nat.add_sub_cancel, hcut, ← hcount, List.getElem?_append_right (Nat.le_refl _),
      Nat.sub_self, List.getElem?_cons_zero]
  · rw [Nat.add_sub_cancel, List.length_append]
    exact Nat.le_add_right _ _
  · simp only [Nat.add_sub_cancel, hcut, ← hcount, List.take_left, linesLength, hupper]
    exact h.position_eq

/-! ## The searches -/

/-- The byte at which a character first stands. -/
def findByte? (c : Char) : List Char → Option Nat
  | [] => none
  | d :: rest => if d = c then some 0 else (findByte? c rest).map (d.utf8Size + ·)

/-- The byte at which a character last stands. -/
def rfindByte? (c : Char) : List Char → Option Nat
  | [] => none
  | d :: rest =>
    match rfindByte? c rest with
    | some i => some (d.utf8Size + i)
    | none => if d = c then some 0 else none

/-- The text from one byte up to another, if characters start there. -/
def sliceBytes? (cs : List Char) (start stop : Nat) : Option (List Char) :=
  (splitAtByte? cs start).bind fun cut => (splitAtByte? cut.2 (stop - start)).map (·.1)

/-- The location of a position by four searches: the start of its line is behind the last line break
before it and the end at the next one, the lines are counted up to the start, and the columns from
there. -/
def searchLocation? (source : List Char) (offset : Nat) : Option Location := do
  let position := min offset (utf8Len source)
  let before ← sliceBytes? source 0 position
  let after ← sliceBytes? source position (utf8Len source)
  let start := (rfindByte? '\n' before).elim 0 (· + 1)
  let stop := (findByte? '\n' after).elim (utf8Len source) (position + ·)
  let above ← sliceBytes? source 0 start
  let head ← sliceBytes? source start position
  let text ← sliceBytes? source start stop
  return { line := above.count '\n' + 1, column := head.length + 1, text }

theorem sliceBytes?_eq (before part after : List Char) {start stop : Nat}
    (hcut : cs = before ++ (part ++ after)) (hstart : start = utf8Len before)
    (hstop : stop = utf8Len before + utf8Len part) : sliceBytes? cs start stop = some part := by
  rw [sliceBytes?, hcut, hstart, hstop, splitAtByte?_append, Option.bind_some,
    Nat.add_sub_cancel_left, splitAtByte?_append]
  rfl

theorem findByte?_append {c : Char} (h : c ∉ before) (after : List Char) :
    findByte? c (before ++ after) = (findByte? c after).map (utf8Len before + ·) := by
  induction before with
  | nil => simp
  | cons d before ih =>
    rw [List.mem_cons, not_or] at h
    rw [List.cons_append, findByte?, if_neg (Ne.symm h.1), ih h.2, Option.map_map, utf8Len_cons]
    refine congrArg (Option.map · _) (funext fun i => ?_)
    simp only [Function.comp_apply]
    omega

theorem rfindByte?_eq_none {c : Char} (h : c ∉ cs) : rfindByte? c cs = none := by
  induction cs with
  | nil => rfl
  | cons d cs ih =>
    rw [List.mem_cons, not_or] at h
    rw [rfindByte?, ih h.2]
    exact if_neg (Ne.symm h.1)

theorem rfindByte?_append {c : Char} (before : List Char) (h : c ∉ after) :
    rfindByte? c (before ++ c :: after) = some (utf8Len before) := by
  induction before with
  | nil =>
    rw [List.nil_append, rfindByte?, rfindByte?_eq_none h]
    exact if_pos rfl
  | cons d before ih =>
    rw [List.cons_append, rfindByte?, ih, utf8Len_cons, Nat.add_comm]

/-- The search for the start of the line finds where it starts. -/
theorem start_eq (habove : ∀ c ∈ above.getLast?, c = '\n') (hhead : '\n' ∉ head) :
    (rfindByte? '\n' (above ++ head)).elim 0 (· + 1) = utf8Len above := by
  rcases List.eq_nil_or_concat' above with rfl | ⟨upper, c, rfl⟩
  · rw [List.nil_append, rfindByte?_eq_none hhead]
    rfl
  · obtain rfl := habove c List.getLast?_concat
    rw [List.append_assoc, List.singleton_append, rfindByte?_append upper hhead, utf8Len_append]
    rfl

/-- The search for the end of the line finds where it ends. -/
theorem stop_eq (htail : '\n' ∉ tail) (hbelow : ∀ c ∈ below.head?, c = '\n') (n : Nat) :
    (findByte? '\n' (tail ++ below)).elim (n + utf8Len (tail ++ below)) (n + ·) =
      n + utf8Len tail := by
  rw [findByte?_append htail]
  cases below with
  | nil => rw [List.append_nil]; rfl
  | cons c below =>
    obtain rfl := hbelow c rfl
    rfl

theorem Around.searchLocation?_eq (h : Around source p above head tail below) :
    searchLocation? source p = some ⟨above.count '\n' + 1, head.length + 1, head ++ tail⟩ := by
  have hsource := h.source_eq
  have hposition := h.position_eq
  have hsize : utf8Len source = utf8Len above + utf8Len head + utf8Len (tail ++ below) := by
    rw [hsource, utf8Len_append, utf8Len_append, Nat.add_assoc]
  have hbefore : sliceBytes? source 0 (min p (utf8Len source)) = some (above ++ head) :=
    sliceBytes?_eq [] (above ++ head) (tail ++ below) (by simpa using hsource) rfl
      (by rw [hposition, utf8Len_append, utf8Len_nil, Nat.zero_add])
  have hafter : sliceBytes? source (min p (utf8Len source)) (utf8Len source) =
      some (tail ++ below) :=
    sliceBytes?_eq (above ++ head) (tail ++ below) [] (by simpa using hsource)
      (by rw [hposition, utf8Len_append]) (by rw [utf8Len_append, hsize])
  have hstart := start_eq h.above_ends h.not_mem_head
  have hstop : (findByte? '\n' (tail ++ below)).elim (utf8Len source)
      (min p (utf8Len source) + ·) = utf8Len above + utf8Len (head ++ tail) := by
    rw [hposition, hsize, stop_eq h.not_mem_tail h.below_starts, utf8Len_append, Nat.add_assoc]
  have habove : sliceBytes? source 0 (utf8Len above) = some above :=
    sliceBytes?_eq [] above (head ++ (tail ++ below)) hsource rfl
      (by rw [utf8Len_nil, Nat.zero_add])
  have hhead : sliceBytes? source (utf8Len above) (min p (utf8Len source)) = some head :=
    sliceBytes?_eq above head (tail ++ below) hsource rfl hposition
  have htext : sliceBytes? source (utf8Len above) (utf8Len above + utf8Len (head ++ tail)) =
      some (head ++ tail) :=
    sliceBytes?_eq above (head ++ tail) below (by simpa using hsource) rfl rfl
  simp only [searchLocation?, hbefore, hafter, hstart, hstop, habove, hhead, htext,
    Option.bind_eq_bind, Option.bind_some, Option.pure_def]

/-- The searches find what the cut gives. -/
theorem searchLocation?_eq (source : List Char) (p : Nat) :
    searchLocation? source p = locate? source p := by
  cases h : splitAtByte? source p with
  | some cut =>
    obtain ⟨above, head, tail, below, haround⟩ := exists_around h
    rw [haround.searchLocation?_eq, haround.locate_eq]
  | none =>
    have hinside : p < utf8Len source := by
      by_contra hpast
      rw [splitAtByte?_past (Nat.le_of_not_lt hpast)] at h
      exact Option.some_ne_none _ h
    have hslice : sliceBytes? source 0 p = none := by
      rw [sliceBytes?, splitAtByte?_zero, Option.bind_some, Nat.sub_zero, h]
      rfl
    rw [locate?, h, searchLocation?, Nat.min_eq_left hinside.le, hslice]
    rfl

/-! ## All positions -/

theorem isLocation_of_locate? {l : Location} (h : locate? source p = some l) :
    IsLocation source (min p (utf8Len source)) l := by
  obtain ⟨⟨before, after⟩, hsplit, -⟩ := Option.map_eq_some_iff.1 h
  obtain ⟨above, head, tail, below, haround⟩ := exists_around hsplit
  rw [haround.locate_eq] at h
  exact Option.some.inj h ▸ haround.isLocation

/-- **Line and column.** Every position between characters, one past the end counting as the end, is
found by the searches: the line that holds it by its number and text, and the column by the
characters before it on this line. No other position has the same line and column. -/
theorem location_exact (h : IsBoundary source (min p (utf8Len source))) :
    ∃ l, locate? source p = some l ∧ searchLocation? source p = some l ∧
      IsLocation source (min p (utf8Len source)) l ∧
      ∀ q m, locate? source q = some m → m.line = l.line → m.column = l.column →
        min q (utf8Len source) = min p (utf8Len source) := by
  obtain ⟨before, after, hsplit⟩ := exists_splitAtByte? h
  obtain ⟨above, head, tail, below, haround⟩ := exists_around hsplit
  refine ⟨_, haround.locate_eq, (searchLocation?_eq source p).trans haround.locate_eq,
    haround.isLocation, ?_⟩
  intro q m hm hline hcolumn
  exact haround.isLocation.unique (isLocation_of_locate? hm) hline hcolumn

/-- The end of an empty line behind one of two characters and three bytes. -/
theorem location_exact_empty_line :
    IsBoundary ['a', 'é', '\n', '\n', 'b'] 4 ∧
    ∃ l, locate? ['a', 'é', '\n', '\n', 'b'] 4 = some l ∧
      searchLocation? ['a', 'é', '\n', '\n', 'b'] 4 = some l ∧
      IsLocation ['a', 'é', '\n', '\n', 'b'] 4 l ∧
      ∀ q m, locate? ['a', 'é', '\n', '\n', 'b'] q = some m → m.line = l.line →
        m.column = l.column → min q 6 = 4 := by
  have h : IsBoundary ['a', 'é', '\n', '\n', 'b'] 4 := ⟨['a', 'é', '\n'], ['\n', 'b'], rfl, rfl⟩
  exact ⟨h, location_exact h⟩

end TableScript
