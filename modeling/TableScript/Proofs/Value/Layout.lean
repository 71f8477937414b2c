import Mathlib.Algebra.GroupWithZero.Nat
import Mathlib.Data.List.Forall2
import TableScript.Proofs.Text.Terminal
import TableScript.Value.Table

/-!
# The layout of tables

What is seen of a table does not depend on colour (`lines_layout`): each line shows the plain texts
of its cells, filled up to the widths of their columns and two blanks apart, up to white space at
the end.

1. A column is as wide as its widest text (`getElem?_widths`). A cell is written in colour but
   measured without, and shows the text that was measured (`cell_shows`).
2. So what is padded shows the padded text (`forall₂_padRow`), and a line the texts of its cells in
   their columns (`visible_line`).
3. All that stands before a column is as wide as the columns before it (`exists_column`), in every
   line.
-/

namespace TableScript.Table

variable {st : Store} {headers : List String} {rows : List (List Value)} {colour : Bool}

/-! ## The plain layout -/

/-- How wide the text of a row is in a column; a row that ends before it has none. -/
def widthAt (j : Nat) (row : List String) : Nat := (row[j]?.map String.length).getD 0

/-- The greatest width of a text in a column. -/
def columnWidth (texts : List (List String)) (j : Nat) : Nat := (texts.map (widthAt j)).foldl max 0

/-- Where a column starts: behind the columns before it, with two blanks after each. -/
def columnStart (texts : List (List String)) (j : Nat) : Nat :=
  ((List.range j).map fun i => columnWidth texts i + 2).sum

/-- A text filled up with blanks. -/
def padded (width : Nat) (s : String) : String :=
  s ++ String.ofList (List.replicate (width - s.length) ' ')

/-- Texts filled up to these widths, two blanks apart. -/
def spread (widths : Nat → Nat) (row : List String) : String :=
  "  ".intercalate (row.mapIdx fun j s => padded (widths j) s)

/-- The texts of a table: the headers, then the cells of each row. -/
def texts (st : Store) (headers : List String) (rows : List (List Value)) : List (List String) :=
  headers :: rows.map (·.map st.text)

/-- A value whose text has no escape characters, nor the addresses it links to. -/
def EscapeFree (st : Store) (v : Value) : Prop :=
  '\x1b' ∉ (st.text v).toList ∧
    ∀ t, v = .str t → ∀ s ∈ t.segments, ∀ address ∈ s.look.link, '\x1b' ∉ address.toList

/-! ## Widths -/

theorem getElem?_widen (widths : List Nat) (cells : List Cell) (j : Nat) :
    (widen widths cells)[j]? =
      widths[j]?.map fun w => max w ((cells[j]?.map Cell.width).getD 0) := by
  fun_induction widen widths cells generalizing j with
  | case1 w ws c cs ih =>
    cases j with
    | zero => rfl
    | succ j => simpa using ih j
  | case2 ws cs h =>
    cases ws with
    | nil => rfl
    | cons w ws =>
      cases cs with
      | nil => simp
      | cons c cs => exact absurd rfl (h w ws c cs rfl)

/-- Row after row, a column gets as wide as its widest text. -/
theorem getElem?_foldl_widen (widths : List Nat) (j : Nat) :
    ((rows.map (·.map (cell st colour))).foldl widen widths)[j]? =
      widths[j]?.map fun w => ((rows.map (·.map st.text)).map (widthAt j)).foldl max w := by
  induction rows generalizing widths with
  | nil => simp
  | cons row rows ih =>
    have hwidth : ((row.map (cell st colour))[j]?.map Cell.width).getD 0 =
        widthAt j (row.map st.text) := by
      rw [widthAt, List.getElem?_map, List.getElem?_map, Option.map_map, Option.map_map]
      rfl
    rw [List.map_cons, List.foldl_cons, ih, getElem?_widen, Option.map_map, hwidth]
    rfl

theorem getElem?_widths {j : Nat} (hj : j < headers.length) :
    ((rows.map (·.map (cell st colour))).foldl widen ((headers.map header).map Cell.width))[j]? =
      some (columnWidth (texts st headers rows) j) := by
  rw [getElem?_foldl_widen, List.getElem?_map, List.getElem?_map, List.getElem?_eq_getElem hj,
    columnWidth, texts, List.map_cons, List.foldl_cons, Nat.zero_max, widthAt,
    List.getElem?_eq_getElem hj]
  rfl

theorem foldl_max_ge (ns : List Nat) (m : Nat) :
    m ≤ ns.foldl max m ∧ ∀ n ∈ ns, n ≤ ns.foldl max m := by
  induction ns generalizing m with
  | nil => simp
  | cons n ns ih =>
    obtain ⟨hstart, hmem⟩ := ih (max m n)
    exact ⟨Nat.le_trans (Nat.le_max_left m n) hstart,
      List.forall_mem_cons.2 ⟨Nat.le_trans (Nat.le_max_right m n) hstart, hmem⟩⟩

theorem length_le_columnWidth {texts : List (List String)} {row : List String} (h : row ∈ texts)
    {j : Nat} {s : String} (hs : row[j]? = some s) : s.length ≤ columnWidth texts j := by
  have hwidth : widthAt j row = s.length := by
    rw [widthAt, hs]
    rfl
  exact hwidth ▸ (foldl_max_ge _ 0).2 _ (List.mem_map_of_mem h)

/-! ## Columns -/

theorem length_padded {width : Nat} {s : String} (h : s.length ≤ width) :
    (padded width s).length = width := by
  rw [padded, String.length_append, String.length_ofList, List.length_replicate]
  omega

theorem spread_cons (widths : Nat → Nat) (s : String) {row : List String} (h : row ≠ []) :
    spread widths (s :: row) =
      padded (widths 0) s ++ "  " ++ spread (fun j => widths (j + 1)) row := by
  obtain ⟨s', row, rfl⟩ := List.exists_cons_of_ne_nil h
  simp only [spread, List.mapIdx_cons, String.intercalate_cons_cons]

/-- The first text of a row comes first, filled up. -/
theorem exists_spread_cons (widths : Nat → Nat) (s : String) (row : List String) :
    ∃ after, spread widths (s :: row) = padded (widths 0) s ++ after := by
  by_cases h : row = []
  · exact ⟨"", by simp [spread, h]⟩
  · exact ⟨_, by rw [spread_cons widths s h, String.append_assoc]⟩

/-- Texts that fit into their columns: each starts where the widths before it and two blanks after
each of them end. -/
theorem exists_column {widths : Nat → Nat} {row : List String}
    (hfit : ∀ i s, row[i]? = some s → s.length ≤ widths i) {j : Nat} {s : String}
    (hs : row[j]? = some s) :
    ∃ before after : String, spread widths row = before ++ s ++ after ∧
      before.length = ((List.range j).map fun i => widths i + 2).sum := by
  induction row generalizing widths j with
  | nil => cases hs
  | cons x row ih =>
    cases j with
    | zero =>
      cases hs
      obtain ⟨after, hafter⟩ := exists_spread_cons widths s row
      exact ⟨"", _, by rw [hafter, padded, String.empty_append, String.append_assoc], rfl⟩
    | succ j =>
      obtain ⟨before, after, hspread, hlength⟩ := ih (fun i => hfit (i + 1)) hs
      have hne : row ≠ [] := fun h => by
        rw [h] at hs
        cases hs
      refine ⟨padded (widths 0) x ++ "  " ++ before, after, ?_, ?_⟩
      · rw [spread_cons widths x hne, hspread]
        simp only [String.append_assoc]
      · rw [String.length_append, String.length_append, hlength, length_padded (hfit 0 x rfl),
          List.range_succ_eq_map, List.map_cons, List.sum_cons, List.map_map]
        rfl

/-! ## Cells and lines -/

/-- A cell that shows a text and is as wide as the text. -/
def CellShows (c : Cell) (s : String) : Prop := Shows c.text s ∧ c.width = s.length

theorem cell_shows {v : Value} (h : EscapeFree st v) (colour : Bool) :
    CellShows (cell st colour v) (st.text v) := by
  refine ⟨?_, rfl⟩
  cases v with
  | str t => exact RichText.shows_render h.1 (h.2 t rfl) colour
  | _ => exact shows_self h.1

theorem header_shows {name : String} (h : '\x1b' ∉ name.toList) : CellShows (header name) name :=
  ⟨shows_self h, rfl⟩

theorem pad_shows {c : Cell} {s : String} (h : CellShows c s) (width : Nat) :
    Shows (pad width c) (padded width s) := by
  rw [pad, padded, h.2]
  refine h.1.append (shows_self fun hmem => ?_)
  rw [String.toList_ofList] at hmem
  exact absurd (List.eq_of_mem_replicate hmem) (by decide)

theorem forall₂_padRow {cells : List Cell} {row : List String}
    (h : List.Forall₂ CellShows cells row) {widths : List Nat} {f : Nat → Nat}
    (hwidths : ∀ j < row.length, widths[j]? = some (f j)) :
    List.Forall₂ Shows (padRow widths cells) (row.mapIdx fun j s => padded (f j) s) := by
  induction h generalizing widths f with
  | nil => cases widths <;> exact .nil
  | @cons c s cells row hc hcells ih =>
    cases widths with
    | nil => cases hwidths 0 (Nat.zero_lt_succ _)
    | cons w widths =>
      obtain rfl : w = f 0 := Option.some.inj (hwidths 0 (Nat.zero_lt_succ _))
      rw [padRow, List.mapIdx_cons]
      exact .cons (pad_shows hc _) (ih fun j hj => hwidths (j + 1) (Nat.succ_lt_succ hj))

theorem shows_intercalate {sep : String} (hsep : Shows sep sep) {parts shown : List String}
    (h : List.Forall₂ Shows parts shown) :
    Shows (sep.intercalate parts) (sep.intercalate shown) := by
  induction h with
  | nil => exact shows_self (by simp)
  | @cons s s' parts shown hs hparts ih =>
    cases hparts with
    | nil => simpa using hs
    | cons ht hparts =>
      rw [String.intercalate_cons_cons, String.intercalate_cons_cons]
      exact (hs.append hsep).append ih

/-- Up to white space at the end, a line shows the texts of its cells in their columns. -/
theorem visible_line {cells : List Cell} {row : List String}
    (h : List.Forall₂ CellShows cells row) {widths : List Nat} {f : Nat → Nat}
    (hwidths : ∀ j < row.length, widths[j]? = some (f j)) :
    trimEnd (visible (line widths cells)) = trimEnd (spread f row) := by
  have hblanks : Shows "  " "  " := shows_self (by decide)
  rw [line, trimEnd_visible_trimEnd,
    (shows_intercalate hblanks (forall₂_padRow h hwidths)).visible_eq]
  rfl

theorem visible_lines (hheaders : ∀ name ∈ headers, '\x1b' ∉ name.toList)
    (hrows : ∀ row ∈ rows, row.length ≤ headers.length ∧ ∀ v ∈ row, EscapeFree st v)
    (colour : Bool) :
    (lines st headers rows colour).map (fun l => trimEnd (visible l)) =
      (texts st headers rows).map fun row =>
        trimEnd (spread (columnWidth (texts st headers rows)) row) := by
  have htop : List.Forall₂ CellShows (headers.map header) headers :=
    List.forall₂_map_left_iff.2 (List.forall₂_same.2 fun name h => header_shows (hheaders name h))
  have hbody : ∀ row ∈ rows, List.Forall₂ CellShows (row.map (cell st colour)) (row.map st.text) :=
    fun row hrow => List.forall₂_map_left_iff.2 (List.forall₂_map_right_iff.2
      (List.forall₂_same.2 fun v hv => cell_shows ((hrows row hrow).2 v hv) colour))
  have hline : ∀ {cells : List Cell} {row : List String}, List.Forall₂ CellShows cells row →
      row.length ≤ headers.length →
      trimEnd (visible (line ((rows.map (·.map (cell st colour))).foldl widen
        ((headers.map header).map Cell.width)) cells)) =
        trimEnd (spread (columnWidth (texts st headers rows)) row) :=
    fun h hlength => visible_line h fun j hj => getElem?_widths (Nat.lt_of_lt_of_le hj hlength)
  unfold lines
  extract_lets top body widths
  rw [List.map_map, List.map_cons]
  conv_rhs => rw [texts, List.map_cons]
  refine congrArg₂ List.cons (hline htop (Nat.le_refl _)) ?_
  rw [List.map_map, List.map_map]
  refine List.map_congr_left fun row hrow => hline (hbody row hrow) ?_
  rw [List.length_map]
  exact (hrows row hrow).1

/-- **The layout of a table does not depend on colour.** In a table whose texts and addresses have
no escape characters and whose rows are no longer than the headers, each line shows, up to white
space at the end, the plain texts of its cells, each filled up to the greatest width in its column
and two blanks apart. So a column starts at the same place of every line, and with and without
colour the same is seen. -/
theorem lines_layout (st : Store) (headers : List String) (rows : List (List Value))
    (hheaders : ∀ name ∈ headers, '\x1b' ∉ name.toList)
    (hrows : ∀ row ∈ rows, row.length ≤ headers.length ∧ ∀ v ∈ row, EscapeFree st v) :
    (∀ colour, (lines st headers rows colour).map (fun l => trimEnd (visible l)) =
      (texts st headers rows).map fun row =>
        trimEnd (spread (columnWidth (texts st headers rows)) row)) ∧
    (∀ (colour : Bool) (k : Nat) (line : String) (row : List String),
      (lines st headers rows colour)[k]? = some line →
      (texts st headers rows)[k]? = some row → ∀ (j : Nat) (s : String), row[j]? = some s →
      ∃ before after : String, trimEnd (visible line) = trimEnd (before ++ s ++ after) ∧
        before.length = columnStart (texts st headers rows) j) ∧
    (lines st headers rows true).map (fun l => trimEnd (visible l)) =
      (lines st headers rows false).map fun l => trimEnd (visible l) := by
  have hseen := visible_lines hheaders hrows
  refine ⟨hseen, fun colour k line row hline hrow j s hs => ?_,
    (hseen true).trans (hseen false).symm⟩
  have hfit : ∀ i s, row[i]? = some s → s.length ≤ columnWidth (texts st headers rows) i :=
    fun i s hs => length_le_columnWidth (List.mem_of_getElem? hrow) hs
  obtain ⟨before, after, hspread, hlength⟩ := exists_column hfit hs
  have hk := congrArg (·[k]?) (hseen colour)
  simp only [List.getElem?_map, hline, hrow, Option.map_some, Option.some.injEq] at hk
  exact ⟨before, after, hspread ▸ hk, hlength⟩

/-- Bold and linked text, white space at the end, two bytes a character, and a short row. -/
theorem lines_layout_short_row :
    let bold : RichText := ⟨[⟨"né ", { style := .bold, link := some "a b" }⟩], by decide⟩
    let rows : List (List Value) := [[.str bold, .bool true], [.null]]
    (∀ name ∈ ["é", "n"], '\x1b' ∉ name.toList) ∧
    (∀ row ∈ rows, row.length ≤ 2 ∧ ∀ v ∈ row, EscapeFree {} v) ∧
    (lines {} ["é", "n"] rows true).map (fun l => trimEnd (visible l)) =
      (lines {} ["é", "n"] rows false).map fun l => trimEnd (visible l) := by
  intro bold rows
  have hheaders : ∀ name ∈ ["é", "n"], '\x1b' ∉ name.toList := by decide
  have hrows : ∀ row ∈ rows, row.length ≤ 2 ∧ ∀ v ∈ row, EscapeFree {} v := by
    have hbold : EscapeFree {} (.str bold) :=
      ⟨by decide, fun t ht => by obtain rfl := Value.str.inj ht; decide⟩
    have htrue : EscapeFree {} (.bool true) := ⟨by decide, fun t ht => by cases ht⟩
    have hnull : EscapeFree {} .null := ⟨by decide, fun t ht => by cases ht⟩
    simp [rows, hbold, htrue, hnull]
  exact ⟨hheaders, hrows, (lines_layout {} ["é", "n"] rows hheaders hrows).2.2⟩

end TableScript.Table
