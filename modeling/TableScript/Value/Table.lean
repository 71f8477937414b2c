import TableScript.Text.Blank
import TableScript.Value.Show

/-!
# Tables

Columns are as wide as their widest text and stand two blanks apart, under their headers. Widths
count characters without looks; blanks at the end of a line are dropped.
-/

namespace TableScript.Table

/-- A cell: what is written, and how many characters of it are seen. -/
structure Cell where
  text : String
  width : Nat

/-- The cell of a value. -/
def cell (st : Store) (colour : Bool) (v : Value) : Cell := ⟨st.render v colour, (st.text v).length⟩

/-- The cell of a header. -/
def header (name : String) : Cell := ⟨name, name.length⟩

/-- Widens columns to fit a row; cells beyond the last column count for nothing. -/
def widen : List Nat → List Cell → List Nat
  | w :: ws, c :: cs => max w c.width :: widen ws cs
  | ws, _ => ws

/-- A cell filled up with blanks. -/
def pad (width : Nat) (c : Cell) : String :=
  c.text ++ String.ofList (List.replicate (width - c.width) ' ')

/-- Cells filled up to the widths of their columns. -/
def padRow : List Nat → List Cell → List String
  | _, [] => []
  | [], c :: cs => pad 0 c :: padRow [] cs
  | w :: ws, c :: cs => pad w c :: padRow ws cs

/-- One line of the table. -/
def line (widths : List Nat) (row : List Cell) : String :=
  trimEnd ("  ".intercalate (padRow widths row))

/-- The lines of a table: the headers, then the rows. -/
def lines (st : Store) (headers : List String) (rows : List (List Value)) (colour : Bool) :
    List String :=
  let top := headers.map header
  let body := rows.map (·.map (cell st colour))
  let widths := body.foldl widen (top.map (·.width))
  (top :: body).map (line widths)

end TableScript.Table
