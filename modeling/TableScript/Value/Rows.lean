import TableScript.Value.Order

/-!
# Sorting rows

Columns are sorted together: the rules decide a permutation of the rows, by a stable sort, and
every column is reordered by it, so that rows stay intact.
-/

namespace TableScript

/-- Sort by one column in one direction. -/
structure SortRule where
  column : Nat
  direction : SortDirection
  deriving DecidableEq, Repr, Inhabited

/-- An order as it is, or backwards. -/
def SortDirection.apply (d : SortDirection) (o : Ordering) : Ordering :=
  match d with
  | .ascending => o
  | .descending => o.swap

namespace Rows

/-- The first `count` rows of columns; a cell that is missing is null. -/
def ofColumns : (count : Nat) → List (List Value) → List (List Value)
  | 0, _ => []
  | count + 1, columns =>
    columns.map (·.headD .null) :: ofColumns count (columns.map List.tail)

/-- The order of two rows by the rules: the first rule that tells them apart decides. -/
def compare (rules : List SortRule) (a b : List Value) : Ordering :=
  match rules with
  | [] => .eq
  | r :: rest =>
    (r.direction.apply ((a.getD r.column .null).order (b.getD r.column .null))).then
      (compare rest a b)

/-- The number of rows. -/
def count (columns : List (List Value)) : Nat := (columns.headD []).length

/-- Checks that all columns have the same length. -/
def checkLengths (columns : List (List Value)) : Except Fault Unit :=
  match columns.find? (·.length ≠ count columns) with
  | some bad => .error (.arityMismatch ("cannot sort columns of different lengths (" ++
      toString (count columns) ++ " vs " ++ toString bad.length ++ ")"))
  | none => .ok ()

/-- Checks that a rule names a column and that the column's cells have a place in the order. -/
def checkRule (columns : List (List Value)) (r : SortRule) : Except Fault Unit :=
  match columns[r.column]? with
  | some cells => cells.forM fun v => (v.rank).map fun _ => ()
  | none => .error (.bug ("sort rule names column " ++ toString r.column ++ " of " ++
      toString columns.length))

/-- The permutation that sorts the rows. -/
def permutation (columns : List (List Value)) (rules : List SortRule) :
    Except Fault (List Nat) := do
  checkLengths columns
  rules.forM (checkRule columns)
  let rows := ofColumns (count columns) columns
  return (rows.zipIdx.mergeSort fun a b => compare rules a.1 b.1 ≠ .gt).map (·.2)

/-- A column with its rows in the order of a permutation. -/
def reorder (perm : List Nat) (column : List Value) : List Value :=
  let cells := column.toArray
  perm.map fun i => cells.getD i .null

/-- Sorts the rows. -/
def sort (columns : List (List Value)) (rules : List SortRule) :
    Except Fault (List (List Value)) := do
  let perm ← permutation columns rules
  return columns.map (reorder perm)

/-- The rules that sort by every column, in order. -/
def generalRules (columns : Nat) (direction : SortDirection) : List SortRule :=
  (List.range columns).map fun column => ⟨column, direction⟩

/-- Sorts the elements of a list. -/
def sortValues (values : List Value) (direction : SortDirection) : Except Fault (List Value) := do
  let sorted ← sort [values] [⟨0, direction⟩]
  return sorted.headD []

end Rows
end TableScript
