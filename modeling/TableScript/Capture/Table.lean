import TableScript.Json.Basic

/-!
# Captures

A capture is a list of named columns of cells, one per name; cells are documents where nothing else
is said. Merging two captures stacks rows when both have the same columns, puts columns side by side
when they have none in common, and repeats a side with a single row to the length of the other. It
never looks at a cell.
-/

namespace TableScript

/-- Named columns, in the order of capture. -/
abbrev Capture (α : Type := Json) := List (String × List α)

/-- Why two captures cannot be merged. -/
inductive MergeError where
  | incompatibleRows (left right : Nat)
  | conflict
  deriving DecidableEq, Repr

/-- The wording of a failed merge. -/
def MergeError.message : MergeError → String
  | incompatibleRows left right =>
    "cannot merge: incompatible row counts (" ++ toString left ++ " vs " ++ toString right ++ ")"
  | conflict => "cannot merge: conflicting capture"

namespace Capture

variable {α : Type}

/-- The cells of a column. -/
def column? (c : Capture α) (name : String) : Option (List α) := c.lookup name

/-- Whether a column is there. -/
def hasColumn (c : Capture α) (name : String) : Bool := (c.column? name).isSome

/-- The number of rows, read off the first column. -/
def rowCount (c : Capture α) : Nat :=
  match c with
  | [] => 0
  | (_, cells) :: _ => cells.length

/-- Every column's first cell, repeated. -/
def broadcast [Inhabited α] (c : Capture α) (rows : Nat) : Capture α :=
  c.map fun (name, cells) => (name, List.replicate rows (cells.headD default))

/-- The rows of `b` below the rows of `a`, column by column. -/
def stack (a b : Capture α) : Capture α :=
  a.map fun (name, cells) => (name, cells ++ (b.column? name).getD [])

/-- How many columns of `a` are in `b` too. -/
def sharedCount (a b : Capture α) : Nat := (a.filter fun col => b.hasColumn col.1).length

/-- Both captures in one. -/
def merge [Inhabited α] (a b : Capture α) : Except MergeError (Capture α) :=
  if a.isEmpty then .ok b
  else if b.isEmpty then .ok a
  else if sharedCount a b = a.length ∧ sharedCount a b = b.length then .ok (stack a b)
  else if sharedCount a b > 0 then .error .conflict
  else if a.rowCount = b.rowCount then .ok (a ++ b)
  else if a.rowCount = 1 then .ok (a.broadcast b.rowCount ++ b)
  else if b.rowCount = 1 then .ok (a ++ b.broadcast a.rowCount)
  else .error (.incompatibleRows a.rowCount b.rowCount)

end Capture
end TableScript
