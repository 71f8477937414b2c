import TableScript.Number.Double

/-!
# Documents

`Json` is a document with its objects as member lists, in order. A member list read from text may
name a key twice; `collapse` gives such an object one member per key, with the first position and
the last value, and this is the form in which documents are used.
-/

namespace TableScript

/-- A document. Whole numbers from `-2⁶³` below `2⁶⁴` are integers, every other number is a
double. -/
inductive Json where
  | null
  | bool (b : Bool)
  | int (n : Int)
  | float (x : Double)
  | str (s : String)
  | arr (items : List Json)
  | obj (members : List (String × Json))
  deriving Inhabited, Repr

namespace Json

/-- Writes a member: an existing key keeps its position and takes the new value. -/
def setMember {α : Type} (key : String) (value : α) : List (String × α) → List (String × α)
  | [] => [(key, value)]
  | (k, v) :: rest => if k = key then (k, value) :: rest else (k, v) :: setMember key value rest

/-- One member per key: first position, last value. -/
def collapseMembers {α : Type} (members : List (String × α)) : List (String × α) :=
  members.foldl (fun acc (k, v) => setMember k v acc) []

mutual

/-- Gives every object, at any depth, one member per key. -/
def collapse : Json → Json
  | .arr items => .arr (collapseItems items)
  | .obj members => .obj (collapseMembers (collapseEntries members))
  | j => j

/-- `collapse` on every item. -/
def collapseItems : List Json → List Json
  | [] => []
  | j :: rest => collapse j :: collapseItems rest

/-- `collapse` on every member's value. -/
def collapseEntries : List (String × Json) → List (String × Json)
  | [] => []
  | (k, j) :: rest => (k, collapse j) :: collapseEntries rest

end

/-- The value of the first member with this key. -/
def member? (key : String) : List (String × Json) → Option Json
  | [] => none
  | (k, v) :: rest => if k = key then some v else member? key rest

end Json
end TableScript
