/-!
# Field paths

A path leads from the root of a document to the cells of a field, one step at a time. Steps are
ordered: keys by their characters, then the wildcard, then all elements, then indices by value.
-/

namespace TableScript

/-- One step of a path. -/
inductive PathStep where
  /-- The member of an object with this key. -/
  | key (name : String)
  /-- Every member of an object. -/
  | wildcard
  /-- Every element of an array. -/
  | allElements
  /-- One element of an array; a negative index counts from the end. -/
  | index (i : Int64)
  deriving DecidableEq, Repr, Inhabited

/-- A path, from the root inwards. -/
abbrev Path := List PathStep

namespace PathStep

/-- The position of a step's form in the order of steps. -/
def rank : PathStep → Nat
  | key _ => 0
  | wildcard => 1
  | allElements => 2
  | index _ => 3

/-- The order of steps. -/
def compare : PathStep → PathStep → Ordering
  | key a, key b => Ord.compare a b
  | index i, index j => Ord.compare i.toInt j.toInt
  | s, t => Ord.compare s.rank t.rank

/-- A step as it is written after the steps before it. -/
def text : PathStep → String
  | key name => "." ++ name
  | wildcard => ".*"
  | allElements => "[]"
  | index i => "[" ++ toString i ++ "]"

end PathStep

/-- A path as it is written, rooted at `json`. -/
def Path.text (p : Path) : String := "json" ++ String.join (p.map PathStep.text)

end TableScript
