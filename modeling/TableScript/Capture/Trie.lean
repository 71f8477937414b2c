import TableScript.Capture.Path
import TableScript.Capture.Table
import TableScript.Fault.Basic
import TableScript.Value.Index

/-!
# Capturing fields from a document

Fields are gathered in a tree by the steps of their paths, so that fields with a common beginning
walk the document together. Walking the tree over a document gives a capture: the children of a
node in the order of their steps, then the fields that end at the node.
-/

namespace TableScript

/-- Fields by the steps of their paths. -/
inductive Trie where
  | node (fields : List String) (children : List (PathStep × Trie))

namespace Trie

variable {α β : Type}

/-- No field at all. -/
def empty : Trie := .node [] []

/-- The tree of a single field. -/
def single (name : String) : Path → Trie
  | [] => .node [name] []
  | step :: path => .node [] [(step, single name path)]

mutual

/-- Adds a field under the rest of its path. -/
def insert (name : String) : Path → Trie → Trie
  | [], .node fields children => .node (fields ++ [name]) children
  | step :: path, .node fields children =>
    .node fields (insertChild name step path children)

/-- Adds a field below a step, keeping the children in the order of their steps. -/
def insertChild (name : String) (step : PathStep) (path : Path) :
    List (PathStep × Trie) → List (PathStep × Trie)
  | [] => [(step, single name path)]
  | (s, child) :: rest =>
    match step.compare s with
    | .lt => (step, single name path) :: (s, child) :: rest
    | .eq => (s, insert name path child) :: rest
    | .gt => (s, child) :: insertChild name step path rest

end

/-- The tree of these fields. -/
def ofFields (fields : List (String × Path)) : Trie :=
  fields.foldl (fun t (name, path) => t.insert name path) empty

/-- The kind of a document in words. -/
def documentKind : Json → String
  | .null => "null"
  | .bool _ => "bool"
  | .int _ | .float _ => "number"
  | .str _ => "string"
  | .arr _ => "list"
  | .obj _ => "map"

/-- Merges two captures at a path. -/
def mergeAt [Inhabited α] (path : Path) (a b : Capture α) : Except Fault (Capture α) :=
  match a.merge b with
  | .ok c => .ok c
  | .error e => .error (.traversal path.text e.message)

/-- The members of a document that has to be an object. -/
def membersAt (path : Path) : Json → Except Fault (List (String × Json))
  | .obj members => .ok members
  | j => .error (.traversal path.text ("expected a map, got " ++ documentKind j))

/-- The items of a document that has to be an array. -/
def itemsAt (path : Path) : Json → Except Fault (List Json)
  | .arr items => .ok items
  | j => .error (.traversal path.text ("expected a list, got " ++ documentKind j))

/-- The documents a step leads to, each with its key when the step is a wildcard. -/
def visits (path : Path) (step : PathStep) (j : Json) :
    Except Fault (List (Option String × Json)) :=
  match step with
  | .key name => do
    match Json.member? name (← membersAt path j) with
    | some v => .ok [(none, v)]
    | none => .error (.traversal path.text ("key '" ++ name ++ "' not found"))
  | .wildcard => do
    let members := (← membersAt path j).mergeSort fun a b => decide (a.1 ≤ b.1)
    .ok (members.map fun (k, v) => (some k, v))
  | .allElements => do .ok ((← itemsAt path j).map fun v => (none, v))
  | .index i => do
    let items ← itemsAt path j
    match resolveIndex i items.length with
    | .ok n => .ok [(none, items.getD n .null)]
    | .error e => .error (.traversal path.text e.message)

/-- The fields that end at a node, each with one cell. -/
def fieldCells (fields : List String) (cell : α) : Capture α :=
  Json.collapseMembers (fields.map fun f => (f, [cell]))

/-- Captures one visit after the other, merging the result of each into what came before. -/
def captureEach [Inhabited α] (path : Path) (one : β → Except Fault (Capture α))
    (acc : Capture α) : List β → Except Fault (Capture α)
  | [] => .ok acc
  | v :: rest => do
    let c ← one v
    captureEach path one (← mergeAt path acc c) rest

/-- The cell of a field that ends at a document: the key that led there, else the document. -/
def cellOf (key : Option String) (j : Json) : Json := (key.map Json.str).getD j

mutual

/-- The capture of a document at a path; `key` is the key that a wildcard led by. -/
def captureAt (path : Path) (key : Option String) (j : Json) : Trie → Except Fault Capture
  | .node fields children => do
    let c ← captureChildren path j [] children
    if fields.isEmpty then return c
    else mergeAt path c (fieldCells fields (cellOf key j))

/-- The capture of a node's children, merged into what came before. -/
def captureChildren (path : Path) (j : Json) (acc : Capture) :
    List (PathStep × Trie) → Except Fault Capture
  | [] => .ok acc
  | (step, child) :: rest => do
    let below := path ++ [step]
    let c ← captureEach below (fun (key, j) => captureAt below key j child) []
      (← visits below step j)
    captureChildren path j (← mergeAt below acc c) rest

end

/-- The capture of a document. -/
def capture (t : Trie) (j : Json) : Except Fault Capture := captureAt [] none j t

end Trie
end TableScript
