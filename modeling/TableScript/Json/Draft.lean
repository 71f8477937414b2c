import TableScript.Json.Basic

/-!
# Documents as they are written

A text can be well written and yet stand for no document: a number may be too large, half of a
surrogate pair may stand alone, brackets may nest too deep. A draft keeps such a part as unreadable.

1. `toJson?` is the document of a draft, when every part of it can be read;
2. a reader that looks at some parts only fails on those alone, and may pass over an unreadable
   part that it has no use for.
-/

namespace TableScript.Json

/-- A document as it stands in a text. -/
inductive Draft where
  | null
  | bool (b : Bool)
  | int (n : Int)
  | float (x : Double)
  | str (s : String)
  | arr (items : List Draft)
  /-- An object; a key may be unreadable too. -/
  | obj (members : List (Option String × Draft))
  /-- A part that is well written and stands for nothing. -/
  | unreadable
  deriving Inhabited, Repr

namespace Draft

mutual

/-- The document of a draft without unreadable parts. -/
def toJson? : Draft → Option Json
  | .null => some .null
  | .bool b => some (.bool b)
  | .int n => some (.int n)
  | .float x => some (.float x)
  | .str s => some (.str s)
  | .arr items => (toItems? items).map .arr
  | .obj members => (toMembers? members).map .obj
  | .unreadable => none

/-- The documents of the items of an array. -/
def toItems? : List Draft → Option (List Json)
  | [] => some []
  | d :: rest => do some ((← toJson? d) :: (← toItems? rest))

/-- The documents of the members of an object. -/
def toMembers? : List (Option String × Draft) → Option (List (String × Json))
  | [] => some []
  | (key, d) :: rest => do some ((← key, ← toJson? d) :: (← toMembers? rest))

end

mutual

/-- A document as a draft. -/
def ofJson : Json → Draft
  | .null => .null
  | .bool b => .bool b
  | .int n => .int n
  | .float x => .float x
  | .str s => .str s
  | .arr items => .arr (ofItems items)
  | .obj members => .obj (ofMembers members)

/-- The items of an array as drafts. -/
def ofItems : List Json → List Draft
  | [] => []
  | j :: rest => ofJson j :: ofItems rest

/-- The members of an object as drafts. -/
def ofMembers : List (String × Json) → List (Option String × Draft)
  | [] => []
  | (key, j) :: rest => (some key, ofJson j) :: ofMembers rest

end

/-- The members of an object whose keys can all be read. -/
def keyed? (members : List (Option String × Draft)) : Option (List (String × Draft)) :=
  members.mapM fun (key, d) => key.map (·, d)

/-- How deep a draft is nested. -/
def depth : Draft → Nat
  | .arr items => depthItems items + 1
  | .obj members => depthMembers members + 1
  | _ => 0
where
  /-- The greatest depth among items. -/
  depthItems : List Draft → Nat
    | [] => 0
    | d :: rest => max (depth d) (depthItems rest)
  /-- The greatest depth among members. -/
  depthMembers : List (Option String × Draft) → Nat
    | [] => 0
    | (_, d) :: rest => max (depth d) (depthMembers rest)

end Draft
end TableScript.Json
