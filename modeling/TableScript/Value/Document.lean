import TableScript.Json.Basic
import TableScript.Value.Equality

/-!
# Values and documents

Documents become values by building fresh containers. Values become documents unless a function
or a container that contains itself is reached; like showing, this walk carries the containers it
is inside of.
-/

namespace TableScript.Store

/-- A number of a document as a value: an integer when it fits a word. -/
def valueOfInt (n : Int) : Value :=
  if Int64.minValue.toInt ≤ n ∧ n ≤ Int64.maxValue.toInt then .int (.ofInt n)
  else .float (.ofInt n)

mutual

/-- The value of a document, with its containers made in the store. -/
def ofJson (st : Store) : Json → Value × Store
  | .null => (.null, st)
  | .bool b => (.bool b, st)
  | .int n => (valueOfInt n, st)
  | .float x => (.float x, st)
  | .str s => (.ofString s, st)
  | .arr items =>
    let (values, st) := st.ofJsonItems items
    st.newList values
  | .obj members =>
    let (entries, st) := st.ofJsonMembers members
    st.newMap entries

/-- The values of the items of an array. -/
def ofJsonItems (st : Store) : List Json → List Value × Store
  | [] => ([], st)
  | j :: rest =>
    let (v, st) := st.ofJson j
    let (vs, st) := st.ofJsonItems rest
    (v :: vs, st)

/-- The entries of the members of an object. -/
def ofJsonMembers (st : Store) : List (String × Json) → List Entry × Store
  | [] => ([], st)
  | (k, j) :: rest =>
    let (v, st) := st.ofJson j
    let (es, st) := st.ofJsonMembers rest
    (⟨.str k, .ofString k, v⟩ :: es, st)

end

/-- The member name of a map's key. -/
def memberName (st : Store) : Value → String
  | .str t => t.plain
  | v => st.text v

/-- The document of a value that is no container. -/
def leafJson : Value → Except Fault Json
  | .null => .ok .null
  | .bool b => .ok (.bool b)
  | .int n => .ok (.int n.toInt)
  | .float x => .ok (if x.isFinite then .float x else .null)
  | .str t => .ok (.str t.plain)
  | .error e => .ok (.str e.message)
  | .fn _ => .error (.typeMismatch "cannot convert fn to JSON")
  | .list _ => .error (.typeMismatch "cannot convert a list that contains itself to JSON")
  | .map _ => .error (.typeMismatch "cannot convert a map that contains itself to JSON")

/-- The document of a value met inside the containers `inside`. -/
def toJsonWithin (st : Store) : (depth : Nat) → List Container → Value → Except Fault Json
  | 0, _, v => leafJson v
  | depth + 1, inside, v =>
    match v with
    | .list a =>
      if inside.contains (.list a) then leafJson v
      else do
        let items ← (st.items a).mapM fun v => toJsonWithin st depth (.list a :: inside) v
        return .arr items
    | .map a =>
      if inside.contains (.map a) then leafJson v
      else do
        let members ← (st.entries a).mapM fun e => do
          let j ← toJsonWithin st depth (.map a :: inside) e.value
          return (st.memberName e.written, j)
        return .obj (Json.collapseMembers members)
    | v => leafJson v

/-- The document of a value. -/
def toJson (st : Store) (v : Value) : Except Fault Json :=
  st.toJsonWithin (st.containerCount + 1) [] v

end TableScript.Store
