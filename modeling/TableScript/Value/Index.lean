import TableScript.Value.Equality

/-!
# Indexing, slicing and writing into containers

A negative index counts from the end. An index outside is a fault; a slice bound outside is moved
to the nearest end.
-/

namespace TableScript

/-- The position an index stands for in a sequence of this length. -/
def resolveIndex (i : Int64) (length : Nat) : Except Fault Nat :=
  let position := if i.toInt < 0 then i.toInt + length else i.toInt
  if 0 ≤ position ∧ position < length then .ok position.toNat
  else .error (.indexOutOfBounds i length)

/-- The position a slice bound stands for in a sequence of this length. -/
def clampBound (bound : Option Int64) (default length : Nat) : Nat :=
  match bound with
  | none => default
  | some i => if i.toInt < 0 then (i.toInt + length).toNat else min i.toInt.toNat length

namespace Store

/-- Writes an entry: an existing key keeps its position. -/
def setEntry (entry : Entry) : List Entry → List Entry
  | [] => [entry]
  | e :: rest => if e.key = entry.key then entry :: rest else e :: setEntry entry rest

/-- Writes into a map. -/
def insert (map : Nat) (key value : Value) : StoreM Unit := do
  let k ← StoreM.ofExcept key.mapKey
  modify fun st => st.setEntries map (setEntry ⟨k, key, value⟩ (st.entries map))

/-- The value an index selects. -/
def index (st : Store) (target i : Value) : Except Fault Value :=
  match target with
  | .list a => do
    let n ← resolveIndex (← i.requireInt) (st.items a).length
    match (st.items a)[n]? with
    | some v => .ok v
    | none => .error (.bug "list shrank during indexing")
  | .str t => do
    let n ← resolveIndex (← i.requireInt) t.length
    match t.charAt? n with
    | some c => .ok (.str c)
    | none => .error (.bug "char index resolved past end")
  | .map a => do
    let k ← i.mapKey
    match findEntry? k (st.entries a) with
    | some e => .ok e.value
    | none => .error (.keyNotFound (st.text i))
  | v => .error (.typeMismatch ("cannot index a " ++ v.typeName))

/-- Makes a new list. -/
def allocList (items : List Value) : StoreM Value := modifyGet (·.newList items)

/-- The part of a list or string between two bounds. -/
def slice (target : Value) (start stop : Option Int64) : StoreM Value := do
  match target with
  | .list a =>
    let items := (← get).items a
    let lo := clampBound start 0 items.length
    let hi := clampBound stop items.length items.length
    allocList ((items.take hi).drop lo)
  | .str t =>
    let lo := clampBound start 0 t.length
    let hi := clampBound stop t.length t.length
    return .str (t.slice lo hi)
  | v => throw (.typeMismatch ("cannot slice a " ++ v.typeName))

/-- Writes into a list or map. -/
def setIndex (target i value : Value) : StoreM Unit := do
  match target with
  | .list a =>
    let n ← StoreM.ofExcept i.requireInt
    let position ← StoreM.ofExcept (resolveIndex n ((← get).items a).length)
    modify fun st => st.setItems a ((st.items a).set position value)
  | .map a => insert a i value
  | v => throw (.typeMismatch ("cannot assign into a " ++ v.typeName))

end Store
end TableScript
