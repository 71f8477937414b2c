import TableScript.Json.Draft

/-!
# Records and variants in documents

A record is written as an object, in which unknown members are ignored, unreadable or not, and a
known member may stand only once, or as an array of its fields in order. A variant is written as an
object with its name as the only key, or, when it has no content, as its name alone.
-/

namespace TableScript

open Json (Draft)

/-- Null, or something else. -/
def Json.Draft.nullOr? {α : Type} (read : Draft → Option α) : Draft → Option (Option α)
  | .null => some none
  | j => (read j).map some

/-- The fields of a record in their order; `positional` when they were written as an array. -/
structure Record where
  slots : List (Option Draft)
  positional : Bool

namespace Record

/-- The only member with a name: nothing if there is none, and a failure if there are several. -/
def uniqueMember? (members : List (String × Draft)) (name : String) : Option (Option Draft) :=
  match members.filter (·.1 = name) with
  | [] => some none
  | [(_, j)] => some (some j)
  | _ => none

/-- The record with these fields that a document writes. -/
def ofDraft? (names : List String) : Draft → Option Record
  | .obj members => do
    let members ← Draft.keyed? members
    some ⟨← names.mapM (uniqueMember? members), false⟩
  | .arr items => if items.length ≤ names.length then some ⟨items.map some, true⟩ else none
  | _ => none

/-- The document of a field, if it was written. -/
def slot (r : Record) (i : Nat) : Option Draft := (r.slots[i]?).join

/-- A field that has to be written. -/
def required {α : Type} (r : Record) (i : Nat) (read : Draft → Option α) : Option α :=
  (r.slot i).bind read

/-- A field that is absent, null or a value; an array cannot leave it out. -/
def nullable {α : Type} (r : Record) (i : Nat) (read : Draft → Option α) : Option (Option α) :=
  match r.slot i with
  | none => if r.positional then none else some none
  | some j => j.nullOr? read

/-- A field that is absent, null or a value. -/
def optional {α : Type} (r : Record) (i : Nat) (read : Draft → Option α) : Option (Option α) :=
  match r.slot i with
  | none => some none
  | some j => j.nullOr? read

/-- A field with a default for when it is absent. -/
def defaulted {α : Type} (r : Record) (i : Nat) (default : α) (read : Draft → Option α) :
    Option α :=
  match r.slot i with
  | none => some default
  | some j => read j

end Record

namespace Json.Draft

/-- The name of a variant and its content, if it has any. -/
def variant? : Draft → Option (String × Option Draft)
  | .str name => some (name, none)
  | .obj [(some name, j)] => some (name, some j)
  | _ => none

/-- The name of a variant without content. -/
def unit? (j : Draft) : Option String :=
  match j.variant? with
  | some (name, none) | some (name, some .null) => some name
  | _ => none

/-- A string. -/
def string? : Draft → Option String
  | .str s => some s
  | _ => none

/-- A truth value. -/
def bool? : Draft → Option Bool
  | .bool b => some b
  | _ => none

/-- An integer that fits a word. -/
def word? : Draft → Option Int64
  | .int n =>
    if Int64.minValue.toInt ≤ n ∧ n ≤ Int64.maxValue.toInt then some (.ofInt n) else none
  | _ => none

/-- A number, as a double. -/
def double? : Draft → Option Double
  | .int n => some (.ofInt n)
  | .float x => some x
  | _ => none

/-- A natural number. -/
def nat? : Draft → Option Nat
  | .int n => if 0 ≤ n then some n.toNat else none
  | _ => none

/-- An array of things. -/
def listOf? {α : Type} (read : Draft → Option α) : Draft → Option (List α)
  | .arr items => items.mapM read
  | _ => none

/-- An array of exactly two things. -/
def pairOf? {α β : Type} (first : Draft → Option α) (second : Draft → Option β) :
    Draft → Option (α × β)
  | .arr [a, b] => do some (← first a, ← second b)
  | _ => none

end Json.Draft
end TableScript
