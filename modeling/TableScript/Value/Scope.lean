import TableScript.Text.EditDistance
import TableScript.Text.Quoted
import TableScript.Value.Basic

/-!
# Scopes

Scopes form a forest: each knows the scope around it, which was made before it. `chain` lists a
scope and the scopes around it, innermost first; reading, writing and removing a variable all look
for the first scope of the chain that binds it.
-/

namespace TableScript

/-- Writes a name's entry; an existing name keeps its position. -/
def setBinding {α : Type} (name : String) (value : α) : List (String × α) → List (String × α)
  | [] => [(name, value)]
  | (n, v) :: rest => if n = name then (n, value) :: rest else (n, v) :: setBinding name value rest

namespace Store

/-- The scope at an address. -/
def scopeAt (st : Store) (s : Nat) : Scope := st.scopes.getD s {}

/-- A new scope; `parent` is the scope around it. -/
def newScope (st : Store) (parent : Option Nat) (vars : List (String × Value) := []) :
    Nat × Store :=
  (st.scopes.size, { st with scopes := st.scopes.push { parent, vars } })

/-- A scope and the scopes around it, innermost first. -/
def chain (st : Store) (s : Nat) : List Nat :=
  match (st.scopeAt s).parent with
  | some p => if _h : p < s then s :: st.chain p else [s]
  | none => [s]

/-- The value a scope itself binds to a name. -/
def binding? (st : Store) (s : Nat) (name : String) : Option Value :=
  (st.scopeAt s).vars.lookup name

/-- Whether a scope itself binds a name. -/
def binds (st : Store) (s : Nat) (name : String) : Bool := (st.binding? s name).isSome

/-- The value of a name seen from a scope. -/
def lookup? (st : Store) (s : Nat) (name : String) : Option Value :=
  (st.chain s).findSome? fun t => st.binding? t name

/-- Whether a name can be seen from a scope. -/
def isDefined (st : Store) (s : Nat) (name : String) : Bool := (st.lookup? s name).isSome

/-- Changes one scope. -/
def modifyScope (st : Store) (s : Nat) (f : Scope → Scope) : Store :=
  { st with scopes := st.scopes.modify s f }

/-- Binds a name in a scope. -/
def define (st : Store) (s : Nat) (name : String) (v : Value) : Store :=
  st.modifyScope s fun scope => { scope with vars := setBinding name v scope.vars }

/-- The scope a write to a name goes to: with `outward` the nearest one that binds it, else and
otherwise `s` itself. -/
def owner (st : Store) (s : Nat) (name : String) (outward : Bool) : Nat :=
  if outward then ((st.chain s).find? fun t => st.binds t name).getD s else s

/-- Writes a name. -/
def assign (st : Store) (s : Nat) (name : String) (v : Value) (outward : Bool) : Store :=
  st.define (st.owner s name outward) name v

/-- Removes a name; the first component says whether there was something to remove. -/
def unset (st : Store) (s : Nat) (name : String) (outward : Bool) : Bool × Store :=
  let t := st.owner s name outward
  (st.binds t name,
    st.modifyScope t fun scope => { scope with vars := scope.vars.filter (·.1 ≠ name) })

/-- Declares a field: its path is kept, and its variable starts out as an empty list. -/
def defineField (st : Store) (s : Nat) (name : String) (path : Path) : Store :=
  let st := st.modifyScope s fun scope => { scope with fields := setBinding name path scope.fields }
  let (list, st) := st.newList []
  st.assign s name list true

/-- The path of a field seen from a scope. -/
def lookupField? (st : Store) (s : Nat) (name : String) : Option Path :=
  (st.chain s).findSome? fun t => (st.scopeAt t).fields.lookup name

/-- Removes everything a scope itself binds. -/
def clearScope (st : Store) (s : Nat) : Store :=
  st.modifyScope s fun scope => { scope with vars := [], fields := [] }

/-- The names a scope itself binds, sorted. -/
def ownNames (st : Store) (s : Nat) : List String :=
  ((st.scopeAt s).vars.map (·.1)).mergeSort (· ≤ ·)

/-- The names that can be seen from a scope, sorted, each once. -/
def names (st : Store) (s : Nat) : List String :=
  (((st.chain s).flatMap fun t => (st.scopeAt t).vars.map (·.1)).mergeSort (· ≤ ·)).eraseReps

/-- How far a name may be from the one asked for to be suggested. -/
def suggestionBudget (name : String) : Nat := max (name.length / 3) 2

/-- Up to three names that can be seen and are close to the one asked for, nearest first. -/
def similarNames (st : Store) (s : Nat) (name : String) : List String :=
  let scored := ((st.names s).filter (· ≠ name)).map fun n => (editDistance name n, n)
  let near := scored.filter (·.1 ≤ suggestionBudget name)
  ((near.mergeSort fun a b => a.1 < b.1 || (a.1 == b.1 && decide (a.2 ≤ b.2))).take 3).map (·.2)

/-- A scope in words: the names it binds, and whether there is a scope around it. -/
def describeScope (st : Store) (s : Nat) : String :=
  "Env \x7b vars: [" ++ ", ".intercalate ((st.ownNames s).map quoted) ++ "], has_parent: " ++
    (if (st.scopeAt s).parent.isSome then "true" else "false") ++ " \x7d"

end Store
end TableScript
