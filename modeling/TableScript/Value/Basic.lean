import TableScript.Builtin.Basic
import TableScript.ErrorCode
import TableScript.Number.Double
import TableScript.Text.Rich
import TableScript.Tree.Basic

/-!
# Values and the store

Lists, maps, scopes and functions are shared: a value holds an address, and the store says what is
there. Copying a value copies the address, so a change through one copy is seen through all.

1. `Value` is what variables hold;
2. `Store` holds the contents of lists and maps, the scopes and the functions of scripts;
3. reading an address that was never handed out gives an empty container.
-/

namespace TableScript

/-- A function value. -/
inductive Callable where
  | builtin (b : Builtin)
  /-- A function of a script, by its address. -/
  | closure (address : Nat)
  deriving DecidableEq, Repr, Inhabited

/-- A value. -/
inductive Value where
  | int (n : Int64)
  | float (x : Double)
  | str (t : RichText)
  | bool (b : Bool)
  | list (address : Nat)
  | map (address : Nat)
  | fn (f : Callable)
  | error (e : ErrorValue)
  | null
  deriving Inhabited

/-- What identifies an entry of a map. -/
inductive MapKey where
  | int (n : Int64)
  | float (x : Double)
  | str (s : String)
  | bool (b : Bool)
  | error (e : ErrorValue)
  deriving DecidableEq, Repr, Inhabited

/-- An entry of a map: its key, the value the key was last written as, and what it holds. -/
structure Entry where
  key : MapKey
  written : Value
  value : Value
  deriving Inhabited

/-- The body of a script's function. -/
inductive FunctionBody where
  /-- A function without a name. -/
  | lambda (body : LambdaBody)
  /-- A named function: statements, then what it returns if they do not. -/
  | block (name : String) (body : List Stmt) (ret : Option (List Expr))

/-- A function of a script, with the scope it was made in. -/
structure Closure where
  params : List String
  body : FunctionBody
  scope : Nat

/-- The name a function is shown by. -/
def Closure.name (c : Closure) : String :=
  match c.body with
  | .lambda _ => "<lambda>"
  | .block name _ _ => name

/-- A scope: variables, field paths and the scope around it. -/
structure Scope where
  vars : List (String × Value) := []
  fields : List (String × Path) := []
  parent : Option Nat := none
  deriving Inhabited

/-- The contents of everything that is shared. -/
structure Store where
  lists : Array (List Value) := #[]
  maps : Array (List Entry) := #[]
  scopes : Array Scope := #[]
  closures : Array Closure := #[]
  deriving Inhabited

namespace Value

/-- Bare text as a value. -/
def ofString (s : String) : Value := .str (.ofString s)

/-- The kind of a value. -/
def kind : Value → Kind
  | int _ => .int
  | float _ => .float
  | str _ => .str
  | bool _ => .bool
  | list _ => .list
  | map _ => .map
  | fn _ => .fn
  | error _ => .error
  | null => .null

/-- The name of a value's kind. -/
def typeName (v : Value) : String := v.kind.name

/-- The value as an integer. -/
def requireInt : Value → Except Fault Int64
  | int n => .ok n
  | v => .error (.expected "int" v.typeName)

/-- The value as an integer, counting booleans as zero and one. -/
def requireIntOrBool : Value → Except Fault Int64
  | int n => .ok n
  | bool b => .ok (if b then 1 else 0)
  | v => .error (.expected "int | bool" v.typeName)

/-- The value as a string. -/
def requireStr : Value → Except Fault RichText
  | str t => .ok t
  | v => .error (.expected "str" v.typeName)

/-- The value as a boolean. -/
def requireBool : Value → Except Fault Bool
  | bool b => .ok b
  | v => .error (.expected "bool" v.typeName)

/-- The value as the address of a list. -/
def requireList : Value → Except Fault Nat
  | list a => .ok a
  | v => .error (.expected "list" v.typeName)

/-- The value as the address of a map. -/
def requireMap : Value → Except Fault Nat
  | map a => .ok a
  | v => .error (.expected "map" v.typeName)

/-- The value as a function. -/
def requireFn : Value → Except Fault Callable
  | fn f => .ok f
  | v => .error (.expected "fn" v.typeName)

/-- The value as an error. -/
def requireError : Value → Except Fault ErrorValue
  | error e => .ok e
  | v => .error (.expected "error" v.typeName)

end Value

namespace Store

/-- The elements of a list. -/
def items (st : Store) (address : Nat) : List Value := st.lists.getD address []

/-- The entries of a map, in insertion order. -/
def entries (st : Store) (address : Nat) : List Entry := st.maps.getD address []

/-- A new list. -/
def newList (st : Store) (items : List Value) : Value × Store :=
  (.list st.lists.size, { st with lists := st.lists.push items })

/-- A new map. -/
def newMap (st : Store) (entries : List Entry) : Value × Store :=
  (.map st.maps.size, { st with maps := st.maps.push entries })

/-- A new function. -/
def newClosure (st : Store) (c : Closure) : Value × Store :=
  (.fn (.closure st.closures.size), { st with closures := st.closures.push c })

/-- Replaces the elements of a list. -/
def setItems (st : Store) (address : Nat) (items : List Value) : Store :=
  { st with lists := st.lists.setIfInBounds address items }

/-- Replaces the entries of a map. -/
def setEntries (st : Store) (address : Nat) (entries : List Entry) : Store :=
  { st with maps := st.maps.setIfInBounds address entries }

/-- The name a function is shown by. -/
def callableName (st : Store) : Callable → String
  | .builtin b => b.name
  | .closure a => (st.closures[a]?.map Closure.name).getD "<lambda>"

/-- Zero, the empty string, false, empty containers and null count as false. -/
def isTruthy (st : Store) : Value → Bool
  | .int n => n ≠ 0
  | .float x => !x.isZero
  | .str t => !t.isEmpty
  | .bool b => b
  | .list a => !(st.items a).isEmpty
  | .map a => !(st.entries a).isEmpty
  | .fn _ | .error _ => true
  | .null => false

end Store

/-- A computation that reads and changes the store, or fails. -/
abbrev StoreM := EStateM Fault Store

/-- A computation that does not touch the store. -/
def StoreM.ofExcept {α : Type} : Except Fault α → StoreM α
  | .ok a => pure a
  | .error f => throw f

end TableScript
