import TableScript.Value.Basic

/-!
# Numbers among values

How integers and doubles meet: an integer becomes the nearest double. A whole double is the same
map key as the integer it equals.
-/

namespace TableScript.Value

/-- The double nearest to an integer. -/
def doubleOfInt (n : Int64) : Double := .ofInt n.toInt

/-- The value as a double, converting integers. -/
def requireNumber : Value → Except Fault Double
  | int n => .ok (doubleOfInt n)
  | float x => .ok x
  | v => .error (.expected "int | float" v.typeName)

/-- Both values as doubles, when both are numbers and not both are integers. -/
def promote? : Value → Value → Option (Double × Double)
  | float a, float b => some (a, b)
  | int a, float b => some (doubleOfInt a, b)
  | float a, int b => some (a, doubleOfInt b)
  | _, _ => none

/-- The key a double has in a map: that of the integer it equals, if there is one. -/
def floatKey (x : Double) : MapKey :=
  match x.toInt? with
  | some n => if n.natAbs < Nat.pow 2 63 then .int (.ofInt n) else .float x
  | none => .float x

/-- The key a value has in a map. -/
def mapKey : Value → Except Fault MapKey
  | int n => .ok (.int n)
  | float x => .ok (floatKey x)
  | str t => .ok (.str t.plain)
  | bool b => .ok (.bool b)
  | error e => .ok (.error e)
  | v => .error (.typeMismatch (v.typeName ++ " cannot be used as a map key"))

end TableScript.Value
