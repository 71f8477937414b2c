import TableScript.Value.Number

/-!
# The order of values

Values of different kinds are ordered by kind: null, booleans, numbers, strings, lists, maps.
Numbers are ordered by their exact values, with NaN after all of them; all lists are alike, and so
are all maps. Functions and errors have no place in the order.

An integer is never rounded to meet a double. A double beyond all integers decides by itself; any
other one has a whole part that is an integer, and what follows the point decides between equals.
-/

namespace TableScript

namespace Double

/-- `2 ^ 63`, the first number beyond all integers. -/
def wordBound : Double := ⟨0x43e0000000000000⟩

/-- The order of doubles, with NaN after all numbers. -/
def order (x y : Double) : Ordering :=
  match x.isNaN, y.isNaN with
  | true, true => .eq
  | true, false => .gt
  | false, true => .lt
  | false, false => (x.compare? y).getD .eq

/-- The order of an integer and a double whose whole part is an integer, too. -/
def orderWhole (n : Int64) (x : Double) : Ordering :=
  let whole := x.toWord.toInt
  (compare n.toInt whole).then ((zero.compare? (x - .ofInt whole)).getD .eq)

/-- The order of an integer and a double. -/
def orderInt (n : Int64) (x : Double) : Ordering :=
  if x.isNaN then .lt
  else if x.compare? (-wordBound) = some .lt then .gt
  else if x.compare? wordBound ≠ some .lt then .lt
  else orderWhole n x

end Double

namespace Value

/-- The position of a value's kind in the order, if it has one. -/
def rank? : Value → Option Nat
  | null => some 0
  | bool _ => some 1
  | int _ | float _ => some 2
  | str _ => some 3
  | list _ => some 4
  | map _ => some 5
  | fn _ | error _ => none

/-- The position of a value's kind in the order, or the fault that it has none. -/
def rank (v : Value) : Except Fault Nat :=
  match v.rank? with
  | some r => .ok r
  | none => .error (.typeMismatch ("cannot sort " ++ v.typeName ++ " values"))

/-- The order of values of one kind. -/
def compareAlike : Value → Value → Ordering
  | bool a, bool b => compare a.toNat b.toNat
  | int a, int b => compare a.toInt b.toInt
  | int a, float b => Double.orderInt a b
  | float a, int b => (Double.orderInt b a).swap
  | float a, float b => a.order b
  | str a, str b => a.compare b
  | _, _ => .eq

/-- The order of values; a value without a place counts as equal to any. -/
def order (a b : Value) : Ordering :=
  match a.rank?, b.rank? with
  | some i, some j => if i = j then compareAlike a b else compare i j
  | _, _ => .eq

end Value
end TableScript
