import Mathlib.Order.Compare
import TableScript.Number.Double

/-!
# The places of numbers

Every number has a place in one order: minus infinity, the finite numbers by their count of units,
infinity, NaN. `NumberRank.compare` looks at the form first and at the count second, so it is a
total preorder, and a linear one: only a place is equal to itself (`NumberRank.compare_eq_eq_iff`).
-/

namespace TableScript

/-- A number's place in the order: a count of units, or one of the ends. -/
inductive NumberRank where
  | negInfinite
  | finite (units : Int)
  | posInfinite
  | nan
  deriving DecidableEq, Repr

namespace NumberRank

/-- The place of a double. -/
def ofDouble (x : Double) : NumberRank :=
  match x.units? with
  | some n => .finite n
  | none => if x.isNaN then .nan else if x.isNegative then .negInfinite else .posInfinite

/-- The place of an integer. -/
def ofInt (n : Int64) : NumberRank := .finite (n.toInt * Double.one)

/-- The position of the form. -/
def form : NumberRank → Nat
  | negInfinite => 0
  | finite _ => 1
  | posInfinite => 2
  | nan => 3

/-- The order of places. -/
def compare : NumberRank → NumberRank → Ordering
  | finite m, finite n => Ord.compare m n
  | a, b => Ord.compare a.form b.form

/-- The count of units; zero at the ends. -/
def units : NumberRank → Int
  | finite n => n
  | _ => 0

theorem compare_eq_compareLex :
    NumberRank.compare = compareLex (compareOn form) (compareOn units) := by
  funext a b
  cases a <;> cases b <;> rfl

instance : Std.TransCmp NumberRank.compare := by
  rw [compare_eq_compareLex]
  infer_instance

theorem compare_eq_eq_iff {r q : NumberRank} : r.compare q = .eq ↔ r = q := by
  cases r <;> cases q <;> simp [compare, form]

theorem swap_compare (r q : NumberRank) : (r.compare q).swap = q.compare r :=
  Std.OrientedCmp.eq_swap.symm

end NumberRank

theorem Double.units?_eq_some_iff {x : Double} {u : Int} :
    x.units? = some u ↔ NumberRank.ofDouble x = .finite u := by
  unfold NumberRank.ofDouble
  cases x.units? with
  | some k => simp
  | none => cases x.isNaN <;> cases x.isNegative <;> simp

end TableScript
