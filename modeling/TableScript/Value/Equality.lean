import TableScript.Value.Number
import TableScript.Value.Show

/-!
# Equality of values

Scalars are equal by value, an integer and a double when the nearest double to the integer is that
double. Containers are equal when their contents are. A pair of containers that is met again while
it is being compared counts as equal, so the walk ends on containers that contain themselves: the
pairs it is inside of are all different, and their number bounds its depth.
-/

namespace TableScript.Store

/-- The entry of a key. -/
def findEntry? (key : MapKey) (entries : List Entry) : Option Entry :=
  entries.find? (·.key = key)

/-- Whether two values that are not both lists or both maps are equal. -/
def leafEqual : Value → Value → Bool
  | .int a, .int b => a = b
  | .float a, .float b => a.sameNumber b
  | .int a, .float b => (Value.doubleOfInt a).sameNumber b
  | .float a, .int b => (Value.doubleOfInt b).sameNumber a
  | .str a, .str b => a.plain = b.plain
  | .bool a, .bool b => a = b
  | .fn f, .fn g => f = g
  | .error e, .error f => e = f
  | .null, .null => true
  | _, _ => false

/-- Whether two values are equal, taking the pairs in `assumed` for equal. -/
def equalWithin (st : Store) :
    (depth : Nat) → List (Container × Container) → Value → Value → Bool
  | 0, _, a, b => leafEqual a b
  | depth + 1, assumed, a, b =>
    match a, b with
    | .list x, .list y =>
      if x = y then true
      else if assumed.contains (.list x, .list y) then true
      else
        let xs := st.items x
        let ys := st.items y
        xs.length = ys.length &&
          (xs.zip ys).all fun (v, w) =>
            equalWithin st depth ((.list x, .list y) :: assumed) v w
    | .map x, .map y =>
      if x = y then true
      else if assumed.contains (.map x, .map y) then true
      else
        let es := st.entries x
        let fs := st.entries y
        es.length = fs.length &&
          es.all fun e =>
            match findEntry? e.key fs with
            | some f => equalWithin st depth ((.map x, .map y) :: assumed) e.value f.value
            | none => false
    | a, b => leafEqual a b

/-- Whether two values are equal. -/
def equal (st : Store) (a b : Value) : Bool :=
  st.equalWithin (st.lists.size * st.lists.size + st.maps.size * st.maps.size + 1) [] a b

end TableScript.Store
