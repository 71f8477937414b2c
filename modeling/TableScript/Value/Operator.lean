import TableScript.Number.Text
import TableScript.Value.Index

/-!
# What operators do

Integers wrap around, division of integers gives a double, and a number meets a number of the other
kind as a double. Strings join with strings and with the text of scalars, and repeat by an integer.
-/

namespace TableScript

/-- Operand kinds an operator has no meaning for. -/
def Fault.invalidOperands (op : BinaryOp) (a b : Value) : Fault :=
  .typeMismatch ("invalid operand types for '" ++ op.symbol ++ "': " ++ a.typeName ++ " and " ++
    b.typeName)

/-- An operand kind an operator has no meaning for. -/
def Fault.invalidOperand (op : UnaryOp) (v : Value) : Fault :=
  .typeMismatch ("invalid operand type for '" ++ op.symbol ++ "': " ++ v.typeName)

/-- Whether a text occurs in another. -/
def isInfix (needle : List Char) : List Char → Bool
  | [] => needle.isEmpty
  | c :: rest => needle.isPrefixOf (c :: rest) || isInfix needle rest

namespace Operator

/-- Addition. -/
def add (a b : Value) : StoreM Value := do
  match a, b with
  | .int x, .int y => return .int (x + y)
  | .str t, .str u => return .str (t ++ u)
  | .str t, .int _ | .str t, .float _ | .str t, .bool _ => return .str (t.push ((← get).text b))
  | .list x, .list y => Store.allocList ((← get).items x ++ (← get).items y)
  | a, b =>
    match Value.promote? a b with
    | some (x, y) => return .float (x + y)
    | none => throw (.invalidOperands .add a b)

/-- Subtraction, multiplication, division and remainder of integers. -/
def arithmeticInt (op : BinaryOp) (x y : Int64) : Except Fault Value :=
  match op with
  | .sub => .ok (.int (x - y))
  | .mul => .ok (.int (x * y))
  | .div =>
    if y = 0 then .error .divideByZero
    else .ok (.float (Value.doubleOfInt x / Value.doubleOfInt y))
  | _ => if y = 0 then .error .divideByZero else .ok (.int (x % y))

/-- Subtraction, multiplication, division and remainder of doubles. -/
def arithmeticFloat (op : BinaryOp) (x y : Double) : Except Fault Value :=
  match op with
  | .sub => .ok (.float (x - y))
  | .mul => .ok (.float (x * y))
  | .div => if y.isZero then .error .divideByZero else .ok (.float (x / y))
  | _ => if y.isZero then .error .divideByZero else .ok (.float (x % y))

/-- Subtraction, multiplication, division and remainder. -/
def arithmetic (op : BinaryOp) (a b : Value) : Except Fault Value :=
  match op, a, b with
  | .mul, .str t, .int n | .mul, .int n, .str t => .ok (.str (t.replicate n.toInt))
  | op, .int x, .int y => arithmeticInt op x y
  | op, a, b =>
    match Value.promote? a b with
    | some (x, y) => arithmeticFloat op x y
    | none => .error (.invalidOperands op a b)

/-- The order the comparison operators see: numbers as numbers, strings by their plain text. -/
def compare? (a b : Value) : Option Ordering :=
  match a, b with
  | .int x, .int y => some (Ord.compare x.toInt y.toInt)
  | .str t, .str u => some (t.compare u)
  | a, b => (Value.promote? a b).bind fun (x, y) => x.compare? y

/-- One of the four comparison operators, from the order of its operands. -/
def decideOrder (op : BinaryOp) (o : Ordering) : Bool :=
  match op with
  | .gt => o = .gt
  | .ge => o ≠ .lt
  | .lt => o = .lt
  | _ => o ≠ .gt

/-- Whether a value occurs in a string, a list or the keys of a map. -/
def occurs (st : Store) (op : BinaryOp) (needle haystack : Value) : Except Fault Bool :=
  match haystack, needle with
  | .str h, .str n => .ok (isInfix n.plain.toList h.plain.toList)
  | .str h, .int _ | .str h, .float _ => .ok (isInfix (st.text needle).toList h.plain.toList)
  | .list a, v => .ok ((st.items a).any fun w => st.equal w v)
  | .map a, v => do
    let k ← v.mapKey
    return (Store.findEntry? k (st.entries a)).isSome
  | haystack, needle => .error (.invalidOperands op needle haystack)

/-- An operator with two operands, both evaluated. -/
def binary (op : BinaryOp) (a b : Value) : StoreM Value :=
  match op with
  | .add => add a b
  | .sub | .mul | .div | .mod => StoreM.ofExcept (arithmetic op a b)
  | .gt | .ge | .lt | .le =>
    match compare? a b with
    | some o => pure (.bool (decideOrder op o))
    | none => throw (.invalidOperands op a b)
  | .eq => do return .bool ((← get).equal a b)
  | .ne => do return .bool (!(← get).equal a b)
  | .isIn => do return .bool (← StoreM.ofExcept (occurs (← get) op a b))
  | .notIn => do return .bool (!(← StoreM.ofExcept (occurs (← get) op a b)))
  | .and => do return if (← get).isTruthy a then b else a
  | .or => do return if (← get).isTruthy a then a else b

/-- An operator with one operand. -/
def unary (st : Store) (op : UnaryOp) (v : Value) : Except Fault Value :=
  match op, v with
  | .not, v => .ok (.bool (!st.isTruthy v))
  | .plus, .int n => .ok (.int n)
  | .plus, .float x => .ok (.float x)
  | .neg, .int n => .ok (.int (-n))
  | .neg, .float x => .ok (.float (-x))
  | .incr, .int n => .ok (.int (n + 1))
  | .incr, .float x => .ok (.float (x + .ofInt 1))
  | .decr, .int n => .ok (.int (n - 1))
  | .decr, .float x => .ok (.float (x - .ofInt 1))
  | op, v => .error (.invalidOperand op v)

end Operator
end TableScript
