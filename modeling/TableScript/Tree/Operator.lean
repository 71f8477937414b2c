/-!
# Operators

The operators of scripts and their spelling in diagnostics.
-/

namespace TableScript

/-- An operator with two operands. -/
inductive BinaryOp where
  | add | sub | mul | div | mod
  | gt | ge | lt | le | eq | ne
  | isIn | notIn
  | and | or
  deriving DecidableEq, Repr, Inhabited

namespace BinaryOp

/-- Every operator. -/
def all : List BinaryOp :=
  [add, sub, mul, div, mod, gt, ge, lt, le, eq, ne, isIn, notIn, and, or]

/-- The spelling of an operator. -/
def symbol : BinaryOp → String
  | add => "+"
  | sub => "-"
  | mul => "*"
  | div => "/"
  | mod => "%"
  | gt => ">"
  | ge => ">="
  | lt => "<"
  | le => "<="
  | eq => "=="
  | ne => "!="
  | isIn => "in"
  | notIn => "not in"
  | and => "and"
  | or => "or"

/-- The name of an operator in a written script tree. -/
def name : BinaryOp → String
  | add => "add"
  | sub => "sub"
  | mul => "mul"
  | div => "div"
  | mod => "mod"
  | gt => "gt"
  | ge => "ge"
  | lt => "lt"
  | le => "le"
  | eq => "eq"
  | ne => "ne"
  | isIn => "in"
  | notIn => "not_in"
  | and => "and"
  | or => "or"

end BinaryOp

/-- An operator with one operand. -/
inductive UnaryOp where
  | plus
  | neg
  /-- The operand plus one. -/
  | incr
  /-- The operand minus one. -/
  | decr
  | not
  deriving DecidableEq, Repr, Inhabited

namespace UnaryOp

/-- Every operator. -/
def all : List UnaryOp := [plus, neg, incr, decr, not]

/-- The spelling of an operator. -/
def symbol : UnaryOp → String
  | plus => "+"
  | neg => "-"
  | incr => "++"
  | decr => "--"
  | not => "not"

/-- The name of an operator in a written script tree. -/
def name : UnaryOp → String
  | plus => "plus"
  | neg => "neg"
  | incr => "incr"
  | decr => "decr"
  | not => "not"

end UnaryOp
end TableScript
