import TableScript.Capture.Path
import TableScript.Fault.Basic
import TableScript.Number.Double
import TableScript.Tree.Operator

/-!
# Script trees

A script is a list of statements, with the source text that spans refer to when there is one.
Expressions and statements carry an optional span each.
-/

namespace TableScript

/-- A constant. -/
inductive Literal where
  | int (n : Int64)
  | float (x : Double)
  | str (s : String)
  | bool (b : Bool)
  | null
  deriving DecidableEq, Repr, Inhabited

/-- Which way a column is sorted. -/
inductive SortDirection where
  | ascending
  | descending
  deriving DecidableEq, Repr, Inhabited

/-- How the rows of a block are sorted. -/
inductive SortSpec where
  /-- By every column, in field order. -/
  | general (direction : SortDirection)
  /-- By these columns. -/
  | columns (rules : List (String × SortDirection))
  deriving DecidableEq, Repr, Inhabited

/-- What a shell command leaves behind. -/
inductive ShellSlot where
  | code
  | stdout
  | stderr
  deriving DecidableEq, Repr, Inhabited

/-- The variable a slot is bound to when none is named. -/
def ShellSlot.name : ShellSlot → String
  | code => "code"
  | stdout => "stdout"
  | stderr => "stderr"

/-- The variables a shell statement binds. -/
inductive ShellTargets where
  /-- Code, output and error output, in this order. -/
  | positional (names : List String)
  /-- These slots, under their own names. -/
  | named (slots : List ShellSlot)
  deriving DecidableEq, Repr, Inhabited

/-- What a block does with its columns. -/
inductive BlockKind where
  /-- Shows them as a table. -/
  | table
  /-- Leaves them in their variables. -/
  | request
  deriving DecidableEq, Repr, Inhabited

mutual

/-- An expression. -/
inductive Expr where
  | mk (kind : ExprKind) (span : Option Span)

/-- What an expression is made of. -/
inductive ExprKind where
  | literal (value : Literal)
  | ident (name : String)
  | list (items : List Expr)
  | map (entries : List (Expr × Expr))
  | binary (op : BinaryOp) (lhs rhs : Expr)
  | unary (op : UnaryOp) (operand : Expr)
  | ternary (cond whenTrue otherwise : Expr)
  | index (target index : Expr)
  | slice (target : Expr) (start stop : Option Expr)
  | call (callee : Expr) (args : List Expr) (named : List (String × Expr))
  | lambda (params : List String) (body : LambdaBody)

/-- The body of a function without a name. -/
inductive LambdaBody where
  /-- Returns the value of every expression. -/
  | exprs (values : List Expr)
  /-- Runs the statement and returns nothing. -/
  | stmt (body : Stmt)

/-- A statement. -/
inductive Stmt where
  | mk (kind : StmtKind) (span : Option Span)

/-- What a statement is made of. -/
inductive StmtKind where
  | expr (e : Expr)
  | assign (targets : List Target) (values : List Expr)
  | compoundAssign (target : Target) (op : BinaryOp) (value : Expr)
  | step (target : Target) (delta : Int64)
  | unset (name : String)
  | branch (branches : List (Expr × List Stmt)) (otherwise : Option (List Stmt))
  | whileLoop (cond : Option Expr) (body : List Stmt)
  | forLoop (vars : List String) (iter : Expr) (body : List Stmt)
  | breakLoop
  | continueLoop
  | returnValues (values : List Expr)
  | fnDef (name : String) (params : List String) (body : List Stmt) (ret : Option (List Expr))
  | defer (body : List Stmt) (onlyOnFailure : Bool)
  | shell (targets : ShellTargets) (command : Expr) (quiet : Bool)
      (catchBody failBody : Option (List Stmt))
  | fieldDecl (name : String) (path : Path)
  | block (kind : BlockKind) (source : Option Expr) (fields : List String)
      (sort : Option SortSpec) (mods : List FieldMod)

/-- What an assignment writes to: a variable, or a place inside it. -/
inductive Target where
  | mk (name : String) (path : List Expr)

/-- A change to the columns of a block. -/
inductive FieldMod where
  /-- Replaces every cell by the function's result on it. -/
  | map (fields : List String) (function : Expr)
  /-- Styles what matches in cells that are strings. -/
  | colour (fields : List String) (colour pattern : Expr)

end

/-- Where an expression stands. -/
def Expr.span : Expr → Option Span
  | .mk _ span => span

/-- What an expression is made of. -/
def Expr.kind : Expr → ExprKind
  | .mk kind _ => kind

/-- A script. -/
structure Script where
  /-- The text that spans refer to. -/
  source : Option String := none
  stmts : List Stmt

instance : Inhabited Expr := ⟨.mk (.literal .null) none⟩
instance : Inhabited Stmt := ⟨.mk .breakLoop none⟩

end TableScript
