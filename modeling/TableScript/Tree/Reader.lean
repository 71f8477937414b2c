import TableScript.Tree.Basic
import TableScript.Tree.Record

/-!
# Script trees from documents

Reads a script from the document it is written as. Only the parts that a tree is made of are looked
at: a member that no tree has is passed over. The recursion is bounded by the depth of the document,
since every part of a tree stands deeper than the whole.
-/

namespace TableScript.Tree

open Json (Draft)

/-- A span. -/
def readSpan? (j : Draft) : Option Span := do
  let r ← Record.ofDraft? ["start", "end"] j
  some ⟨← r.required 0 Draft.nat?, ← r.required 1 Draft.nat?⟩

/-- A constant. -/
def readLiteral? (j : Draft) : Option Literal := do
  match ← j.variant? with
  | ("int", some j) => j.word?.map .int
  | ("float", some j) => j.double?.map .float
  | ("str", some j) => j.string?.map .str
  | ("bool", some j) => j.bool?.map .bool
  | ("null", none) | ("null", some .null) => some .null
  | _ => none

/-- An operator with two operands. -/
def readBinaryOp? (j : Draft) : Option BinaryOp :=
  j.unit?.bind fun name => BinaryOp.all.find? (·.name = name)

/-- An operator with one operand. -/
def readUnaryOp? (j : Draft) : Option UnaryOp :=
  j.unit?.bind fun name => UnaryOp.all.find? (·.name = name)

/-- A step of a path. -/
def readPathStep? (j : Draft) : Option PathStep := do
  match ← j.variant? with
  | ("key", some j) => j.string?.map .key
  | ("wildcard", none) | ("wildcard", some .null) => some .wildcard
  | ("all_elements", none) | ("all_elements", some .null) => some .allElements
  | ("index", some j) => j.word?.map .index
  | _ => none

/-- A direction of sorting. -/
def readDirection? (j : Draft) : Option SortDirection :=
  match j.unit? with
  | some "asc" => some .ascending
  | some "desc" => some .descending
  | _ => none

/-- How rows are sorted. -/
def readSortSpec? (j : Draft) : Option SortSpec := do
  match ← j.variant? with
  | ("general", some j) => (readDirection? j).map .general
  | ("columns", some j) => (j.listOf? (Draft.pairOf? Draft.string? readDirection?)).map .columns
  | _ => none

/-- What a shell command leaves behind. -/
def readShellSlot? (j : Draft) : Option ShellSlot :=
  match j.unit? with
  | some "code" => some .code
  | some "stdout" => some .stdout
  | some "stderr" => some .stderr
  | _ => none

/-- The variables a shell statement binds. -/
def readShellTargets? (j : Draft) : Option ShellTargets := do
  match ← j.variant? with
  | ("positional", some j) => (j.listOf? Draft.string?).map .positional
  | ("named", some j) => (j.listOf? readShellSlot?).map .named
  | _ => none

/-- What a block does with its columns. -/
def readBlockKind? (j : Draft) : Option BlockKind :=
  match j.unit? with
  | some "rad" => some .table
  | some "request" => some .request
  | _ => none

/-- Names. -/
def readNames? : Draft → Option (List String) := Draft.listOf? Draft.string?

mutual

/-- An expression. -/
def readExpr? : (fuel : Nat) → Draft → Option Expr
  | 0, _ => none
  | fuel + 1, j => do
    let r ← Record.ofDraft? ["kind", "span"] j
    some (.mk (← r.required 0 (readExprKind? fuel)) (← r.optional 1 readSpan?))

/-- What an expression is made of. -/
def readExprKind? : (fuel : Nat) → Draft → Option ExprKind
  | 0, _ => none
  | fuel + 1, j => do
    let (name, content) ← j.variant?
    let j ← content
    match name with
    | "literal" => (readLiteral? j).map .literal
    | "ident" => j.string?.map .ident
    | "list" => (j.listOf? (readExpr? fuel)).map .list
    | "map" => (j.listOf? (Draft.pairOf? (readExpr? fuel) (readExpr? fuel))).map .map
    | "binary" => do
      let r ← Record.ofDraft? ["op", "lhs", "rhs"] j
      some (.binary (← r.required 0 readBinaryOp?) (← r.required 1 (readExpr? fuel))
        (← r.required 2 (readExpr? fuel)))
    | "unary" => do
      let r ← Record.ofDraft? ["op", "operand"] j
      some (.unary (← r.required 0 readUnaryOp?) (← r.required 1 (readExpr? fuel)))
    | "ternary" => do
      let r ← Record.ofDraft? ["cond", "then", "otherwise"] j
      some (.ternary (← r.required 0 (readExpr? fuel)) (← r.required 1 (readExpr? fuel))
        (← r.required 2 (readExpr? fuel)))
    | "index" => do
      let r ← Record.ofDraft? ["target", "index"] j
      some (.index (← r.required 0 (readExpr? fuel)) (← r.required 1 (readExpr? fuel)))
    | "slice" => do
      let r ← Record.ofDraft? ["target", "start", "end"] j
      some (.slice (← r.required 0 (readExpr? fuel)) (← r.nullable 1 (readExpr? fuel))
        (← r.nullable 2 (readExpr? fuel)))
    | "call" => do
      let r ← Record.ofDraft? ["callee", "args", "named"] j
      some (.call (← r.required 0 (readExpr? fuel))
        (← r.required 1 (Draft.listOf? (readExpr? fuel)))
        (← r.defaulted 2 [] (Draft.listOf? (Draft.pairOf? Draft.string? (readExpr? fuel)))))
    | "lambda" => do
      let r ← Record.ofDraft? ["params", "body"] j
      some (.lambda (← r.required 0 readNames?) (← r.required 1 (readLambdaBody? fuel)))
    | _ => none

/-- The body of a function without a name. -/
def readLambdaBody? : (fuel : Nat) → Draft → Option LambdaBody
  | 0, _ => none
  | fuel + 1, j => do
    match ← j.variant? with
    | ("exprs", some j) => (j.listOf? (readExpr? fuel)).map .exprs
    | ("stmt", some j) => (readStmt? fuel j).map .stmt
    | _ => none

/-- A statement. -/
def readStmt? : (fuel : Nat) → Draft → Option Stmt
  | 0, _ => none
  | fuel + 1, j => do
    let r ← Record.ofDraft? ["kind", "span"] j
    some (.mk (← r.required 0 (readStmtKind? fuel)) (← r.optional 1 readSpan?))

/-- What a statement is made of. -/
def readStmtKind? : (fuel : Nat) → Draft → Option StmtKind
  | 0, _ => none
  | fuel + 1, j => do
    let (name, content) ← j.variant?
    match name, content with
    | "break", none | "break", some .null => some .breakLoop
    | "continue", none | "continue", some .null => some .continueLoop
    | "expr", some j => (readExpr? fuel j).map .expr
    | "assign", some j => do
      let r ← Record.ofDraft? ["targets", "values"] j
      some (.assign (← r.required 0 (Draft.listOf? (readTarget? fuel)))
        (← r.required 1 (Draft.listOf? (readExpr? fuel))))
    | "compound_assign", some j => do
      let r ← Record.ofDraft? ["target", "op", "value"] j
      some (.compoundAssign (← r.required 0 (readTarget? fuel)) (← r.required 1 readBinaryOp?)
        (← r.required 2 (readExpr? fuel)))
    | "step", some j => do
      let r ← Record.ofDraft? ["target", "delta"] j
      some (.step (← r.required 0 (readTarget? fuel)) (← r.required 1 Draft.word?))
    | "unset", some j => j.string?.map .unset
    | "if", some j => do
      let r ← Record.ofDraft? ["branches", "otherwise"] j
      some (.branch
        (← r.required 0
          (Draft.listOf? (Draft.pairOf? (readExpr? fuel) (Draft.listOf? (readStmt? fuel)))))
        (← r.optional 1 (Draft.listOf? (readStmt? fuel))))
    | "while", some j => do
      let r ← Record.ofDraft? ["cond", "body"] j
      some (.whileLoop (← r.nullable 0 (readExpr? fuel))
        (← r.required 1 (Draft.listOf? (readStmt? fuel))))
    | "for", some j => do
      let r ← Record.ofDraft? ["vars", "iter", "body"] j
      some (.forLoop (← r.required 0 readNames?) (← r.required 1 (readExpr? fuel))
        (← r.required 2 (Draft.listOf? (readStmt? fuel))))
    | "return", some j => (j.listOf? (readExpr? fuel)).map .returnValues
    | "fn_def", some j => do
      let r ← Record.ofDraft? ["name", "params", "body", "ret"] j
      some (.fnDef (← r.required 0 Draft.string?) (← r.required 1 readNames?)
        (← r.required 2 (Draft.listOf? (readStmt? fuel)))
        (← r.optional 3 (Draft.listOf? (readExpr? fuel))))
    | "defer", some j => do
      let r ← Record.ofDraft? ["body", "errdefer"] j
      some (.defer (← r.required 0 (Draft.listOf? (readStmt? fuel))) (← r.required 1 Draft.bool?))
    | "shell", some j => do
      let r ← Record.ofDraft? ["targets", "cmd", "quiet", "catch", "fail"] j
      some (.shell (← r.required 0 readShellTargets?) (← r.required 1 (readExpr? fuel))
        (← r.defaulted 2 false Draft.bool?) (← r.optional 3 (Draft.listOf? (readStmt? fuel)))
        (← r.optional 4 (Draft.listOf? (readStmt? fuel))))
    | "field_decl", some j => do
      let r ← Record.ofDraft? ["name", "path"] j
      some (.fieldDecl (← r.required 0 Draft.string?)
        (← r.required 1 (Draft.listOf? readPathStep?)))
    | "rad", some j => do
      let r ← Record.ofDraft? ["kind", "source", "fields", "sort", "mods"] j
      some (.block (← r.defaulted 0 .table readBlockKind?) (← r.optional 1 (readExpr? fuel))
        (← r.required 2 readNames?) (← r.optional 3 readSortSpec?)
        (← r.defaulted 4 [] (Draft.listOf? (readFieldMod? fuel))))
    | _, _ => none

/-- What an assignment writes to. -/
def readTarget? : (fuel : Nat) → Draft → Option Target
  | 0, _ => none
  | fuel + 1, j => do
    let r ← Record.ofDraft? ["name", "path"] j
    some (.mk (← r.required 0 Draft.string?) (← r.defaulted 1 [] (Draft.listOf? (readExpr? fuel))))

/-- A change to the columns of a block. -/
def readFieldMod? : (fuel : Nat) → Draft → Option FieldMod
  | 0, _ => none
  | fuel + 1, j => do
    match ← j.variant? with
    | ("map", some j) => do
      let r ← Record.ofDraft? ["fields", "lambda"] j
      some (.map (← r.required 0 readNames?) (← r.required 1 (readExpr? fuel)))
    | ("color", some j) => do
      let r ← Record.ofDraft? ["fields", "color", "regex"] j
      some (.colour (← r.required 0 readNames?) (← r.required 1 (readExpr? fuel))
        (← r.required 2 (readExpr? fuel)))
    | _ => none

end

/-- A script. -/
def readScript? (j : Draft) : Option Script := do
  let fuel := 2 * j.depth + 2
  let r ← Record.ofDraft? ["source", "stmts"] j
  some
    { source := ← r.optional 0 Draft.string?
      stmts := ← r.required 1 (Draft.listOf? (readStmt? fuel)) }

end TableScript.Tree
