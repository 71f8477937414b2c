import TableScript.Json.Basic
import TableScript.Tree.Basic

/-!
# Script trees as documents

Writes a script as the document that `Tree.readScript?` reads it from. Absent spans and sources are
left out; every other absent part is written as null.
-/

namespace TableScript.Tree

/-- A variant with content. -/
def variant (name : String) (content : Json) : Json := .obj [(name, content)]

/-- Names. -/
def writeNames (names : List String) : Json := .arr (names.map .str)

/-- A span. -/
def writeSpan (s : Span) : Json := .obj [("start", .int s.start), ("end", .int s.stop)]

/-- The member for a span, if there is one. -/
def spanMember (span : Option Span) : List (String × Json) :=
  match span with
  | some s => [("span", writeSpan s)]
  | none => []

/-- A constant. -/
def writeLiteral : Literal → Json
  | .int n => variant "int" (.int n.toInt)
  | .float x => variant "float" (.float x)
  | .str s => variant "str" (.str s)
  | .bool b => variant "bool" (.bool b)
  | .null => .str "null"

/-- A step of a path. -/
def writePathStep : PathStep → Json
  | .key name => variant "key" (.str name)
  | .wildcard => .str "wildcard"
  | .allElements => .str "all_elements"
  | .index i => variant "index" (.int i.toInt)

/-- A direction of sorting. -/
def writeDirection : SortDirection → Json
  | .ascending => .str "asc"
  | .descending => .str "desc"

/-- How rows are sorted. -/
def writeSortSpec : SortSpec → Json
  | .general d => variant "general" (writeDirection d)
  | .columns rules =>
    variant "columns" (.arr (rules.map fun (name, d) => .arr [.str name, writeDirection d]))

/-- The variables a shell statement binds. -/
def writeShellTargets : ShellTargets → Json
  | .positional names => variant "positional" (writeNames names)
  | .named slots => variant "named" (.arr (slots.map fun s => .str s.name))

/-- What a block does with its columns. -/
def writeBlockKind : BlockKind → Json
  | .table => .str "rad"
  | .request => .str "request"

/-- Something that may be absent. -/
def orNull {α : Type} (write : α → Json) : Option α → Json
  | some a => write a
  | none => .null

mutual

/-- An expression. -/
def writeExpr : Expr → Json
  | .mk kind span => .obj (("kind", writeExprKind kind) :: spanMember span)

/-- What an expression is made of. -/
def writeExprKind : ExprKind → Json
  | .literal l => variant "literal" (writeLiteral l)
  | .ident name => variant "ident" (.str name)
  | .list items => variant "list" (.arr (writeExprs items))
  | .map entries => variant "map" (.arr (writeEntries entries))
  | .binary op lhs rhs =>
    variant "binary" (.obj [("op", .str op.name), ("lhs", writeExpr lhs), ("rhs", writeExpr rhs)])
  | .unary op operand =>
    variant "unary" (.obj [("op", .str op.name), ("operand", writeExpr operand)])
  | .ternary cond whenTrue otherwise =>
    variant "ternary" (.obj [("cond", writeExpr cond), ("then", writeExpr whenTrue),
      ("otherwise", writeExpr otherwise)])
  | .index target index =>
    variant "index" (.obj [("target", writeExpr target), ("index", writeExpr index)])
  | .slice target start stop =>
    variant "slice" (.obj [("target", writeExpr target), ("start", writeOptExpr start),
      ("end", writeOptExpr stop)])
  | .call callee args named =>
    variant "call" (.obj [("callee", writeExpr callee), ("args", .arr (writeExprs args)),
      ("named", .arr (writeNamed named))])
  | .lambda params body =>
    variant "lambda" (.obj [("params", writeNames params), ("body", writeLambdaBody body)])

/-- The body of a function without a name. -/
def writeLambdaBody : LambdaBody → Json
  | .exprs values => variant "exprs" (.arr (writeExprs values))
  | .stmt body => variant "stmt" (writeStmt body)

/-- A statement. -/
def writeStmt : Stmt → Json
  | .mk kind span => .obj (("kind", writeStmtKind kind) :: spanMember span)

/-- What a statement is made of. -/
def writeStmtKind : StmtKind → Json
  | .expr e => variant "expr" (writeExpr e)
  | .assign targets values =>
    variant "assign" (.obj [("targets", .arr (writeTargets targets)),
      ("values", .arr (writeExprs values))])
  | .compoundAssign target op value =>
    variant "compound_assign" (.obj [("target", writeTarget target), ("op", .str op.name),
      ("value", writeExpr value)])
  | .step target delta =>
    variant "step" (.obj [("target", writeTarget target), ("delta", .int delta.toInt)])
  | .unset name => variant "unset" (.str name)
  | .branch branches otherwise =>
    variant "if" (.obj [("branches", .arr (writeBranches branches)),
      ("otherwise", writeOptStmts otherwise)])
  | .whileLoop cond body =>
    variant "while" (.obj [("cond", writeOptExpr cond), ("body", .arr (writeStmts body))])
  | .forLoop vars iter body =>
    variant "for" (.obj [("vars", writeNames vars), ("iter", writeExpr iter),
      ("body", .arr (writeStmts body))])
  | .breakLoop => .str "break"
  | .continueLoop => .str "continue"
  | .returnValues values => variant "return" (.arr (writeExprs values))
  | .fnDef name params body ret =>
    variant "fn_def" (.obj [("name", .str name), ("params", writeNames params),
      ("body", .arr (writeStmts body)), ("ret", writeOptExprs ret)])
  | .defer body onlyOnFailure =>
    variant "defer" (.obj [("body", .arr (writeStmts body)), ("errdefer", .bool onlyOnFailure)])
  | .shell targets command quiet catchBody failBody =>
    variant "shell" (.obj [("targets", writeShellTargets targets), ("cmd", writeExpr command),
      ("quiet", .bool quiet), ("catch", writeOptStmts catchBody), ("fail", writeOptStmts failBody)])
  | .fieldDecl name path =>
    variant "field_decl" (.obj [("name", .str name), ("path", .arr (path.map writePathStep))])
  | .block kind source fields sort mods =>
    variant "rad" (.obj [("kind", writeBlockKind kind), ("source", writeOptExpr source),
      ("fields", writeNames fields), ("sort", orNull writeSortSpec sort),
      ("mods", .arr (writeMods mods))])

/-- What an assignment writes to. -/
def writeTarget : Target → Json
  | .mk name path => .obj [("name", .str name), ("path", .arr (writeExprs path))]

/-- A change to the columns of a block. -/
def writeFieldMod : FieldMod → Json
  | .map fields function =>
    variant "map" (.obj [("fields", writeNames fields), ("lambda", writeExpr function)])
  | .colour fields colour pattern =>
    variant "color" (.obj [("fields", writeNames fields), ("color", writeExpr colour),
      ("regex", writeExpr pattern)])

/-- Expressions. -/
def writeExprs : List Expr → List Json
  | [] => []
  | e :: rest => writeExpr e :: writeExprs rest

/-- Entries of a map. -/
def writeEntries : List (Expr × Expr) → List Json
  | [] => []
  | (k, v) :: rest => .arr [writeExpr k, writeExpr v] :: writeEntries rest

/-- Named arguments. -/
def writeNamed : List (String × Expr) → List Json
  | [] => []
  | (name, e) :: rest => .arr [.str name, writeExpr e] :: writeNamed rest

/-- Statements. -/
def writeStmts : List Stmt → List Json
  | [] => []
  | s :: rest => writeStmt s :: writeStmts rest

/-- Branches with their conditions. -/
def writeBranches : List (Expr × List Stmt) → List Json
  | [] => []
  | (cond, body) :: rest => .arr [writeExpr cond, .arr (writeStmts body)] :: writeBranches rest

/-- Targets. -/
def writeTargets : List Target → List Json
  | [] => []
  | t :: rest => writeTarget t :: writeTargets rest

/-- Changes to columns. -/
def writeMods : List FieldMod → List Json
  | [] => []
  | m :: rest => writeFieldMod m :: writeMods rest

/-- An expression that may be absent. -/
def writeOptExpr : Option Expr → Json
  | some e => writeExpr e
  | none => .null

/-- Expressions that may be absent. -/
def writeOptExprs : Option (List Expr) → Json
  | some es => .arr (writeExprs es)
  | none => .null

/-- Statements that may be absent. -/
def writeOptStmts : Option (List Stmt) → Json
  | some ss => .arr (writeStmts ss)
  | none => .null

end

/-- A script. -/
def writeScript (s : Script) : Json :=
  .obj ((match s.source with
    | some text => [("source", .str text)]
    | none => []) ++ [("stmts", .arr (writeStmts s.stmts))])

end TableScript.Tree
