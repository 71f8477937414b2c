import TableScript.Eval.Evaluator

/-!
# Evaluating expressions
-/

namespace TableScript.Expr

open Run

/-- The value of a constant. -/
def literalValue : Literal → Value
  | .int n => .int n
  | .float x => .float x
  | .str s => .ofString s
  | .bool b => .bool b
  | .null => .null

/-- The function that a callee's value is. -/
def calledFunction (callee : Expr) : Value → Run Callable
  | .fn f => pure f
  | v => atSpan callee.span (fail (.typeMismatch ("cannot call a " ++ v.typeName)))

/-- The function a callee stands for. -/
def resolveCallee (ev : Evaluator) (callee : Expr) : Run Callable := do
  let found ← match callee.kind with
    | .ident name => do
      let m ← get
      match m.store.lookup? m.scope name with
      | some v => pure v
      | none =>
        match Builtin.ofName? name with
        | some b => pure (.fn (.builtin b))
        | none => atSpan callee.span (fail (.unknownFunction name))
    | _ => ev.expr callee
  calledFunction callee found

/-- The values of named arguments. -/
def evalNamed (ev : Evaluator) (named : List (String × Expr)) : Run (List (String × Value)) :=
  named.mapM fun (name, e) => do return (name, ← ev.expr e)

/-- The results of an expression that may give several: only calls can. -/
def evalMulti (ev : Evaluator) (e : Expr) (expected : Option Nat) : Run (List Value) := do
  match e.kind with
  | .call callee args named =>
    let f ← resolveCallee ev callee
    let args ← args.mapM ev.expr
    let named ← evalNamed ev named
    atSpan e.span (ev.call f { args, named, expected, span := e.span })
  | _ => return [← ev.expr e]

/-- The values a `return` gives: a single call passes all its results on. -/
def evalReturn (ev : Evaluator) (exprs : List Expr) : Run (List Value) :=
  match exprs with
  | [.mk (.call callee args named) span] => evalMulti ev (.mk (.call callee args named) span) none
  | _ => exprs.mapM ev.expr

/-- The entries of a map as it is written. -/
def evalEntries (ev : Evaluator) (acc : List Entry) : List (Expr × Expr) → Run (List Entry)
  | [] => return acc
  | (k, v) :: rest => do
    let key ← ev.expr k
    let value ← ev.expr v
    let hashed ← atSpan k.span (ensure key.mapKey)
    evalEntries ev (Store.setEntry ⟨hashed, key, value⟩ acc) rest

/-- A bound of a slice. -/
def evalBound (ev : Evaluator) : Option Expr → Run (Option Int64)
  | none => return none
  | some e => do
    let v ← ev.expr e
    return some (← atSpan e.span (ensure v.requireInt))

/-- Evaluates an operator with two operands; `and` and `or` may leave the second alone. -/
def evalBinary (ev : Evaluator) (op : BinaryOp) (lhs rhs : Expr) : Run Value := do
  let l ← ev.expr lhs
  match op with
  | .and => if (← get).store.isTruthy l then ev.expr rhs else return l
  | .or => if (← get).store.isTruthy l then return l else ev.expr rhs
  | op =>
    let r ← ev.expr rhs
    ofStore (Operator.binary op l r)

/-- Evaluates what an expression is made of. -/
def evalKind (ev : Evaluator) (e : Expr) : Run Value := do
  match e.kind with
  | .literal l => return literalValue l
  | .ident name => lookup name
  | .list items => ofStore (Store.allocList (← items.mapM ev.expr))
  | .map entries =>
    let entries ← evalEntries ev [] entries
    ofStore (modifyGet (·.newMap entries))
  | .binary op lhs rhs => evalBinary ev op lhs rhs
  | .unary op operand =>
    let v ← ev.expr operand
    ensure (Operator.unary (← get).store op v)
  | .ternary cond whenTrue otherwise =>
    let c ← ev.expr cond
    if (← get).store.isTruthy c then ev.expr whenTrue else ev.expr otherwise
  | .index target index =>
    let t ← ev.expr target
    let i ← ev.expr index
    ensure ((← get).store.index t i)
  | .slice target start stop =>
    let t ← ev.expr target
    let start ← evalBound ev start
    let stop ← evalBound ev stop
    ofStore (Store.slice t start stop)
  | .call _ _ _ =>
    match ← evalMulti ev e (some 1) with
    | [v] => return v
    | values =>
      fail (.arityMismatch ("call produced " ++ toString values.length ++
        " values where 1 was expected"))
  | .lambda params body =>
    let scope := (← get).scope
    ofStore (modifyGet (·.newClosure { params, body := .lambda body, scope }))

/-- Evaluates an expression. -/
def eval (ev : Evaluator) (e : Expr) : Run Value := atSpan e.span (evalKind ev e)

end TableScript.Expr
