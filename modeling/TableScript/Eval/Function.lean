import TableScript.Eval.Expression

/-!
# Calling functions

A built-in function runs directly. A function of a script runs in a frame of its own, in a new
scope inside the scope it was made in; when it ends, however it ends, the deferred groups of the
frame run and the caller's scope is restored.
-/

namespace TableScript.Callable

open Run

/-- The signal that left a function's body without meaning anything there. -/
def escaped {α : Type} (name : String) (s : Signal) : Run α :=
  fail (.bug (s.name ++ " escaped from " ++ name ++ "()"))

/-- Whether a body ended with a failure, or with an exit with a code other than zero. -/
def hasFailed {α : Type} : Except Unwind α → Bool
  | .ok _ => false
  | .error u => u.isFailure

/-- Runs a body in a scope as a frame. -/
def inFrame {α : Type} (ev : Evaluator) (scope : Nat) (body : Run α) : Run α := do
  let saved := (← get).scope
  enterScope scope
  openFrame .call
  let result ← attempt body
  let groups ← leaveFrame (result.map fun _ => ())
  let deferred ← attempt (ev.deferred groups (.call (hasFailed result)))
  enterScope saved
  endFrame result deferred

/-- The scope of a call: parameters bound to arguments. -/
def bindParams (name : String) (c : Closure) (args : CallArgs) : Run Nat :=
  match args.named with
  | (arg, _) :: _ =>
    atSpan args.span (fail (.typeMismatch (name ++ "() has no named argument '" ++ arg ++ "'")))
  | [] =>
    if args.args.length ≠ c.params.length then
      atSpan args.span (fail (.arityMismatch (name ++ "() takes " ++ toString c.params.length ++
        " argument" ++ plural c.params.length ++ ", got " ++ toString args.args.length)))
    else newScope c.scope (c.params.zip args.args)

/-- The results of a function's body; nothing when it ends without returning. -/
def runBody (ev : Evaluator) (c : Closure) : Run (Option (List Value)) := do
  match c.body with
  | .lambda (.exprs exprs) => return some (← exprs.mapM ev.expr)
  | .lambda (.stmt s) =>
    match ← ev.block [s] with
    | some .breakLoop => escaped c.name .breakLoop
    | some .continueLoop => escaped c.name .continueLoop
    | _ => return none
  | .block name body ret =>
    match ← ev.block body with
    | some (.returned values) => return some values
    | some s => escaped name s
    | none =>
      match ret with
      | some exprs => return some (← Expr.evalReturn ev exprs)
      | none => return none

/-- Checks the number of results against what the caller wants. -/
def checkReturns (name : String) (returned : Option (List Value)) (args : CallArgs) :
    Run (List Value) :=
  match args.expected, returned with
  | none, values => pure (values.getD [])
  | some want, none =>
    if 0 < want then
      atSpan args.span (fail (.arityMismatch (name ++ "() did not return a value, but " ++
        toString want ++ " expected")))
    else pure []
  | some want, some values =>
    if values.length ≠ want then
      atSpan args.span (fail (.arityMismatch (name ++ "() returned " ++ toString values.length ++
        " value" ++ plural values.length ++ ", but " ++ toString want ++ " expected")))
    else pure values

/-- Calls a function. -/
def call (ev : Evaluator) (f : Callable) (args : CallArgs) : Run (List Value) := do
  match f with
  | .builtin b => b.call args
  | .closure a =>
    match (← get).store.closures[a]? with
    | none => throw (.crash "function out of range")
    | some c =>
      let scope ← bindParams c.name c args
      let returned ← inFrame ev scope (runBody ev c)
      checkReturns c.name returned args

end TableScript.Callable
