import TableScript.Eval.Builtins
import TableScript.Value.Scope

/-!
# Evaluators

Evaluating a script is one step after the other: a step evaluates something by evaluating its parts.
An `Evaluator` is how the parts are evaluated. The steps are defined for any evaluator, each in the
module of its subject; a full evaluator arises by taking steps a bounded number of times.
-/

namespace TableScript

/-- How a statement leaves the statements around it. -/
inductive Signal where
  | breakLoop
  | continueLoop
  | returned (values : List Value)

/-- The name of a signal that has nowhere to go. -/
def Signal.name : Signal → String
  | breakLoop => "Break"
  | continueLoop => "Continue"
  | returned _ => "Return"

/-- What kind of frame deferred groups belong to, and whether it failed. -/
inductive Frame where
  /-- The whole script; whether it failed is read off the exit status. -/
  | script
  | call (failed : Bool)
  deriving DecidableEq, Repr

/-- A frame in notes. -/
def Frame.text : Frame → String
  | script => "Script"
  | call failed => "Call \x7b failed: " ++ (if failed then "true" else "false") ++ " \x7d"

/-- How the parts of something are evaluated. -/
structure Evaluator where
  expr : Expr → Run Value
  block : List Stmt → Run (Option Signal)
  call : Callable → CallArgs → Run (List Value)
  /-- Runs deferred groups, the first of the list first. -/
  deferred : List Deferred → Frame → Run Unit

/-- The evaluator that has no fuel left. -/
def Evaluator.exhausted : Evaluator where
  expr _ := throw .outOfFuel
  block _ := throw .outOfFuel
  call _ _ := throw .outOfFuel
  deferred _ _ := throw .outOfFuel

namespace Run

/-- The value of a name: a variable, else a built-in function. -/
def lookup (name : String) : Run Value := do
  let m ← get
  match m.store.lookup? m.scope name with
  | some v => return v
  | none =>
    match Builtin.ofName? name with
    | some b => return .fn (.builtin b)
    | none => fail (.unknownIdentifier name (m.store.similarNames m.scope name))

/-- Changes the store. -/
def modifyStore (f : Store → Store) : Run Unit :=
  modify fun m =>
    let st := m.store
    let m := { m with store := {} }
    { m with store := f st }

/-- Writes a name where it is bound, else in the current scope. -/
def assign (name : String) (v : Value) : Run Unit := do
  let s := (← get).scope
  modifyStore (·.assign s name v true)

/-- Opens a frame without deferred groups. -/
def openFrame (kind : FrameKind) : Run Unit := do
  mark (.opened kind)
  modify fun m => { m with frames := [] :: m.frames }

/-- Leaves the innermost frame, whose body has ended, and gives back its deferred groups. -/
def leaveFrame (how : Except Unwind Unit) : Run (List Deferred) := do
  mark (.left how)
  modifyGet fun m => (m.frames.headD [], { m with frames := m.frames.tail })

/-- Ends a frame: with what its body ended with, or with the exit that deferred groups asked for
when the body gave a value. -/
def endFrame {α : Type} (result : Except Unwind α) (deferred : Except Unwind Unit) : Run α := do
  mark .closed
  match result, deferred with
  | .error (.exit own), .error (.exit asked) => record (.exitOverruled own asked)
  | _, _ => pure ()
  let value ← resume result
  resume deferred
  return value

/-- Enters a scope. -/
def enterScope (s : Nat) : Run Unit := modify fun m => { m with scope := s }

/-- A new scope inside another, with these variables. -/
def newScope (parent : Nat) (vars : List (String × Value)) : Run Nat :=
  ofStore (modifyGet fun st =>
    let (s, st) := st.newScope (some parent)
    (s, vars.foldl (fun st (name, v) => st.define s name v) st))

end Run
end TableScript
