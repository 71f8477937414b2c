import TableScript.Eval.Statement

/-!
# Running scripts

`Evaluator.ofFuel` takes steps up to a bound, which is all that keeps a script that never ends from
being run forever. A script runs its statements, then the deferred groups of its frame; what ended
it early becomes a diagnostic and the exit code.
-/

namespace TableScript

/-- The evaluator that goes `fuel` steps deep, and as many rounds in each loop. -/
def Evaluator.ofFuel : (fuel : Nat) → Evaluator
  | 0 => .exhausted
  | fuel + 1 =>
    { expr := fun e => e.eval (ofFuel fuel)
      block := fun body => Stmt.runAll (ofFuel fuel) fuel body
      call := fun f args => f.call (ofFuel fuel) args
      deferred := fun groups frame => Deferred.run (ofFuel fuel) groups frame }

/-- How a script ended. -/
structure Outcome where
  exitCode : Int32
  /-- The failure that ended the script, if there was one. -/
  diagnostics : List String
  deriving DecidableEq, Repr

namespace Script

open Run

/-- The machine a script starts on: nothing of earlier scripts is left but what lies outside. -/
def started (s : Script) (m : Machine) : Machine :=
  { m with
    store := (({} : Store).newScope none).2
    scope := 0
    frames := [[]]
    exit := {}
    source := s.source
    turns := []
    history := [.opened .script]
    faults := [] }

/-- The diagnostic of a failure, which is noted too. Quoting the source can crash. -/
def report (u : Unwind) : Run String := do
  match u.report? (← get).source with
  | some text =>
    log .evaluation .error u.message
    return text
  | none => throw (.crash "span inside a character")

/-- The code a script exits with, and its diagnostics, from how its statements ended. -/
def conclude : Except Unwind (Option Signal) → Run (Int32 × List String)
  | .ok none | .ok (some (.returned _)) => return (0, [])
  | .ok (some signal) => do
    let fault := .bug (signal.name ++ " escaped to the top level")
    arise fault
    let text ← report (.failure fault none)
    return (1, [text])
  | .error (.exit code) => return (code, [])
  | .error u => do return (1, [← report u])

/-- Runs a script with an evaluator. -/
def runWith (ev : Evaluator) (s : Script) : Run Outcome := do
  modify s.started
  let (code, diagnostics) ← conclude (← attempt (ev.block s.stmts))
  changeExit fun e => (e.begin code).1
  let groups ← leaveFrame (.error (.exit (← get).exit.initialCode))
  let deferred ← attempt (ev.deferred groups .script)
  mark .closed
  match deferred with
  | .ok () => pure ()
  | .error u =>
    log .evaluation .error u.message
    changeExit (·.escalate 1)
  return { exitCode := (← get).exit.code, diagnostics }

/-- Runs a script. -/
def run (fuel : Nat) (s : Script) : Run Outcome := runWith (.ofFuel fuel) s

end Script

/-- The variables of the script's outermost scope, sorted by name. -/
def Machine.globals (m : Machine) : List (String × Value) :=
  ((m.store.scopeAt 0).vars).mergeSort fun a b => decide (a.1 ≤ b.1)

end TableScript
