import TableScript.Eval.Evaluator

/-!
# Running deferred groups

The groups of a frame run when it ends, latest first, each in the scope it was registered in and in
a frame of its own. A failure or crash of a group is noted and raises the exit code; an exit asked
for by a group is passed on once all groups have run, or only raises the code when the script is
exiting already. Groups that wait for a failure are skipped when there was none.
-/

namespace TableScript.Deferred

open Run

/-- Whether a frame failed. -/
def hasFailed (m : Machine) : Frame → Bool
  | .script => m.exit.initialCode ≠ 0
  | .call failed => failed

/-- Runs the statements of a group in a frame of its own, then the groups registered meanwhile. -/
def runBody (ev : Evaluator) (g : Deferred) : Run Unit := do
  openFrame (.group g (← get).scope)
  let result ← attempt (ev.block g.body)
  let nested ← leaveFrame (result.map fun _ => ())
  let deferred ← attempt (ev.deferred nested (.call (!result.isOk)))
  let _ ← endFrame result deferred

/-- The machine with a scope entered again and the frames above a depth dropped. -/
def restored (scope depth : Nat) (m : Machine) : Machine :=
  { m with scope, frames := m.frames.drop (m.frames.length - depth) }

/-- Runs a group; scope and frames are as before afterwards, even after a crash. -/
def isolated (ev : Evaluator) (g : Deferred) : Run (Except String (Except Unwind Unit)) := do
  let saved := (← get).scope
  let depth := (← get).frames.length
  enterScope g.scope
  let outcome ← guarded (runBody ev g)
  modify (restored saved depth)
  return outcome

/-- Notes a failed group. The note quotes the source, which can crash. -/
def noteFailure (u : Unwind) : Run Unit := do
  let m ← get
  if isLogged m .warn then
    match u.report? m.source with
    | some text => log .evaluation .warn ("deferred block failed: " ++ text)
    | none =>
      mark .unprintable
      throw (.crash "span inside a character")

/-- The exit asked for when one more group asks for one: the first code other than zero. -/
def firstFailure (requested : Option Int32) (code : Int32) : Int32 :=
  match requested with
  | some previous => if previous ≠ 0 then previous else code
  | none => code

/-- Deals with how a group ended; `requested` is the exit asked for so far. -/
def settle (requested : Option Int32) :
    Except String (Except Unwind Unit) → Run (Option Int32)
  | .ok (.ok ()) => return requested
  | .ok (.error (.exit code)) => do
    if (← get).exit.isExiting then
      changeExit (·.escalate code)
      return requested
    else return some (firstFailure requested code)
  | .ok (.error u) => do
    record .groupFailed
    noteFailure u
    changeExit (·.escalate 1)
    return requested
  | .error message => do
    mark .caught
    record .groupFailed
    log .evaluation .error ("deferred block panicked: " ++ message)
    changeExit (·.escalate 1)
    return requested

/-- Runs groups one after the other. -/
def runAll (ev : Evaluator) (frame : Frame) (requested : Option Int32) : List Deferred → Run Unit
  | [] =>
    match requested with
    | some code => throw (.unwind (.exit code))
    | none => return ()
  | g :: rest => do
    if g.onlyOnFailure && !hasFailed (← get) frame then
      mark (.skipped g)
      log .evaluation .debug ("skipping errdefer (" ++ frame.text ++ ")")
      runAll ev frame requested rest
    else
      let outcome ← isolated ev g
      runAll ev frame (← settle requested outcome) rest

/-- Runs the groups of a frame. -/
def run (ev : Evaluator) (groups : List Deferred) (frame : Frame) : Run Unit :=
  runAll ev frame none groups

end TableScript.Deferred
