import TableScript.Config
import TableScript.Exit
import TableScript.Fault.Report
import TableScript.Json.Basic
import TableScript.Log.Note
import TableScript.Pattern.Search
import TableScript.Shell.System
import TableScript.Value.Basic

/-!
# The machine

The state of a run and the computations on it.

1. `Event`s are everything a run does that can be seen from outside, in order;
2. `Turn`s are what a run does that bears on how it ends, and `FrameEvent`s what it does with frames
   and deferred groups. These and the failures that arose are kept for what is said about runs; no
   step looks at them;
3. `Machine` is the state: the store, the current scope, the deferred groups of the active frames,
   the exit status, and the outside world as the run finds it;
4. `Run` is a computation on the machine that ends with a value or stops. A stop is a failure or
   exit on its way out, a crash, or the end of the fuel.
-/

namespace TableScript

/-- Something a run does that can be seen from outside. -/
inductive Event where
  /-- A line of output. -/
  | out (line : String)
  /-- A line of error output. -/
  | err (line : String)
  | log (note : Note)
  /-- A document was asked for. -/
  | request (url : String)
  /-- A command was run, with its output and error output captured or not. -/
  | command (text : String) (captureOut captureErr quiet : Bool)
  /-- What a command wrote to output that was not captured. -/
  | rawOut (text : String)
  /-- What a command wrote to error output that was not captured. -/
  | rawErr (text : String)
  deriving DecidableEq, Repr, Inhabited

/-- What runs commands. -/
inductive CommandRunner where
  /-- Answers given in advance; when they are used up, commands succeed silently. -/
  | scripted (replies : List ShellReply)
  /-- A program that runs commands, with what it finds around it. -/
  | program (name : String) (host : Shell.Host)

/-- Where documents come from. -/
inductive Transport where
  /-- Nowhere. -/
  | none
  /-- Documents given in advance, by the first pattern that matches the address. -/
  | mock (rules : List (Pattern.Regex × Json))
  /-- Answers given in advance; when they are used up, there is no transport any more. -/
  | scripted (answers : List (Except Fault Json))

/-- A deferred group: its statements, whether it runs only on failure, and its scope. -/
structure Deferred where
  body : List Stmt
  onlyOnFailure : Bool
  scope : Nat

/-- What the statements of a frame belong to. -/
inductive FrameKind where
  | script
  | call
  /-- A deferred group, and the scope it runs in. -/
  | group (g : Deferred) (scope : Nat)

/-- Something a run does with a frame; the frame is the innermost one. -/
inductive FrameEvent where
  | opened (kind : FrameKind)
  /-- A group is registered. -/
  | registered (g : Deferred)
  /-- The body has ended, and the groups are next. -/
  | left (how : Except Unwind Unit)
  /-- A group is passed over. -/
  | skipped (g : Deferred)
  /-- All groups have been dealt with. -/
  | closed
  /-- A crash of a group is caught; what it left open is given up. -/
  | caught
  /-- The failure of a group cannot be quoted in a note, which is a crash. -/
  | unprintable

/-- Something a run does that bears on how it ends. -/
inductive Turn where
  /-- An exit was asked for. -/
  | exitAsked (code : Int32)
  /-- A deferred group ended with a failure or a crash. -/
  | groupFailed
  /-- Deferred groups asked for an exit after the body of their frame had ended with one: the
  body's stays. -/
  | exitOverruled (own asked : Int32)
  deriving DecidableEq, Repr

/-- The state of a run. -/
structure Machine where
  store : Store := {}
  /-- The scope statements run in. -/
  scope : Nat := 0
  /-- Deferred groups of the active frames, innermost frame first, latest group first. -/
  frames : List (List Deferred) := []
  exit : ExitStatus := {}
  /-- The text that spans refer to. -/
  source : Option String := none
  config : Config := { echo := false }
  shell : CommandRunner := .scripted []
  transport : Transport := .none
  /-- The least important notes that are taken; none means no notes at all. -/
  logLevel : Option LogLevel := none
  /-- What happened so far. -/
  events : Array Event := #[]
  /-- The turns the script took so far, latest first. -/
  turns : List Turn := []
  /-- What the script did with its frames so far, latest first. -/
  history : List FrameEvent := []
  /-- The failures that arose so far, latest first, whatever became of them. -/
  faults : List Fault := []

/-- Why a computation stopped. -/
inductive Stop where
  | unwind (u : Unwind)
  /-- An operation that cannot go on: it has no result and no failure a script could see. -/
  | crash (message : String)
  | outOfFuel
  deriving DecidableEq, Repr, Inhabited

/-- A computation on the machine. -/
abbrev Run := EStateM Stop Machine

namespace Run

variable {α : Type}

/-- A computation that does not touch the machine. -/
def lift : Except Fault α → Run α
  | .ok a => pure a
  | .error f => throw (.unwind (.failure f none))

/-- Records that a failure arises. -/
def arise (f : Fault) : Run Unit := modify fun m => { m with faults := f :: m.faults }

/-- Records the failure that a computation ends with. -/
def noted (x : Run α) : Run α := fun m =>
  match x m with
  | .error (.unwind (.failure f span)) m =>
    .error (.unwind (.failure f span)) { m with faults := f :: m.faults }
  | r => r

/-- Stops with a failure. -/
def fail (f : Fault) : Run α := do
  arise f
  throw (.unwind (.failure f none))

/-- A result found without the machine; that there is none is a failure. -/
def ensure (r : Except Fault α) : Run α := noted (lift r)

/-- A computation on the store. -/
def ofStore (x : StoreM α) : Run α := fun m =>
  let st := m.store
  -- the machine lets go of the store while it changes
  let m := { m with store := {} }
  match x st with
  | .ok a st => .ok a { m with store := st }
  | .error f st =>
    .error (.unwind (.failure f none)) { m with store := st, faults := f :: m.faults }

/-- Attaches a span to a failure that has none. -/
def atSpan (span : Option Span) (x : Run α) : Run α := fun m =>
  match x m with
  | .error (.unwind u) m => .error (.unwind (u.at span)) m
  | r => r

/-- The result of a computation, or the failure or exit that it ended with. -/
def attempt (x : Run α) : Run (Except Unwind α) := fun m =>
  match x m with
  | .ok a m => .ok (.ok a) m
  | .error (.unwind u) m => .ok (.error u) m
  | .error s m => .error s m

/-- Like `attempt`, and a crash is caught as well. -/
def guarded (x : Run α) : Run (Except String (Except Unwind α)) := fun m =>
  match x m with
  | .ok a m => .ok (.ok (.ok a)) m
  | .error (.unwind u) m => .ok (.ok (.error u)) m
  | .error (.crash message) m => .ok (.error message) m
  | .error .outOfFuel m => .error .outOfFuel m

/-- Puts a result or failure back on its way. -/
def resume : Except Unwind α → Run α
  | .ok a => pure a
  | .error u => throw (.unwind u)

/-- Records an event. -/
def emit (e : Event) : Run Unit := modify fun m => { m with events := m.events.push e }

/-- Records a turn. -/
def record (t : Turn) : Run Unit := modify fun m => { m with turns := t :: m.turns }

/-- Records what happens to a frame. -/
def mark (e : FrameEvent) : Run Unit := modify fun m => { m with history := e :: m.history }

/-- Whether notes of a level are taken. -/
def isLogged (m : Machine) (level : LogLevel) : Bool := level.isTaken m.logLevel

/-- Takes a note. -/
def log (source : LogSource) (level : LogLevel) (text : String) : Run Unit := do
  if isLogged (← get) level then emit (.log ⟨source, level, text⟩)

/-- Changes the exit status and notes what changed. -/
def changeExit (f : ExitStatus → ExitStatus) : Run Unit := do
  let before := (← get).exit
  modify fun m => { m with exit := f before }
  match before.note? (f before) with
  | some note => log .exit .debug note
  | none => pure ()

/-- Whether the styles of strings are shown. -/
def colour : Run Bool := do return (← get).config.colour.getD false

end Run
end TableScript
