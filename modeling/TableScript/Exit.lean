/-!
# Exit status

A run starts out running. The first exit fixes the initial code and makes it exiting; from then on
only a zero code can change, once, to a code other than zero. A code reported while still running
is kept aside and becomes the code of an exit that asks for zero.
-/

namespace TableScript

/-- Whether an exit has begun, and with which code as things stand. -/
inductive ExitPhase where
  | running
  | exiting (code : Int32)
  deriving DecidableEq, Repr, Inhabited

/-- How a run is going to end. -/
structure ExitStatus where
  phase : ExitPhase := .running
  /-- The code owed by failures that were survived while running. -/
  pending : Int32 := 0
  /-- The code the exit began with. -/
  initial : Int32 := 0
  deriving DecidableEq, Repr, Inhabited

namespace ExitStatus

/-- Raises a zero code to `code`; another code stays. -/
def escalate (s : ExitStatus) (code : Int32) : ExitStatus :=
  match s.phase with
  | .exiting current => if current = 0 ∧ code ≠ 0 then { s with phase := .exiting code } else s
  | .running => if s.pending = 0 then { s with pending := code } else s

/-- Asks for an exit; the second component says whether this is the first such request. -/
def begin (s : ExitStatus) (code : Int32) : ExitStatus × Bool :=
  match s.phase with
  | .running =>
    let code := if code = 0 then s.pending else code
    ({ s with phase := .exiting code, initial := code }, true)
  | .exiting _ => (s.escalate code, false)

/-- Whether an exit has begun. -/
def isExiting (s : ExitStatus) : Bool := s.phase ≠ .running

/-- The code the run would end with as things stand. -/
def code (s : ExitStatus) : Int32 :=
  match s.phase with
  | .running => s.pending
  | .exiting code => code

/-- The code the exit began with; zero while running. -/
def initialCode (s : ExitStatus) : Int32 :=
  match s.phase with
  | .running => 0
  | .exiting _ => s.initial

/-- What there is to note about a change of status. -/
def note? (before after : ExitStatus) : Option String :=
  match before.phase, after.phase with
  | .running, .exiting code => some ("exiting with code " ++ toString code)
  | .exiting old, .exiting new =>
    if old ≠ new then some ("escalating exit code " ++ toString old ++ " -> " ++ toString new)
    else none
  | _, _ => none

end ExitStatus
end TableScript
