/-!
# Levels of notes

Notes have a level. The higher the verbosity of a level, the less important its notes.
-/

namespace TableScript

/-- How important a note is. -/
inductive LogLevel where
  | error
  | warn
  | info
  | debug
  | trace
  deriving DecidableEq, Repr, Inhabited

namespace LogLevel

/-- Every level, the most important first. -/
def all : List LogLevel := [error, warn, info, debug, trace]

/-- How much is said at a level: more at higher numbers. -/
def verbosity : LogLevel → Nat
  | error => 1
  | warn => 2
  | info => 3
  | debug => 4
  | trace => 5

/-- The name of a level. -/
def name : LogLevel → String
  | error => "ERROR"
  | warn => "WARN"
  | info => "INFO"
  | debug => "DEBUG"
  | trace => "TRACE"

/-- Whether notes of level `l` are taken when `least` is the least important level taken. -/
def isTaken (least : Option LogLevel) (l : LogLevel) : Bool :=
  match least with
  | some least => l.verbosity ≤ least.verbosity
  | none => false

end LogLevel
end TableScript
