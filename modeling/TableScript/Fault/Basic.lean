import TableScript.ErrorCode

/-!
# Faults

A `Fault` is the cause of a failure and `Fault.message` its wording. While a failure leaves the
expressions and statements around it, it picks up a source span: the first one offered stays.
An `Unwind` is either such a failure or the request to exit, which never has a span.
-/

namespace TableScript

/-- A range of bytes of a script's source. -/
structure Span where
  start : Nat
  stop : Nat
  deriving DecidableEq, Repr, Inhabited

/-- Why an evaluation failed. -/
inductive Fault where
  | typeMismatch (message : String)
  | arityMismatch (message : String)
  | keyNotFound (key : String)
  | indexOutOfBounds (index : Int64) (length : Nat)
  | divideByZero
  | unknownIdentifier (name : String) (suggestions : List String)
  | unknownFunction (name : String)
  | traversal (path reason : String)
  | shellExit (command : String) (code : Int32)
  | fetch (url message : String)
  | parse (message : String)
  | user (value : ErrorValue)
  /-- A bug, without the backtrace of where it arose. -/
  | bug (message : String)
  deriving DecidableEq, Repr, Inhabited

namespace Fault

/-- A value of one kind where another was expected. -/
def expected (wanted actual : String) : Fault :=
  typeMismatch ("expected " ++ wanted ++ ", got " ++ actual)

/-- The hint after an unknown name. -/
def didYouMean : List String → String
  | [] => ""
  | [one] => " (did you mean '" ++ one ++ "'?)"
  | many => " (did you mean one of " ++ ", ".intercalate (many.map fun s => "'" ++ s ++ "'") ++ "?)"

/-- The wording of a fault. -/
def message : Fault → String
  | typeMismatch m | arityMismatch m | parse m => m
  | keyNotFound key => "key not found: " ++ key
  | indexOutOfBounds index length =>
    "index " ++ toString index ++ " out of bounds for length " ++ toString length
  | divideByZero => "divide by zero"
  | unknownIdentifier name suggestions =>
    "undefined variable '" ++ name ++ "'" ++ didYouMean suggestions
  | unknownFunction name => "unknown function '" ++ name ++ "'"
  | traversal path reason => "cannot traverse '" ++ path ++ "': " ++ reason
  | shellExit command code => "command failed with exit code " ++ toString code ++ ": " ++ command
  | fetch url m => "fetching " ++ url ++ ": " ++ m
  | user value => value.message
  | bug m => "bug: " ++ m

/-- The code of a fault; a raised error value keeps its own. -/
def code : Fault → ErrorCode
  | typeMismatch _ => .typeMismatch
  | arityMismatch _ => .arityMismatch
  | keyNotFound _ => .keyNotFound
  | indexOutOfBounds _ _ => .indexOutOfBounds
  | divideByZero => .divideByZero
  | unknownIdentifier _ _ => .unknownIdentifier
  | unknownFunction _ => .unknownFunction
  | traversal _ _ => .traversal
  | shellExit _ _ => .shellExit
  | fetch _ _ => .fetch
  | parse _ => .parse
  | user value => value.code
  | bug _ => .internalBug

/-- The fault as an error value. -/
def toErrorValue (f : Fault) : ErrorValue := ⟨f.code, f.message⟩

end Fault

/-- What ends an evaluation early: a failure, or the request to exit. -/
inductive Unwind where
  | failure (fault : Fault) (span : Option Span)
  | exit (code : Int32)
  deriving DecidableEq, Repr, Inhabited

namespace Unwind

/-- Attaches a span to a failure that has none. -/
def «at» (u : Unwind) (span : Option Span) : Unwind :=
  match u with
  | failure fault none => failure fault span
  | u => u

/-- Where a failure arose. -/
def span? : Unwind → Option Span
  | failure _ span => span
  | exit _ => none

/-- The code of a request to exit. -/
def exitCode? : Unwind → Option Int32
  | failure _ _ => none
  | exit code => some code

/-- The classification; an exit that is asked for one counts as a bug. -/
def code : Unwind → ErrorCode
  | failure fault _ => fault.code
  | exit _ => .internalBug

/-- The wording. -/
def message : Unwind → String
  | failure fault _ => fault.message
  | exit code => "exit " ++ toString code

/-- The unwind as an error value. -/
def toErrorValue (u : Unwind) : ErrorValue := ⟨u.code, u.message⟩

/-- Whether this is a failure, or an exit with a code other than zero. -/
def isFailure : Unwind → Bool
  | failure _ _ => true
  | exit code => code ≠ 0

end Unwind
end TableScript
