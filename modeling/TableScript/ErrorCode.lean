/-!
# Error values

The classification of failures that scripts see, and the error values they can hold.
-/

namespace TableScript

/-- What kind of failure an error stands for. -/
inductive ErrorCode where
  | typeMismatch
  | arityMismatch
  | keyNotFound
  | indexOutOfBounds
  | divideByZero
  | unknownIdentifier
  | unknownFunction
  | traversal
  | shellExit
  | fetch
  | parse
  | user
  | internalBug
  deriving DecidableEq, Repr, Inhabited

namespace ErrorCode

/-- Every code. -/
def all : List ErrorCode :=
  [typeMismatch, arityMismatch, keyNotFound, indexOutOfBounds, divideByZero, unknownIdentifier,
    unknownFunction, traversal, shellExit, fetch, parse, user, internalBug]

/-- The name under which scripts and diagnostics show a code. -/
def name : ErrorCode → String
  | typeMismatch => "type-mismatch"
  | arityMismatch => "arity-mismatch"
  | keyNotFound => "key-not-found"
  | indexOutOfBounds => "index-out-of-bounds"
  | divideByZero => "divide-by-zero"
  | unknownIdentifier => "unknown-identifier"
  | unknownFunction => "unknown-function"
  | traversal => "trie-traversal"
  | shellExit => "shell-non-zero-exit"
  | fetch => "fetch"
  | parse => "parse"
  | user => "user"
  | internalBug => "internal-bug"

/-- The code with this name. -/
def ofName? (name : String) : Option ErrorCode := all.find? (·.name = name)

end ErrorCode

/-- An error as a value that a script can hold, pass on and raise. -/
structure ErrorValue where
  code : ErrorCode
  message : String
  deriving DecidableEq, Repr, Inhabited

end TableScript
