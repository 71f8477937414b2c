import TableScript.Eval.Machine
import TableScript.Value.Kind

/-!
# Calls

The arguments of a call, and the check of a call against the contract of a built-in function:
number of arguments, their kinds, named arguments, then the number of results.
-/

namespace TableScript

/-- Evaluated arguments of a call. -/
structure CallArgs where
  args : List Value
  named : List (String × Value) := []
  /-- How many results the caller wants; nothing when any number will do. -/
  expected : Option Nat := some 1
  span : Option Span := none

namespace CallArgs

/-- The argument in a position. -/
def arg (c : CallArgs) (i : Nat) : Run Value :=
  match c.args[i]? with
  | some v => pure v
  | none => throw (.crash "argument out of range")

/-- The first named argument with a name. -/
def namedArg? (c : CallArgs) (name : String) : Option Value := c.named.lookup name

end CallArgs

/-- The ending of a counted word. -/
def plural (n : Nat) : String := if n = 1 then "" else "s"

namespace Contract

/-- Checks the number of positional arguments. -/
def checkCount (k : Contract) (name : String) (n : Nat) : Except Fault Unit := do
  if n < k.minArgs then
    throw (.arityMismatch (name ++ "() requires at least " ++ toString k.minArgs ++ " argument" ++
      plural k.minArgs ++ ", got " ++ toString n))
  match k.maxArgs with
  | some most =>
    if n > most then
      throw (.arityMismatch (name ++ "() takes at most " ++ toString most ++ " argument" ++
        plural most ++ ", got " ++ toString n))
  | none => pure ()

/-- Checks the kinds of positional arguments, counting positions from `i`. -/
def checkKinds (name : String) (i : Nat) : List Value → List TypeSet → Except Fault Unit
  | v :: vs, t :: ts =>
    if t.accepts v.kind then checkKinds name (i + 1) vs ts
    else .error (.typeMismatch (name ++ "() argument " ++ toString i ++ " must be " ++ t.text ++
      ", got " ++ v.typeName))
  | _, _ => .ok ()

/-- Checks one named argument. -/
def checkNamed (k : Contract) (name : String) (arg : String × Value) : Except Fault Unit :=
  match k.named.lookup arg.1 with
  | none => .error (.typeMismatch (name ++ "() has no named argument '" ++ arg.1 ++ "'"))
  | some t =>
    if t.accepts arg.2.kind then .ok ()
    else .error (.typeMismatch (name ++ "() named argument '" ++ arg.1 ++ "' must be " ++ t.text ++
      ", got " ++ arg.2.typeName))

/-- Checks the number of results the caller wants. -/
def checkResults (k : Contract) (name : String) (expected : Option Nat) : Except Fault Unit :=
  match expected with
  | none => .ok ()
  | some want =>
    if k.returns.contains want then .ok ()
    else if k.returns = [0] then
      .error (.arityMismatch (name ++ "() returns no value, but " ++ toString want ++ " expected"))
    else
      .error (.arityMismatch (name ++ "() returns " ++
        " or ".intercalate (k.returns.map fun n => toString n) ++ " value" ++
        plural (k.returns.foldl max 0) ++ ", but " ++ toString want ++ " expected"))

/-- Checks a call. -/
def check (k : Contract) (name : String) (c : CallArgs) : Except Fault Unit := do
  k.checkCount name c.args.length
  checkKinds name 1 c.args k.argTypes
  c.named.forM (k.checkNamed name)
  k.checkResults name c.expected

end Contract
end TableScript
