import TableScript.Eval.Block
import TableScript.Eval.Defer
import TableScript.Eval.Function

/-!
# Running statements

A statement changes the machine and may leave the statements around it by a signal. The bodies of
loops run in a new scope for every round.
-/

namespace TableScript.Stmt

open Run

/-- Follows the path of a target into its containers. -/
def follow (ev : Evaluator) (container : Value) : List Expr → Run Value
  | [] => return container
  | e :: rest => do
    let key ← ev.expr e
    let inner ← atSpan e.span (ensure ((← get).store.index container key))
    follow ev inner rest

/-- What a target holds. -/
def readTarget (ev : Evaluator) : Target → Run Value
  | .mk name path => do follow ev (← lookup name) path

/-- Writes to the last step of a path inside a container. -/
def writePath (ev : Evaluator) (v container : Value) : (last : Expr) → List Expr → Run Unit
  | last, [] => do
    let key ← ev.expr last
    atSpan last.span (ofStore (Store.setIndex container key v))
  | e, next :: rest => do
    let key ← ev.expr e
    let inner ← atSpan e.span (ensure ((← get).store.index container key))
    writePath ev v inner next rest

/-- Writes to a target. -/
def writeTarget (ev : Evaluator) (v : Value) : Target → Run Unit
  | .mk name [] => assign name v
  | .mk name (e :: rest) => do writePath ev v (← lookup name) e rest

/-- The values of an assignment's right-hand side. -/
def assignedValues (ev : Evaluator) (count : Nat) (values : List Expr) : Run (List Value) :=
  if count = values.length then values.mapM ev.expr
  else match values with
    | [single] => Expr.evalMulti ev single (some count)
    | _ => return []

/-- Assigns to several targets at once. -/
def runAssign (ev : Evaluator) (targets : List Target) (values : List Expr) : Run Unit := do
  let vals ← assignedValues ev targets.length values
  if vals.length ≠ targets.length then
    let count := max vals.length values.length
    fail (.arityMismatch ("cannot assign " ++ toString count ++ " value" ++ plural count ++
      " to " ++ toString targets.length ++ " target" ++ plural targets.length))
  else (targets.zip vals).forM fun (target, v) => writeTarget ev v target

/-- Runs a body in a new scope with these variables. -/
def inScope (ev : Evaluator) (vars : List (String × Value)) (body : List Stmt) :
    Run (Option Signal) := do
  let saved := (← get).scope
  let scope ← newScope saved vars
  enterScope scope
  let result ← attempt (ev.block body)
  enterScope saved
  resume result

/-- Runs the first branch whose condition holds. -/
def runBranches (ev : Evaluator) (otherwise : Option (List Stmt)) :
    List (Expr × List Stmt) → Run (Option Signal)
  | [] =>
    match otherwise with
    | some body => ev.block body
    | none => return none
  | (cond, body) :: rest => do
    let c ← ev.expr cond
    if (← get).store.isTruthy c then ev.block body else runBranches ev otherwise rest

/-- Whether a loop goes round once more. -/
def continues (ev : Evaluator) : Option Expr → Run Bool
  | none => return true
  | some cond => do
    let c ← ev.expr cond
    return (← get).store.isTruthy c

/-- Runs a loop while its condition holds, `rounds` times at most. -/
def runWhile (ev : Evaluator) (cond : Option Expr) (body : List Stmt) :
    (rounds : Nat) → Run (Option Signal)
  | 0 => throw .outOfFuel
  | rounds + 1 => do
    if ← continues ev cond then
      match ← inScope ev [] body with
      | some .breakLoop => return none
      | some (.returned values) => return some (.returned values)
      | _ => runWhile ev cond body rounds
    else return none

/-- The characters of a text, each with its look. -/
def characters (t : RichText) : List Value :=
  t.chars.map fun (c, look) => .str (.ofSegments [{ text := String.ofList [c], look }])

/-- What a loop over elements binds in each round: the element, or its position and the element. -/
def elementRows (vars : Nat) (items : List Value) : List (List Value) :=
  items.zipIdx.map fun (v, i) => if vars = 2 then [.int (.ofNat i), v] else [v]

/-- What a loop over a value binds in each round. -/
def loopRows (st : Store) (vars : Nat) (iterable : Value) : Except Fault (List (List Value)) :=
  if vars = 0 ∨ vars > 2 then
    .error (.arityMismatch ("for loops bind 1 or 2 variables, got " ++ toString vars))
  else match iterable with
    | .list a => .ok (elementRows vars (st.items a))
    | .str t => .ok (elementRows vars (characters t))
    | .map a => .ok ((st.entries a).map fun e =>
        if vars = 2 then [e.written, e.value] else [e.written])
    | v => .error (.typeMismatch ("cannot iterate over a " ++ v.typeName))

/-- Runs a loop over rows. -/
def runRows (ev : Evaluator) (vars : List String) (body : List Stmt) :
    List (List Value) → Run (Option Signal)
  | [] => return none
  | row :: rest => do
    match ← inScope ev (vars.zip row) body with
    | some .breakLoop => return none
    | some (.returned values) => return some (.returned values)
    | _ => runRows ev vars body rest

/-- Registers a deferred group with the innermost frame. -/
def register (body : List Stmt) (onlyOnFailure : Bool) : Run Unit := do
  let m ← get
  match m.frames with
  | [] => fail (.bug "defer with no active frame")
  | groups :: outer =>
    let g : Deferred := { body, onlyOnFailure, scope := m.scope }
    let groups := g :: groups
    set { m with frames := groups :: outer, history := .registered g :: m.history }
    log .evaluation .debug ("registered " ++ (if onlyOnFailure then "errdefer" else "defer") ++
      " (group " ++ toString groups.length ++ ")")

/-- The slots a shell statement binds, with their variables. -/
def shellSlots : ShellTargets → Except Fault (List (ShellSlot × String))
  | .positional names =>
    if names.length > 3 then
      .error (.arityMismatch
        ("shell statements bind at most 3 values (code, stdout, stderr), got " ++
          toString names.length))
    else .ok ([ShellSlot.code, .stdout, .stderr].zip names)
  | .named slots => .ok (slots.map fun s => (s, s.name))

/-- The value of a slot. -/
def slotValue (reply : ShellReply) : ShellSlot → Value
  | .code => .int (.ofInt reply.code.toInt)
  | .stdout => .ofString reply.stdout
  | .stderr => .ofString reply.stderr

/-- Runs a command, binds what it left behind, and deals with its failure. -/
def runShell (ev : Evaluator) (targets : ShellTargets) (command : Expr) (quiet : Bool)
    (catchBody failBody : Option (List Stmt)) : Run (Option Signal) := do
  let text ← Block.evalText ev command
  let slots ← ensure (shellSlots targets)
  let captureOut := slots.any (·.1 = .stdout)
  let captureErr := slots.any (·.1 = .stderr)
  let quiet := quiet || (← get).config.quietShell
  let reply ← execute text captureOut captureErr quiet
  slots.forM fun (slot, name) => assign name (slotValue reply slot)
  if reply.code = 0 then return none
  else
    let ended := "`" ++ text ++ "` exited with " ++ toString reply.code
    match catchBody, failBody with
    | some body, _ =>
      log .evaluation .debug (ended ++ "; running catch block")
      ev.block body
    | none, some body =>
      log .evaluation .debug (ended ++ "; running fail block")
      let _ ← ev.block body
      fail (.shellExit text reply.code)
    | none, none => fail (.shellExit text reply.code)

/-- Runs what a statement is made of; `rounds` bounds the rounds of a loop. -/
def runKind (ev : Evaluator) (rounds : Nat) : StmtKind → Run (Option Signal)
  | .expr e => do
    let _ ← Expr.evalMulti ev e none
    return none
  | .assign targets values => do runAssign ev targets values; return none
  | .compoundAssign target op value => do
    let current ← readTarget ev target
    let rhs ← ev.expr value
    let updated ← ofStore (Operator.binary op current rhs)
    writeTarget ev updated target
    return none
  | .step target delta => do
    let current ← readTarget ev target
    let number ← ensure (Operator.unary (← get).store .plus current)
    let updated ← ofStore (Operator.binary .add number (.int delta))
    writeTarget ev updated target
    return none
  | .unset name => do
    let s := (← get).scope
    let removed ← ofStore (modifyGet (·.unset s name true))
    if !removed then log .evaluation .debug ("unset of unbound '" ++ name ++ "'")
    return none
  | .branch branches otherwise => runBranches ev otherwise branches
  | .whileLoop cond body => runWhile ev cond body rounds
  | .forLoop vars iter body => do
    let iterable ← ev.expr iter
    let rows ← ensure (loopRows (← get).store vars.length iterable)
    runRows ev vars body rows
  | .breakLoop => return some .breakLoop
  | .continueLoop => return some .continueLoop
  | .returnValues values => do return some (.returned (← Expr.evalReturn ev values))
  | .fnDef name params body ret => do
    let scope := (← get).scope
    let f ← ofStore (modifyGet (·.newClosure { params, body := .block name body ret, scope }))
    modifyStore (·.define scope name f)
    return none
  | .defer body onlyOnFailure => do register body onlyOnFailure; return none
  | .shell targets command quiet catchBody failBody =>
    runShell ev targets command quiet catchBody failBody
  | .fieldDecl name path => do
    let scope := (← get).scope
    modifyStore (·.defineField scope name path)
    return none
  | .block kind source fields sort mods => do Block.run ev kind source fields sort mods; return none

/-- Runs a statement. -/
def run (ev : Evaluator) (rounds : Nat) : Stmt → Run (Option Signal)
  | .mk kind span => atSpan span (runKind ev rounds kind)

/-- Runs statements up to the first signal. -/
def runAll (ev : Evaluator) (rounds : Nat) : List Stmt → Run (Option Signal)
  | [] => return none
  | s :: rest => do
    match ← run ev rounds s with
    | some signal => return some signal
    | none => runAll ev rounds rest

end TableScript.Stmt
