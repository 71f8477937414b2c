import TableScript.Eval.Call
import TableScript.Eval.Outside
import TableScript.Json.Parser
import TableScript.Number.Range
import TableScript.Pattern.Replace
import TableScript.Text.Case
import TableScript.Text.Split
import TableScript.Value.Document
import TableScript.Value.Operator
import TableScript.Value.Rows

/-!
# What built-in functions do

One definition per function, run after the contract has been checked. A function that can fail on
the content of its argument gives the failure back as a second result when the caller wants two.
-/

namespace TableScript.Builtin

open Run

/-- The text of a value, with the looks of a string. -/
def richText (v : Value) : Run RichText := do
  match v with
  | .str t => return t
  | v => return .ofString ((← get).store.text v)

/-- The arguments as one line. -/
def joined (c : CallArgs) : Run String := do
  let m ← get
  let colour ← colour
  return " ".intercalate (c.args.map fun v => m.store.render v colour)

/-- The string in a position, without looks. -/
def plainArg (c : CallArgs) (i : Nat) : Run String := do
  return (← ensure (← c.arg i).requireStr).plain

/-- The elements of the list in a position. -/
def listArg (c : CallArgs) (i : Nat) : Run (List Value) := do
  let a ← ensure (← c.arg i).requireList
  return (← get).store.items a

/-- The entries of the map in a position. -/
def mapArg (c : CallArgs) (i : Nat) : Run (List Entry) := do
  let a ← ensure (← c.arg i).requireMap
  return (← get).store.entries a

/-- A new list as the only result. -/
def returnList (items : List Value) : Run (List Value) := do
  return [← ofStore (Store.allocList items)]

theorem returnList_eq (items : List Value) (m : Machine) :
    ∃ a m', returnList items m = .ok [.list a] m' ∧ m'.store.items a = items :=
  ⟨_, _, rfl, by simp [Store.items]⟩

/-- The length of a string, list or map. -/
def runLen (c : CallArgs) : Run (List Value) := do
  let st := (← get).store
  match ← c.arg 0 with
  | .str t => return [.int (.ofNat t.length)]
  | .list a => return [.int (.ofNat (st.items a).length)]
  | .map a => return [.int (.ofNat (st.entries a).length)]
  | v => fail (.expected "str | list | map" v.typeName)

/-- Conversion to an integer: the whole part of a double. -/
def runInt (c : CallArgs) : Run (List Value) := do
  match ← c.arg 0 with
  | .float x =>
    if x.isFinite then return [.int (x.toWord)]
    else fail (.typeMismatch ("cannot convert " ++ NumberText.plainText x ++ " to int"))
  | v => return [.int (← ensure v.requireIntOrBool)]

/-- Conversion to a double. -/
def runFloat (c : CallArgs) : Run (List Value) := do
  match ← c.arg 0 with
  | .bool b => return [.float (if b then .ofInt 1 else .zero)]
  | v => return [.float (← ensure v.requireNumber)]

/-- The texts of the elements of a list, with a separator between them. -/
def runJoin (c : CallArgs) : Run (List Value) := do
  let sep ← plainArg c 1
  let items ← listArg c 0
  let st := (← get).store
  return [.ofString (sep.intercalate (items.map st.text))]

/-- The pieces of a string between separators. -/
def runSplit (c : CallArgs) : Run (List Value) := do
  let s ← plainArg c 0
  let sep ← plainArg c 1
  returnList ((splitText s sep).map .ofString)

/-- A pattern, or the failure that it is none. -/
def compile (pattern : String) : Run Pattern.Regex :=
  match Pattern.Regex.compile pattern with
  | .ok r => pure r
  | .error e => fail (.parse ("invalid regex: " ++ e.message))

/-- Replaces every match of a pattern. -/
def runReplace (c : CallArgs) : Run (List Value) := do
  let s ← plainArg c 0
  let r ← compile (← plainArg c 1)
  let replacement ← plainArg c 2
  return [.ofString (r.replaceAll s replacement)]

/-- Whether a pattern matches. -/
def runIsMatch (c : CallArgs) : Run (List Value) := do
  let s ← plainArg c 0
  let r ← compile (← plainArg c 1)
  return [.bool (r.isMatch s)]

/-- Shortens a string to a number of characters, the last of which becomes an ellipsis. -/
def runTruncate (c : CallArgs) : Run (List Value) := do
  let t ← ensure (← c.arg 0).requireStr
  let most ← ensure (← c.arg 1).requireInt
  if most.toInt < 1 then
    fail (.typeMismatch ("truncate() requires a length of at least 1, got " ++ toString most))
  else if t.length ≤ most.toInt.toNat then return [.str t]
  else return [.str ((t.slice 0 (most.toInt.toNat - 1)).push "…")]

/-- The elements of a list that equal none before them. -/
def distinct (st : Store) (items : List Value) : List Value :=
  (items.foldl (fun acc v => if acc.any fun w => st.equal w v then acc else acc.push v) #[]).toList

/-- The integers of a range, as a list. -/
def rangeList (start stop step : Int64) : Run (List Value) :=
  if step = 0 then fail (.typeMismatch "range() step cannot be 0")
  else returnList ((rangeWords start stop step).map .int)

/-- The integers of a range. -/
def runRange (c : CallArgs) : Run (List Value) := do
  match ← c.args.mapM fun (v : Value) => ensure v.requireInt with
  | [stop] => rangeList 0 stop 1
  | [start, stop] => rangeList start stop 1
  | [start, stop, step] => rangeList start stop step
  | _ => fail (.bug "range() called outside its contract")

/-- A sorted copy of a list. -/
def runSort (c : CallArgs) : Run (List Value) := do
  let backwards ← match c.namedArg? "reverse" with
    | some v => ensure v.requireBool
    | none => pure false
  let items ← listArg c 0
  returnList (← ensure (Rows.sortValues items (if backwards then .descending else .ascending)))

/-- The distance from zero. -/
def runAbs (c : CallArgs) : Run (List Value) := do
  match ← c.arg 0 with
  | .int n =>
    if n = Int64.minValue then fail (.typeMismatch ("abs() overflows for " ++ toString n))
    else return [.int (if n < 0 then -n else n)]
  | v => return [.float (← ensure v.requireNumber).abs]

/-- A power, in doubles. -/
def runPow (c : CallArgs) : Run (List Value) := do
  let base ← ensure (← c.arg 0).requireNumber
  let exponent ← ensure (← c.arg 1).requireNumber
  return [.float (base.pow exponent)]

/-- Ends the script. -/
def runExit (c : CallArgs) : Run (List Value) := do
  let code ← match c.args[0]? with
    | some v => ensure v.requireInt
    | none => pure (0 : Int64)
  if Int32.minValue.toInt ≤ code.toInt ∧ code.toInt ≤ Int32.maxValue.toInt then
    record (.exitAsked (.ofInt code.toInt))
    throw (.unwind (.exit (.ofInt code.toInt)))
  else fail (.typeMismatch ("exit code " ++ toString code ++ " out of range"))

/-- Waits. No time passes here, but a time that no clock can hold is a crash. -/
def runSleep (c : CallArgs) : Run (List Value) := do
  let seconds ← ensure (← c.arg 0).requireNumber
  if !seconds.isFinite || (seconds.isNegative && !seconds.isZero) then
    fail (.typeMismatch ("sleep() needs a non-negative duration, got " ++
      NumberText.plainText seconds))
  else if Double.one * Nat.pow 2 64 ≤ seconds.magnitude then
    throw (.crash "cannot convert float seconds to Duration: value is either too big or NaN")
  else return []

/-- The results of a function that can fail on the content of its argument. -/
def fallible (c : CallArgs) (result : Except Unwind Value) : Run (List Value) := do
  match result, c.expected with
  | .ok v, some 2 => return [v, .null]
  | .ok v, _ => return [v]
  | .error u, some 2 => return [.null, .error u.toErrorValue]
  | .error u, _ => throw (.unwind u)

/-- The value of a document. -/
def valueOfJson (j : Json) : Run Value := ofStore (modifyGet (·.ofJson j))

/-- The value of a document written as text. -/
def runParseJson (c : CallArgs) : Run (List Value) := do
  let s ← plainArg c 0
  fallible c (← attempt do
    match Json.document? s with
    | some j => valueOfJson j
    | none => fail (.parse "invalid JSON: malformed document"))

/-- The integer written by a text. -/
def runParseInt (c : CallArgs) : Run (List Value) := do
  let s ← plainArg c 0
  fallible c (← attempt do
    match NumberText.readInt? (trim s) with
    | some n => return .int n
    | none => fail (.parse ("cannot parse '" ++ s ++ "' as int")))

/-- The double written by a text. -/
def runParseFloat (c : CallArgs) : Run (List Value) := do
  let s ← plainArg c 0
  fallible c (← attempt do
    match NumberText.readFloat? (trim s) with
    | some x => return .float x
    | none => fail (.parse ("cannot parse '" ++ s ++ "' as float")))

/-- The document at an address. -/
def runHttpGet (c : CallArgs) : Run (List Value) := do
  let url ← plainArg c 0
  fallible c (← attempt do valueOfJson (← fetch url))

/-- A component of a colour. -/
def channel (v : Value) : Run UInt8 := do
  let n ← ensure v.requireInt
  if 0 ≤ n.toInt ∧ n.toInt ≤ 255 then return n.toInt.toNat.toUInt8
  else fail (.typeMismatch ("rgb() channels must be 0-255, got " ++ toString n))

/-- A text in a colour given by its components. -/
def runRgb (c : CallArgs) : Run (List Value) := do
  let red ← channel (← c.arg 1)
  let green ← channel (← c.arg 2)
  let blue ← channel (← c.arg 3)
  return [.str ((← richText (← c.arg 0)).withRgb ⟨red, green, blue⟩)]

/-- A text in a style. -/
def runStyle (name : String) (c : CallArgs) : Run (List Value) := do
  match Style.ofName? name with
  | some s => return [.str ((← richText (← c.arg 0)).withStyle s)]
  | none => fail (.bug ("no attribute named '" ++ name ++ "'"))

/-- What a function does. -/
def run (b : Builtin) (c : CallArgs) : Run (List Value) := do
  match b with
  | .print => emit (.out (← joined c)); return []
  | .printErr => emit (.err (← joined c)); return []
  | .debug => log .script .debug (← joined c); return []
  | .len => runLen c
  | .typeOf => return [.ofString (← c.arg 0).typeName]
  | .str => return [.str (← richText (← c.arg 0))]
  | .int => runInt c
  | .float => runFloat c
  | .upper => return [.str ((← ensure (← c.arg 0).requireStr).mapText TableScript.upper)]
  | .lower => return [.str ((← ensure (← c.arg 0).requireStr).mapText TableScript.lower)]
  | .join => runJoin c
  | .split => runSplit c
  | .replace => runReplace c
  | .isMatch => runIsMatch c
  | .startsWith => return [.bool ((← plainArg c 1).toList.isPrefixOf (← plainArg c 0).toList)]
  | .endsWith => return [.bool ((← plainArg c 1).toList.isSuffixOf (← plainArg c 0).toList)]
  | .truncate => runTruncate c
  | .keys => returnList ((← mapArg c 0).map (·.written))
  | .values => returnList ((← mapArg c 0).map (·.value))
  | .range => runRange c
  | .unique => do
    let items ← listArg c 0
    returnList (distinct (← get).store items)
  | .sort => runSort c
  | .abs => runAbs c
  | .pow => runPow c
  | .exit => runExit c
  | .error => return [.error ⟨.user, ← plainArg c 0⟩]
  | .sleep => runSleep c
  | .parseJson => runParseJson c
  | .parseInt => runParseInt c
  | .parseFloat => runParseFloat c
  | .httpGet => runHttpGet c
  | .hyperlink => do
    let link ← plainArg c 1
    return [.str ((← richText (← c.arg 0)).withLink link)]
  | .rgb => runRgb c
  | .style name _ => runStyle name c

/-- Checks a call and runs the function. -/
def call (b : Builtin) (c : CallArgs) : Run (List Value) :=
  atSpan c.span do
    ensure (b.contract.check b.name c)
    b.run c

end TableScript.Builtin
