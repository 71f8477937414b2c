import TableScript.Shell.Filter

/-!
# Calculating with arguments

What `expr` makes of its arguments: sums, comparisons, choices and matches, each operator an
argument of its own. A result that is empty or zero counts as no.
-/

namespace TableScript.Shell.Calculate

/-- Why there is no result. -/
inductive CalcFault where
  | notInteger
  | divisionByZero
  | missing (after : String)
  | unexpected (word : String)
  deriving DecidableEq, Repr

/-- The wording of a fault. -/
def CalcFault.message : CalcFault → String
  | notInteger => "non-integer argument"
  | divisionByZero => "division by zero"
  | missing after => "syntax error: missing argument after '" ++ after ++ "'"
  | unexpected word => "syntax error: unexpected argument '" ++ word ++ "'"

/-- A calculation in progress: the arguments that are left. -/
abbrev Calc := StateT (List String) (Except CalcFault)

/-- Whether a result counts as no. -/
def isNothing (s : String) : Bool := s = "" || s.toInt? = some 0

/-- An integer operand. -/
def integer (s : String) : Except CalcFault Int :=
  match s.toInt? with
  | some n => .ok n
  | none => .error .notInteger

/-- Whether a comparison holds: of numbers, if both are, else of texts. -/
def holds (op a b : String) : Bool :=
  let order := match a.toInt?, b.toInt? with
    | some m, some n => compare m n
    | _, _ => compare a b
  match op with
  | "=" | "==" => order = .eq
  | "!=" => order ≠ .eq
  | "<" => order = .lt
  | "<=" => order ≠ .gt
  | ">" => order = .gt
  | _ => order ≠ .lt

/-- The operators, by how tightly they bind. -/
def levels : List (List String) :=
  [["|"], ["&"], ["<", "<=", "=", "==", "!=", ">=", ">"], ["+", "-"], ["*", "/", "%"], [":"]]

/-- How much of a text a pattern matches at its start: the first group if there is one, else the
number of characters. -/
def matchStart (text pattern : String) : String :=
  let grouped := (pattern.splitOn "\\(").length ≠ 1
  match compilePattern? ("^" ++ pattern) false false false false with
  | none => "0"
  | some r =>
    let chars := text.toList.toArray
    match (r.findAll text.toList).head? with
    | none => if grouped then "" else "0"
    | some m =>
      if grouped then String.ofList (Pattern.groupText chars m 1) else toString (m.stop - m.start)

/-- The result of an operator. -/
def apply (op a b : String) : Except CalcFault String := do
  match op with
  | "|" => return if isNothing a then (if isNothing b then "0" else b) else a
  | "&" => return if isNothing a || isNothing b then "0" else a
  | "+" => return toString ((← integer a) + (← integer b))
  | "-" => return toString ((← integer a) - (← integer b))
  | "*" => return toString ((← integer a) * (← integer b))
  | "/" =>
    let m ← integer a
    let n ← integer b
    if n = 0 then throw .divisionByZero else return toString (m.tdiv n)
  | "%" =>
    let m ← integer a
    let n ← integer b
    if n = 0 then throw .divisionByZero else return toString (m.tmod n)
  | ":" => return matchStart a b
  | _ => return if holds op a b then "1" else "0"

/-- Takes an argument; `after` is the one before it. -/
def take (after : String) : Calc String := do
  match ← get with
  | [] => throw (.missing after)
  | w :: rest =>
    set rest
    return w

mutual

/-- A calculation whose operators bind at least as tightly as a level. -/
def level : (fuel : Nat) → List (List String) → String → Calc String
  | 0, _, after => throw (.missing after)
  | fuel + 1, [], after => primary fuel after
  | fuel + 1, ops :: tighter, after => do
    let a ← level fuel tighter after
    levelRest fuel ops tighter a

/-- The operators of a level after an operand. -/
def levelRest : (fuel : Nat) → List String → List (List String) → String → Calc String
  | 0, _, _, a => return a
  | fuel + 1, ops, tighter, a => do
    match ← get with
    | op :: rest =>
      if ops.contains op then
        set rest
        let b ← level fuel tighter op
        levelRest fuel ops tighter (← apply op a b)
      else return a
    | [] => return a

/-- An operand, a calculation in parentheses, or a function of texts. -/
def primary : (fuel : Nat) → String → Calc String
  | 0, after => throw (.missing after)
  | fuel + 1, after => do
    let w ← take after
    match w with
    | "(" =>
      let a ← level fuel levels w
      let closing ← take a
      if closing = ")" then return a else throw (.unexpected closing)
    | "length" => return toString (← take w).length
    | "substr" =>
      let text ← take w
      let start ← integer (← take text)
      let count ← integer (← take text)
      return if start < 1 || count < 1 then ""
        else String.ofList ((text.toList.drop (start.toNat - 1)).take count.toNat)
    | "index" =>
      let text ← take w
      let members ← take text
      return toString ((text.toList.findIdx? members.toList.contains).map (· + 1) |>.getD 0)
    | "match" =>
      let text ← take w
      return matchStart text (← take text)
    | ")" => throw (.unexpected w)
    | "+" => take w
    | w => return w

end

/-- Calculates with arguments. -/
def run (args : List String) : ShellM Unit := do
  if args.isEmpty then misuse "expr" "missing operand" 2
  else match (level (16 * args.length + 32) levels "").run args with
    | .ok (result, []) =>
      writeOut (result ++ "\n")
      setStatus (statusOf (!isNothing result))
    | .ok (_, w :: _) => report "expr" (CalcFault.unexpected w).message 2
    | .error fault => report "expr" fault.message 2

end TableScript.Shell.Calculate
