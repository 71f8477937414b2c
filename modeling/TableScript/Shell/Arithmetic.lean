import TableScript.Shell.Word

/-!
# Sums in commands

Integer expressions over words of 64 bits. A sum is read first and evaluated then, so operands that
do not count are never looked at. Where a sum cannot be read any further it is broken: that is found
out when everything before it has been evaluated, and also among operands that do not count. A name
stands for the number its variable holds, and for zero if there is none; a sum can set variables,
and its value comes with what it has set.
-/

namespace TableScript.Shell

/-- Why a sum has no value. -/
inductive SumFault where
  | divisionByZero
  | expecting (what : String)
  /-- A variable that holds no number. -/
  | illegalNumber (text : String)
  deriving DecidableEq, Repr

/-- An operator between two operands that both count. -/
inductive SumOp where
  | add | sub | mul | div | rem
  | shiftLeft | shiftRight
  | lt | le | gt | ge | eq | ne
  | bitAnd | bitXor | bitOr
  deriving DecidableEq, Repr

/-- An operator before an operand. -/
inductive SumSign where
  | minus | not | complement
  deriving DecidableEq, Repr

/-- A sum. -/
inductive Sum where
  | number (n : Int64)
  | named (name : String)
  | signed (sign : SumSign) (a : Sum)
  | binary (op : SumOp) (a b : Sum)
  | both (a b : Sum)
  | either (a b : Sum)
  | choice (condition yes no : Sum)
  /-- Sets a variable, to what an operator makes of it if there is one. -/
  | assign (name : String) (op : Option SumOp) (value : Sum)
  /-- What was read before something else was expected. -/
  | broken (before : Option Sum) (what : String)
  deriving Inhabited

namespace SumOp

/-- A truth as a number. -/
def truth (b : Bool) : Int64 := if b then 1 else 0

/-- The result of an operator. -/
def apply (op : SumOp) (a b : Int64) : Except SumFault Int64 :=
  match op with
  | add => .ok (a + b)
  | sub => .ok (a - b)
  | mul => .ok (a * b)
  | div => if b = 0 then .error .divisionByZero else .ok (a / b)
  | rem => if b = 0 then .error .divisionByZero else .ok (a % b)
  | shiftLeft => .ok (a <<< b)
  | shiftRight => .ok (a >>> b)
  | lt => .ok (truth (a < b))
  | le => .ok (truth (a ≤ b))
  | gt => .ok (truth (b < a))
  | ge => .ok (truth (b ≤ a))
  | eq => .ok (truth (a = b))
  | ne => .ok (truth (a ≠ b))
  | bitAnd => .ok (a &&& b)
  | bitXor => .ok (a ^^^ b)
  | bitOr => .ok (a ||| b)

end SumOp

namespace Sum

/-! ## Numerals -/

/-- The value of a digit in any base up to sixteen. -/
def digitValue? (c : Char) : Option Nat :=
  if c.isDigit then some (c.toNat - '0'.toNat)
  else if 'a' ≤ c ∧ c ≤ 'f' then some (c.toNat - 'a'.toNat + 10)
  else if 'A' ≤ c ∧ c ≤ 'F' then some (c.toNat - 'A'.toNat + 10)
  else none

/-- Whether a character is a digit in a base. -/
def isDigitIn (base : Nat) (c : Char) : Bool :=
  match digitValue? c with
  | some d => d < base
  | none => false

/-- The value of digits in a base. -/
def digitsValue (base : Nat) (cs : List Char) : Nat :=
  cs.foldl (fun n c => n * base + (digitValue? c).getD 0) 0

/-- The base that the start of a numeral calls for, and its digits. -/
def splitBase (cs : List Char) : Nat × List Char :=
  match cs with
  | '0' :: x :: d :: rest =>
    if (x = 'x' || x = 'X') && isDigitIn 16 d then (16, d :: rest) else (8, cs)
  | '0' :: _ => (8, cs)
  | _ => (10, cs)

/-- A numeral at the head of the text, and the rest. -/
def takeNumeral (cs : List Char) : Nat × List Char :=
  let (base, cs) := splitBase cs
  let (digits, rest) := cs.span (isDigitIn base)
  (digitsValue base digits, rest)

/-- A natural number as a word; the largest word if it is larger. -/
def clamp (n : Nat) : Int64 := if n < Nat.pow 2 63 then .ofNat n else Int64.maxValue

/-- Whether a character is a blank. -/
def isBlank (c : Char) : Bool := c = ' ' || ('\t' ≤ c && c ≤ '\r')

/-- The number a text holds: a numeral with or without a sign, with blanks around it. -/
def number? (s : String) : Option Int64 :=
  let (negative, cs) := match s.toList.dropWhile isBlank with
    | '-' :: cs => (true, cs)
    | '+' :: cs => (false, cs)
    | cs => (false, cs)
  if (cs.head?.map Char.isDigit).getD false then
    let (n, rest) := takeNumeral cs
    if !(rest.all isBlank) || Nat.pow 2 63 < n || (!negative && n = Nat.pow 2 63) then none
    else some (if negative then .ofInt (-(n : Int)) else .ofNat n)
  else none

/-! ## Reading -/

/-- Operators with their signs, longer ones before their beginnings, and how tightly they bind. -/
def operators : List (String × SumOp × Nat) :=
  [("<<", .shiftLeft, 7), (">>", .shiftRight, 7), ("<=", .le, 6), (">=", .ge, 6), ("==", .eq, 5),
    ("!=", .ne, 5), ("+", .add, 8), ("-", .sub, 8), ("*", .mul, 9), ("/", .div, 9), ("%", .rem, 9),
    ("<", .lt, 6), (">", .gt, 6), ("&", .bitAnd, 4), ("^", .bitXor, 3), ("|", .bitOr, 2)]

/-- Operators that set a variable, longer ones before their beginnings. -/
def assignments : List (String × Option SumOp) :=
  [("<<=", some .shiftLeft), (">>=", some .shiftRight), ("+=", some .add), ("-=", some .sub),
    ("*=", some .mul), ("/=", some .div), ("%=", some .rem), ("&=", some .bitAnd),
    ("^=", some .bitXor), ("|=", some .bitOr), ("=", none)]

/-- A reader of sums. -/
abbrev Reader := StateM (List Char)

/-- The rest of the sum, without blanks before it. -/
def ahead : Reader (List Char) := do
  let cs := (← get).dropWhile isBlank
  set cs
  return cs

/-- Gives up reading where something else is expected. -/
def stuck (before : Option Sum) (what : String) : Reader Sum := do
  set ([] : List Char)
  return .broken before what

/-- Drops a sign if it comes next; the result says whether it did. -/
def accept (sign : String) : Reader Bool := do
  let cs ← ahead
  if sign.toList.isPrefixOf cs then
    set (cs.drop sign.length)
    return true
  else return false

/-- The signs that a following equals sign does not turn into assignments. -/
def comparisons : List String := ["<=", ">=", "==", "!=", "<", ">"]

/-- The operator at the head of the text, if it binds at least this tightly and sets nothing. -/
def operator? (least : Nat) (cs : List Char) : Option (SumOp × Nat × List Char) :=
  if "&&".toList.isPrefixOf cs || "||".toList.isPrefixOf cs then none
  else do
    let (sign, op, binding) ← operators.find? fun entry => entry.1.toList.isPrefixOf cs
    let rest := cs.drop sign.length
    let sets := rest.head? = some '=' && !(comparisons.contains sign)
    if least ≤ binding && !sets then some (op, binding, rest) else none

/-- The operator at the head of the text that sets a variable. -/
def assignment? (cs : List Char) : Option (Option SumOp × List Char) :=
  if "==".toList.isPrefixOf cs then none
  else do
    let (sign, op) ← assignments.find? fun entry => entry.1.toList.isPrefixOf cs
    some (op, cs.drop sign.length)

mutual

/-- Reads a sum that may set a variable. -/
def readAssignment : (fuel : Nat) → Reader Sum
  | 0 => stuck none "primary"
  | fuel + 1 => do
    let cs ← ahead
    let (name, rest) := cs.span Word.isNameChar
    match assignment? (rest.dropWhile isBlank) with
    | some (op, after) =>
      if Word.isName (String.ofList name) then
        set after
        return .assign (String.ofList name) op (← readAssignment fuel)
      else readChoice fuel
    | none => readChoice fuel

/-- Reads a choice between two sums, or a plain one. -/
def readChoice : (fuel : Nat) → Reader Sum
  | 0 => stuck none "primary"
  | fuel + 1 => do
    let condition ← readEither fuel
    if ← accept "?" then
      let yes ← readAssignment fuel
      if ← accept ":" then return .choice condition yes (← readChoice fuel)
      else stuck (some (.choice condition yes yes)) "':'"
    else return condition

/-- Reads sums one of which has to hold. -/
def readEither : (fuel : Nat) → Reader Sum
  | 0 => stuck none "primary"
  | fuel + 1 => do
    let left ← readBoth fuel
    if ← accept "||" then return .either left (← readEither fuel) else return left

/-- Reads sums all of which have to hold. -/
def readBoth : (fuel : Nat) → Reader Sum
  | 0 => stuck none "primary"
  | fuel + 1 => do
    let left ← readOperators fuel 0 (← readOperand fuel)
    if ← accept "&&" then return .both left (← readBoth fuel) else return left

/-- Reads operators that bind at least as tightly as `least`, with their right operands. -/
def readOperators : (fuel least : Nat) → Sum → Reader Sum
  | 0, _, _ => stuck none "primary"
  | fuel + 1, least, left => do
    match operator? least (← ahead) with
    | some (op, binding, rest) =>
      set rest
      let right ← readOperators fuel (binding + 1) (← readOperand fuel)
      readOperators fuel least (.binary op left right)
    | none => return left

/-- Reads a number, a name, a sum in parentheses, or one of them after a sign. -/
def readOperand : (fuel : Nat) → Reader Sum
  | 0 => stuck none "primary"
  | fuel + 1 => do
    match ← ahead with
    | '-' :: rest =>
      set rest
      return .signed .minus (← readOperand fuel)
    | '+' :: rest =>
      set rest
      readOperand fuel
    | '!' :: rest =>
      set rest
      return .signed .not (← readOperand fuel)
    | '~' :: rest =>
      set rest
      return .signed .complement (← readOperand fuel)
    | '(' :: rest =>
      set rest
      let a ← readAssignment fuel
      if ← accept ")" then return a else stuck (some a) "')'"
    | c :: rest =>
      if c.isDigit then
        let (n, rest) := takeNumeral (c :: rest)
        set rest
        return .number (clamp n)
      else if Word.isNameStart c then
        let (name, rest) := (c :: rest).span Word.isNameChar
        set rest
        return .named (String.ofList name)
      else stuck none "primary"
    | [] => stuck none "primary"

end

/-- Reads a whole text as a sum. -/
def parse (text : String) : Sum :=
  let (a, rest) := readAssignment (8 * text.length + 16) text.toList
  if rest.all isBlank then a else .broken (some a) "EOF"

/-- What was expected where a sum is broken first. -/
def firstBreak? : Sum → Option String
  | number _ | named _ => none
  | signed _ a | assign _ _ a => firstBreak? a
  | binary _ a b | both a b | either a b => (firstBreak? a).or (firstBreak? b)
  | choice c a b => ((firstBreak? c).or (firstBreak? a)).or (firstBreak? b)
  | broken before what =>
    match before with
    | some a => (firstBreak? a).or (some what)
    | none => some what

/-- Passes over a sum that does not count, unless it is broken. -/
def skip (a : Sum) : Except SumFault Unit :=
  match firstBreak? a with
  | some what => .error (.expecting what)
  | none => .ok ()

/-! ## Values -/

/-- The value of a sum, given what variables hold, and the variables set so far, latest first. -/
def eval (held : String → String) (set : List (String × Int64)) :
    Sum → Except SumFault (Int64 × List (String × Int64))
  | number n => .ok (n, set)
  | named name => do return (← look held set name, set)
  | signed sign a => do
    let (x, set) ← eval held set a
    return (match sign with
      | .minus => -x
      | .not => SumOp.truth (x = 0)
      | .complement => ~~~x, set)
  | binary op a b => do
    let (x, set) ← eval held set a
    let (y, set) ← eval held set b
    return (← op.apply x y, set)
  | both a b => do
    let (x, set) ← eval held set a
    if x = 0 then
      skip b
      return (0, set)
    let (y, set) ← eval held set b
    return (SumOp.truth (y ≠ 0), set)
  | either a b => do
    let (x, set) ← eval held set a
    if x ≠ 0 then
      skip b
      return (1, set)
    let (y, set) ← eval held set b
    return (SumOp.truth (y ≠ 0), set)
  | choice c a b => do
    let (x, set) ← eval held set c
    if x ≠ 0 then
      let r ← eval held set a
      skip b
      return r
    else
      skip a
      eval held set b
  | assign name op a => do
    let (x, set) ← eval held set a
    let y ← match op with
      | some op => op.apply (← look held set name) x
      | none => pure x
    return (y, (name, y) :: set)
  | broken before what => do
    match before with
    | some a => discard (eval held set a)
    | none => pure ()
    throw (.expecting what)
where
  /-- The number a variable holds. -/
  look (held : String → String) (set : List (String × Int64)) (name : String) :
      Except SumFault Int64 :=
    match set.lookup name with
    | some n => .ok n
    | none =>
      let text := held name
      if text.toList.all isBlank then .ok 0
      else match number? text with
        | some n => .ok n
        | none => .error (.illegalNumber text)

end Sum
end TableScript.Shell
