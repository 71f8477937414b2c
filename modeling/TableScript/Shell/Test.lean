import TableScript.Shell.Session

/-!
# Tests

What `test` and `[` find out: about texts, numbers and files, joined by `-a`, `-o` and `!`. An
operator that has nothing to operate on is taken for a text.
-/

namespace TableScript.Shell.Test

/-- What kind of operator a word is. -/
inductive OpKind where
  | unary
  | binary
  | negation
  | conjunction
  | disjunction
  | openParen
  | closeParen
  deriving DecidableEq, Repr

/-- The operator a word is. -/
def opKind? (word : String) : Option OpKind :=
  if ["-r", "-w", "-x", "-e", "-f", "-d", "-c", "-b", "-p", "-u", "-g", "-k", "-s", "-t", "-z",
      "-n", "-h", "-L", "-S", "-O", "-G"].contains word then some .unary
  else if ["=", "!=", "<", ">", "-eq", "-ne", "-ge", "-gt", "-le", "-lt", "-nt", "-ot",
      "-ef"].contains word then some .binary
  else match word with
    | "!" => some .negation
    | "-a" => some .conjunction
    | "-o" => some .disjunction
    | "(" => some .openParen
    | ")" => some .closeParen
    | _ => none

/-- Whether the first word of the rest is an operand although it looks like a unary operator. -/
def isOperand : List String → Bool
  | [] | [_] => true
  | [_, _] => false
  | _ :: next :: _ => opKind? next = some .binary

/-- The operator that the rest starts with, if it acts as one. -/
def operatorAt (words : List String) : Option OpKind :=
  match words with
  | [] => none
  | w :: rest =>
    match opKind? w with
    | some .unary => if isOperand words then none else some .unary
    | some .openParen => if rest.isEmpty then none else some .openParen
    | k => k

/-- A test in progress: it reads words from the left. -/
abbrev Tester := StateT (List String) (Except String)

/-- A decimal number. -/
def numberOf (s : String) : Except String Int64 :=
  let (negative, cs) := match s.toList.dropWhile Sum.isBlank with
    | '-' :: cs => (true, cs)
    | '+' :: cs => (false, cs)
    | cs => (false, cs)
  let (digits, rest) := cs.span Char.isDigit
  let n := Sum.digitsValue 10 digits
  if digits.isEmpty || !rest.all Sum.isBlank || Nat.pow 2 63 ≤ n then
    .error ("Illegal number: " ++ s)
  else .ok (.ofInt (if negative then -(n : Int) else n))

/-- Whether a comparison of two numbers holds. -/
def compareNumbers (op : String) (a b : Int64) : Bool :=
  match op with
  | "-eq" => a = b
  | "-ne" => a ≠ b
  | "-lt" => a < b
  | "-le" => a ≤ b
  | "-gt" => b < a
  | _ => b ≤ a

/-- What a path leads to. -/
def nodeAt? (s : Session) (path : String) : Option (Place × FileNode) :=
  (s.files.find s.directory (readable path)).toOption

/-- Whether an operator with two operands holds. -/
def binary (s : Session) (a op b : String) : Except String Bool := do
  match op with
  | "=" => return a = b
  | "!=" => return a ≠ b
  | "<" => return a < b
  | ">" => return b < a
  | "-nt" => return (nodeAt? s a).isSome && (nodeAt? s b).isNone
  | "-ot" => return (nodeAt? s a).isNone && (nodeAt? s b).isSome
  | "-ef" => return (nodeAt? s a).isSome && (nodeAt? s a).map (·.1) = (nodeAt? s b).map (·.1)
  | _ => return compareNumbers op (← numberOf a) (← numberOf b)

/-- Whether an operator with one operand holds. -/
def unary (s : Session) (op a : String) : Except String Bool := do
  let node : Option FileNode := (nodeAt? s a).map (·.2)
  match op with
  | "-n" => return a ≠ ""
  | "-z" => return a = ""
  | "-t" => do
    discard (numberOf a)
    return false
  | "-e" | "-r" | "-w" | "-O" | "-G" => return node.isSome
  | "-f" => return match node with
    | some (.file ..) | some (.program _) => true
    | _ => false
  | "-d" => return node = some .directory
  | "-c" => return match node with
    | some (.device _) => true
    | _ => false
  | "-s" => return match node with
    | some (.file bytes _) => !bytes.isEmpty
    | some .directory | some (.program _) => true
    | _ => false
  | "-x" => return match node with
    | some (.file _ executable) => executable
    | some .directory | some (.program _) => true
    | _ => false
  | _ => return false

mutual

/-- Tests joined by `-o`; the words left start with the last word of the test. -/
def disjunction (s : Session) : (fuel : Nat) → Tester Bool
  | 0 => return false
  | fuel + 1 => do
    let a ← conjunction s fuel
    if operatorAt (← get).tail = some .disjunction then
      modify (·.drop 2)
      let b ← disjunction s fuel
      return a || b
    else return a

/-- Tests joined by `-a`. -/
def conjunction (s : Session) : (fuel : Nat) → Tester Bool
  | 0 => return false
  | fuel + 1 => do
    let a ← negation s fuel
    if operatorAt (← get).tail = some .conjunction then
      modify (·.drop 2)
      let b ← conjunction s fuel
      return a && b
    else return a

/-- A test that may be negated. -/
def negation (s : Session) : (fuel : Nat) → Tester Bool
  | 0 => return false
  | fuel + 1 => do
    let words ← get
    if operatorAt words = some .negation then
      if words.length = 1 then return true
      set words.tail
      return !(← negation s fuel)
    else primary s fuel

/-- A single test. -/
def primary (s : Session) : (fuel : Nat) → Tester Bool
  | 0 => return false
  | fuel + 1 => do
    match ← get with
    | [] => return false
    | w :: rest =>
      match operatorAt (w :: rest) with
      | some .openParen =>
        set rest
        if operatorAt rest = some .closeParen then return false
        let a ← disjunction s fuel
        modify List.tail
        if operatorAt (← get) = some .closeParen then return a
        else throw "closing paren expected"
      | some .unary =>
        set rest
        match rest with
        | [] => throw (w ++ ": argument expected")
        | a :: _ => unary s w a
      | _ =>
        if operatorAt rest = some .binary then
          match rest with
          | op :: b :: more =>
            set (b :: more)
            binary s w op b
          | op :: [] => throw (op ++ ": argument expected")
          | [] => return w ≠ ""
        else return w ≠ ""

end

/-- Runs a test on words, all of which it has to use up. -/
def run (s : Session) (words : List String) : Except String Bool := do
  let fuel := 8 * words.length + 8
  let (result, rest) ← (disjunction s fuel).run words
  match rest with
  | w :: _ :: _ => throw (if w = "" then "unexpected operator" else w ++ ": unexpected operator")
  | _ => return result

/-- Runs a test of three words whose middle one is an operator, or any other test. Parentheses
around one or two words fall away. -/
def outcome (s : Session) (words : List String) : Except String Bool :=
  match words with
  | [] => .ok false
  | [a, op, b] =>
    if opKind? op = some .binary then binary s a op b
    else if a = "(" && b = ")" then run s [op]
    else run s words
  | [a, b, c, d] => if a = "(" && d = ")" then run s [b, c] else run s words
  | _ => run s words

end TableScript.Shell.Test
