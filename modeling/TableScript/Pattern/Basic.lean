import TableScript.Unicode.Property

/-!
# Patterns

What a pattern means once its flags have been worked into its parts.
-/

namespace TableScript.Pattern

/-- A condition on a position between two characters. -/
inductive Assertion where
  | textStart
  | textEnd
  | lineStart
  | lineEnd
  /-- The start of a line, where lines may end in a carriage return too. -/
  | anyLineStart
  /-- The end of a line, where lines may end in a carriage return too. -/
  | anyLineEnd
  | wordBoundary (unicode : Bool)
  | notWordBoundary (unicode : Bool)
  | wordStart (unicode : Bool)
  | wordEnd (unicode : Bool)
  | wordStartHalf (unicode : Bool)
  | wordEndHalf (unicode : Bool)
  deriving DecidableEq, Repr

/-- The characters of words below 128. -/
def asciiWord : CharSet := .ofText ["30-39 41-5A 5F 61-7A"]

/-- Whether a character belongs to words. -/
def isWordChar (unicode : Bool) (c : Option Char) : Bool :=
  match c with
  | some c => (if unicode then Unicode.word else asciiWord).contains c
  | none => false

/-- Whether a condition holds between two characters; nothing stands for an end of the text. -/
def Assertion.holds (a : Assertion) (before after : Option Char) : Bool :=
  match a with
  | textStart => before.isNone
  | textEnd => after.isNone
  | lineStart => before.isNone || before = some '\n'
  | lineEnd => after.isNone || after = some '\n'
  | anyLineStart =>
    before.isNone || before = some '\n' || (before = some '\r' && after ≠ some '\n')
  | anyLineEnd =>
    after.isNone || after = some '\r' || (after = some '\n' && before ≠ some '\r')
  | wordBoundary u => isWordChar u before != isWordChar u after
  | notWordBoundary u => isWordChar u before == isWordChar u after
  | wordStart u => !isWordChar u before && isWordChar u after
  | wordEnd u => isWordChar u before && !isWordChar u after
  | wordStartHalf u => !isWordChar u before
  | wordEndHalf u => !isWordChar u after

/-- A pattern. -/
inductive Node where
  | empty
  /-- These characters, one after the other. -/
  | literal (text : List Char)
  /-- One character of a set. -/
  | set (chars : CharSet)
  | assertion (a : Assertion)
  | concat (parts : List Node)
  /-- One of several patterns, the first preferred. -/
  | alternate (branches : List Node)
  /-- At least `least` and at most `most` times, as often as possible when `greedy`. -/
  | rep (least : Nat) (most : Option Nat) (greedy : Bool) (body : Node)
  /-- A group whose extent is remembered. -/
  | group (index : Nat) (body : Node)

namespace Node

/-! ## Building patterns

Patterns are kept simple as they are built: parts of parts are spliced in, characters next to each
other are joined, and alternatives of single characters become a set.
-/

/-- One character of a set; a set of one character is that character. -/
def ofSet (chars : CharSet) : Node :=
  match chars.single? with
  | some c => literal [c]
  | none => set chars

/-- Puts a part in front of a sequence. -/
def pushFront (part : Node) (rest : List Node) : List Node :=
  match part, rest with
  | empty, rest => rest
  | literal a, literal b :: rest => literal (a ++ b) :: rest
  | part, rest => part :: rest

/-- Puts a part, or the parts of a sequence, in front of a sequence. -/
def splice (part : Node) (rest : List Node) : List Node :=
  match part with
  | concat parts => parts.foldr pushFront rest
  | part => pushFront part rest

/-- One pattern after the other. -/
def sequence (parts : List Node) : Node :=
  match parts.foldr splice [] with
  | [] => empty
  | [part] => part
  | parts => concat parts

/-- The branches of an alternation, or the pattern itself. -/
def branches : Node → List Node
  | alternate bs => bs
  | n => [n]

/-- The single character of a pattern. -/
def single? : Node → Option CharSet
  | literal [c] => some (.one c)
  | _ => none

/-- The set of a pattern that takes one character. -/
def set? : Node → Option CharSet
  | set s => some s
  | _ => none

/-- One pattern or another, the first preferred. -/
def choice (patterns : List Node) : Node :=
  match patterns.flatMap branches with
  | [] => set .empty
  | [n] => n
  | bs =>
    match (bs.mapM single?).or (bs.mapM set?) with
    | some sets => ofSet (.unions sets)
    | none => alternate bs

mutual

/-- Whether a pattern matches nothing but the empty text. -/
def isNull : Node → Bool
  | empty | assertion _ => true
  | literal _ | set _ => false
  | concat parts | alternate parts => areNull parts
  | rep _ _ _ body | group _ body => body.isNull

/-- Whether all of several patterns match nothing but the empty text. -/
def areNull : List Node → Bool
  | [] => true
  | n :: rest => n.isNull && areNull rest

end

/-- A pattern repeated. What matches only the empty text is repeated at most once. -/
def repeated (least : Nat) (most : Option Nat) (greedy : Bool) (body : Node) : Node :=
  let (least, most) :=
    if body.isNull then (min least 1, some ((most.map (min 1)).getD 1)) else (least, most)
  if most = some 0 then empty
  else if least = 1 ∧ most = some 1 then body
  else rep least most greedy body

mutual

/-- The least number of characters a match has. -/
def minLength : Node → Nat
  | empty | assertion _ => 0
  | literal text => text.length
  | set _ => 1
  | concat parts => minLengthAll parts
  | alternate bs => minLengthAny bs
  | rep least _ _ body => least * body.minLength
  | group _ body => body.minLength

/-- The least number of characters that several patterns in a row match. -/
def minLengthAll : List Node → Nat
  | [] => 0
  | n :: rest => n.minLength + minLengthAll rest

/-- The least number of characters that one of several patterns matches. -/
def minLengthAny : List Node → Nat
  | [] => 0
  | [n] => n.minLength
  | n :: rest => min n.minLength (minLengthAny rest)

end

end Node
end TableScript.Pattern
