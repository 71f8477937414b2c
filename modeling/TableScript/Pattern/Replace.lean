import TableScript.Pattern.Search

/-!
# Replacing

A replacement text may refer to groups: `$1`, `$name`, `${1}` or `${name}`, and `$$` for a dollar
sign. A name without braces is as long as possible. A group that is unknown or did not take part in
the match is replaced by nothing; a dollar sign that refers to nothing stands for itself.
-/

namespace TableScript.Pattern

/-- A piece of a replacement. -/
inductive Piece where
  | char (c : Char)
  | number (n : Nat)
  | name (s : String)

/-- Whether a character can be part of a reference without braces. -/
def isReferenceChar (c : Char) : Bool := c.isAlphanum || c = '_'

/-- The number a reference is, if it is one. -/
def referenceNumber? (cs : List Char) : Option Nat :=
  let digits := match cs with
    | '+' :: rest => rest
    | cs => cs
  if digits.isEmpty || !digits.all Char.isDigit then none
  else
    let n := NumberText.digitsValue digits
    if n < Nat.pow 2 64 then some n else none

/-- The piece a reference stands for. -/
def reference (cs : List Char) : Piece :=
  match referenceNumber? cs with
  | some n => .number n
  | none => .name (String.ofList cs)

/-- Splits a replacement into pieces; the fuel is its length. -/
def pieces (cs : List Char) : (fuel : Nat) → List Piece
  | 0 => []
  | fuel + 1 =>
    match cs with
    | [] => []
    | '$' :: '$' :: rest => .char '$' :: pieces rest fuel
    | '$' :: '\x7b' :: rest =>
      let (name, after) := rest.span (· ≠ '\x7d')
      match after with
      | _ :: after => reference name :: pieces after fuel
      | [] => .char '$' :: pieces ('\x7b' :: rest) fuel
    | '$' :: rest =>
      let (name, after) := rest.span isReferenceChar
      if name.isEmpty then .char '$' :: pieces rest fuel
      else reference name :: pieces after fuel
    | c :: rest => .char c :: pieces rest fuel

/-- The characters between two positions. -/
def between (s : Array Char) (start stop : Nat) : List Char := (s.extract start stop).toList

/-- The text of a group of a match. -/
def groupText (s : Array Char) (m : Match) (i : Nat) : List Char :=
  match m.group? i with
  | some (start, stop) => between s start stop
  | none => []

/-- What a piece stands for in a match. -/
def Piece.expand (r : Regex) (s : Array Char) (m : Match) : Piece → List Char
  | .char c => [c]
  | .number n => groupText s m n
  | .name n =>
    match r.program.groupNames.lookup n with
    | some i => groupText s m i
    | none => []

/-- The text with matches replaced, from a position on. -/
def replaceFrom (r : Regex) (s : Array Char) (with' : List Piece) (position : Nat) :
    List Match → List Char
  | [] => between s position s.size
  | m :: rest =>
    between s position m.start ++ with'.flatMap (Piece.expand r s m) ++
      replaceFrom r s with' m.stop rest

/-- The text with every match replaced. -/
def Regex.replaceAll (r : Regex) (s replacement : String) : String :=
  let cs := s.toList
  let parts := pieces replacement.toList replacement.length
  String.ofList (replaceFrom r cs.toArray parts 0 (r.findAll cs))

end TableScript.Pattern
