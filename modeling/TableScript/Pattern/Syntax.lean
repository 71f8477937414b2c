import TableScript.Text.CharSet

/-!
# The syntax of patterns

A pattern as it is written, before its flags have been worked into its parts. How deeply the parts
may be nested is limited.
-/

namespace TableScript.Pattern

/-- A character of a pattern. One written as `\x` with two digits stands for a byte when the pattern
is not about Unicode. -/
structure Literal where
  char : Char
  isByte : Bool := false

/-- The classes behind a backslash. -/
inductive Shorthand where
  | digit
  | space
  | word

/-- A property of characters, as it is named between braces. -/
inductive Property where
  | named (name : List Char)
  /-- A property with a value; `differs` when it is to have any other value. -/
  | valued (name value : List Char) (differs : Bool)

/-- A set operation between two parts of a class. -/
inductive SetOp where
  | inter
  | diff
  | symmDiff

/-- What stands between brackets. -/
inductive ClassItem where
  | literal (l : Literal)
  | range (lo hi : Literal)
  /-- A class between `[:` and `:]`. -/
  | posix (chars : CharSet) (negated : Bool)
  | shorthand (kind : Shorthand) (negated : Bool)
  | property (p : Property) (negated : Bool)
  | bracketed (negated : Bool) (body : ClassItem)
  | union (items : List ClassItem)
  | combine (op : SetOp) (left right : ClassItem)

/-- A condition on a position, as it is written. -/
inductive Anchor where
  | caret
  | dollar
  | textStart
  | textEnd
  | wordBoundary
  | notWordBoundary
  | wordStart
  | wordEnd
  | wordStartHalf
  | wordEndHalf

/-- What changes how the characters of a pattern are understood. -/
inductive Flag where
  | ignoreCase
  | multiLine
  | dotMatchesNewline
  | swapGreed
  | unicode
  | crlf
  | verbose
  deriving DecidableEq

/-- A flag that is set or cleared. -/
structure FlagChange where
  flag : Flag
  on : Bool

/-- How a group opens. -/
inductive Opening where
  /-- A group whose extent is remembered. -/
  | capture (index : Nat)
  /-- A group with flags of its own. -/
  | plain (changes : List FlagChange)

/-- A pattern as it is written. -/
inductive Syntax where
  | empty
  /-- A change of flags up to the end of the group. -/
  | flags (changes : List FlagChange)
  | literal (l : Literal)
  | dot
  | anchor (a : Anchor)
  | shorthand (kind : Shorthand) (negated : Bool)
  | property (p : Property) (negated : Bool)
  | bracketed (negated : Bool) (body : ClassItem)
  | rep (least : Nat) (most : Option Nat) (greedy : Bool) (body : Syntax)
  | group (opening : Opening) (body : Syntax)
  | concat (parts : List Syntax)
  | alternate (branches : List Syntax)

/-! ## Depth -/

mutual

/-- How deeply the parts of a class are nested. -/
def ClassItem.depth : ClassItem → Nat
  | .bracketed _ body => body.depth + 1
  | .union items => if items.isEmpty then 0 else itemsDepth items 0 + 1
  | .combine _ left right => max left.depth right.depth + 1
  | _ => 0

/-- The greatest depth of several parts of a class, or the one given. -/
def itemsDepth : List ClassItem → Nat → Nat
  | [], found => found
  | i :: rest, found => itemsDepth rest (max found i.depth)

end

mutual

/-- How deeply the parts of a pattern are nested. -/
def Syntax.depth : Syntax → Nat
  | .bracketed _ body => body.depth + 1
  | .rep _ _ _ body | .group _ body => body.depth + 1
  | .concat parts | .alternate parts => partsDepth parts 0 + 1
  | _ => 0

/-- The greatest depth of several parts of a pattern, or the one given. -/
def partsDepth : List Syntax → Nat → Nat
  | [], found => found
  | p :: rest, found => partsDepth rest (max found p.depth)

end

/-- How deeply the parts of a pattern may be nested. -/
def depthLimit : Nat := 250

/-! ## Sequences -/

/-- The items of a class as one. -/
def ClassItem.ofList (items : List ClassItem) : ClassItem :=
  match items with
  | [item] => item
  | items => .union items

/-- One part after the other. -/
def Syntax.sequence (parts : List Syntax) : Syntax :=
  match parts with
  | [] => .empty
  | [p] => p
  | parts => .concat parts

/-- One part or another. -/
def Syntax.choice (branches : List Syntax) : Syntax :=
  match branches with
  | [b] => b
  | branches => .alternate branches

end TableScript.Pattern
