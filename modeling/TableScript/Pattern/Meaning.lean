import TableScript.Pattern.Basic
import TableScript.Pattern.Syntax
import TableScript.Unicode.Fold
import TableScript.Unicode.Name

/-!
# The meaning of patterns

Works the flags of a pattern into its parts. A pattern that is not about Unicode is about bytes;
what could match a part of a character is refused then, so every set it names lies below 128 and
none can be negated. When case is ignored a set is widened before it is negated.
-/

namespace TableScript.Pattern

/-- How the characters of a pattern are understood. -/
structure Flags where
  ignoreCase : Bool := false
  multiLine : Bool := false
  dotMatchesNewline : Bool := false
  swapGreed : Bool := false
  unicode : Bool := true
  crlf : Bool := false

namespace Flags

/-- Sets or clears one flag. Blanks have been dealt with when the pattern was read. -/
def change (flags : Flags) (c : FlagChange) : Flags :=
  match c.flag with
  | .ignoreCase => { flags with ignoreCase := c.on }
  | .multiLine => { flags with multiLine := c.on }
  | .dotMatchesNewline => { flags with dotMatchesNewline := c.on }
  | .swapGreed => { flags with swapGreed := c.on }
  | .unicode => { flags with unicode := c.on }
  | .crlf => { flags with crlf := c.on }
  | .verbose => flags

/-- Letters below 128 in lower case. -/
def asciiLower : CharSet := .ofText ["61-7A"]

/-- Letters below 128 in upper case. -/
def asciiUpper : CharSet := .ofText ["41-5A"]

/-- A set with the other case of its letters below 128. -/
def foldAscii (s : CharSet) : CharSet :=
  let shift (d : Int) (part : CharSet) : CharSet :=
    .ofToggles (part.toggles.map fun (n : Nat) => ((n : Int) + d).toNat)
  .unions [s, shift 32 (s.inter asciiUpper), shift (-32) (s.inter asciiLower)]

/-- A set, widened when case is ignored. -/
def widen (flags : Flags) (s : CharSet) : CharSet :=
  if !flags.ignoreCase then s else if flags.unicode then Unicode.foldCase s else foldAscii s

/-- A set, widened when case is ignored and then negated if asked for. -/
def adapt? (flags : Flags) (negated : Bool) (s : CharSet) : Option CharSet :=
  let s := flags.widen s
  if negated then if flags.unicode then some s.complement else none else some s

/-- The set of a character in a class. -/
def memberPoint? (flags : Flags) (l : Literal) : Option Nat :=
  if flags.unicode || l.char.toNat < 0x80 then some l.char.toNat else none

/-- The set of a class behind a backslash. -/
def shorthand? (flags : Flags) (kind : Shorthand) (negated : Bool) : Option CharSet :=
  let s := match kind, flags.unicode with
    | .digit, true => Unicode.decimalNumber
    | .digit, false => .ofText ["30-39"]
    | .space, true => CharSet.blank
    | .space, false => .ofText ["9-D 20"]
    | .word, true => Unicode.word
    | .word, false => asciiWord
  if negated then if flags.unicode then some s.complement else none else some s

/-- The set of a property. -/
def property? (flags : Flags) (p : Property) (negated : Bool) : Option CharSet :=
  if !flags.unicode then none
  else
    match p with
    | .named name => (Unicode.named? name).bind (flags.adapt? negated)
    | .valued name value differs =>
      (Unicode.valued? name value).bind (flags.adapt? (negated != differs))

end Flags

/-- The effect of a set operation. -/
def SetOp.apply : SetOp → CharSet → CharSet → CharSet
  | inter, a, b => a.inter b
  | diff, a, b => a.diff b
  | symmDiff, a, b => a.symmDiff b

mutual

/-- The set of a part of a class. -/
def ClassItem.chars? (flags : Flags) : ClassItem → Option CharSet
  | .literal l => (flags.memberPoint? l).map fun n => .range n n
  | .range lo hi => do return .range (← flags.memberPoint? lo) (← flags.memberPoint? hi)
  | .posix chars negated => flags.adapt? negated chars
  | .shorthand kind negated => flags.shorthand? kind negated
  | .property p negated => flags.property? p negated
  | .bracketed negated body => do flags.adapt? negated (← body.chars? flags)
  | .union items => itemsChars? flags items .empty
  | .combine op left right => do
    return op.apply (flags.widen (← left.chars? flags)) (flags.widen (← right.chars? flags))

/-- The set of several parts of a class, added to another. -/
def itemsChars? (flags : Flags) : List ClassItem → CharSet → Option CharSet
  | [], found => some found
  | item :: rest, found => do itemsChars? flags rest (found.union (← item.chars? flags))

end

/-- The pattern of a character. -/
def Literal.node? (flags : Flags) (l : Literal) : Option Node :=
  if !flags.unicode && l.isByte && 0x80 ≤ l.char.toNat then none
  else if !flags.ignoreCase then some (.literal [l.char])
  else if flags.unicode then
    match Unicode.foldPartners l.char.toNat with
    | [] => some (.literal [l.char])
    | partners => some (.ofSet (.ofPoints (l.char.toNat :: partners)))
  else some (.ofSet (Flags.foldAscii (.one l.char)))

/-- The pattern of a dot. -/
def dot? (flags : Flags) : Option Node :=
  if !flags.unicode then none
  else if flags.dotMatchesNewline then some (.set .all)
  else if flags.crlf then some (.set (CharSet.complement (.ofChars ['\n', '\r'])))
  else some (.set (CharSet.complement (.one '\n')))

/-- The condition an anchor stands for. -/
def Anchor.assertion (flags : Flags) : Anchor → Assertion
  | .caret =>
    if !flags.multiLine then .textStart else if flags.crlf then .anyLineStart else .lineStart
  | .dollar => if !flags.multiLine then .textEnd else if flags.crlf then .anyLineEnd else .lineEnd
  | .textStart => .textStart
  | .textEnd => .textEnd
  | .wordBoundary => .wordBoundary flags.unicode
  | .notWordBoundary => .notWordBoundary flags.unicode
  | .wordStart => .wordStart flags.unicode
  | .wordEnd => .wordEnd flags.unicode
  | .wordStartHalf => .wordStartHalf flags.unicode
  | .wordEndHalf => .wordEndHalf flags.unicode

mutual

/-- The pattern that a part of a text means, and the flags that hold after it. A change of flags
lasts up to the end of its group, across alternatives. -/
def Syntax.node? (flags : Flags) : Syntax → Option (Node × Flags)
  | .empty => some (.empty, flags)
  | .flags changes => some (.empty, changes.foldl Flags.change flags)
  | .literal l => (l.node? flags).map (·, flags)
  | .dot => (dot? flags).map (·, flags)
  | .anchor a => some (.assertion (a.assertion flags), flags)
  | .shorthand kind negated => (flags.shorthand? kind negated).map fun s => (.ofSet s, flags)
  | .property p negated => (flags.property? p negated).map fun s => (.ofSet s, flags)
  | .bracketed negated body => do
    return (.ofSet (← flags.adapt? negated (← body.chars? flags)), flags)
  | .rep least most greedy body => do
    let (n, after) ← body.node? flags
    return (n.repeated least most (greedy != after.swapGreed), after)
  | .group (.capture index) body => do
    let (n, _) ← body.node? flags
    return (.group index n, flags)
  | .group (.plain changes) body => do
    let (n, _) ← body.node? (changes.foldl Flags.change flags)
    return (n, flags)
  | .concat parts => do
    let (ns, flags) ← partsNodes? flags parts []
    return (.sequence ns, flags)
  | .alternate parts => do
    let (ns, flags) ← partsNodes? flags parts []
    return (.choice ns, flags)

/-- The patterns of several parts, with the flags passed on from each to the next; `found` are those
of the parts before, last first. -/
def partsNodes? (flags : Flags) : List Syntax → List Node → Option (List Node × Flags)
  | [], found => some (found.reverse, flags)
  | p :: rest, found => do
    let (n, flags) ← p.node? flags
    partsNodes? flags rest (n :: found)

end

/-- The pattern that a text means. -/
def Syntax.meaning? (s : Syntax) : Option Node := (s.node? {}).map (·.1)

end TableScript.Pattern
