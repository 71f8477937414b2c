import TableScript.Pattern.Meaning
import TableScript.Pattern.Parser
import TableScript.Pattern.Program
import TableScript.Pattern.Weight

/-!
# Searching

A search follows all ways through a program at once, character by character, in order of
preference. A way that reaches an address another way has reached at the same position is dropped,
so the work is bounded by the size of the program times the length of the text. The first match
found keeps all less preferred ways from going on.

Positions count characters.
-/

namespace TableScript.Pattern

/-- Where groups started and stopped: slots `2 i` and `2 i + 1` belong to group `i`. -/
abbrev Slots := Array (Option Nat)

/-- A way through the program: the address it waits at and its slots. -/
structure Thread where
  address : Nat
  slots : Slots

/-- The position of a search. -/
structure Place where
  /-- Number of characters before. -/
  index : Nat
  before : Option Char
  after : Option Char

/-- Ways gathered at a position, last first, and the addresses already visited. -/
structure Frontier where
  visited : Array Bool
  threads : List Thread := []

/-- Follows a way to every address where it has to wait for a character or ends. -/
def follow (code : Code) (place : Place) (address : Nat) (slots : Slots) :
    (fuel : Nat) → Frontier → Frontier
  | 0, f => f
  | fuel + 1, f =>
    if f.visited.getD address true then f
    else
      let f := { f with visited := f.visited.setIfInBounds address true }
      match code[address]? with
      | none => f
      | some (.jump next) => follow code place next slots fuel f
      | some (.fork first second) =>
        follow code place second slots fuel (follow code place first slots fuel f)
      | some (.save slot next) =>
        follow code place next (slots.setIfInBounds slot (some place.index)) fuel f
      | some (.assertion a next) =>
        if a.holds place.before place.after then follow code place next slots fuel f else f
      | some (.take _ _) | some .accept => { f with threads := ⟨address, slots⟩ :: f.threads }

/-- No address visited. -/
def Frontier.empty (code : Code) : Frontier := { visited := Array.replicate code.size false }

/-- Takes one character along every way, most preferred first; the ways after a match are dropped,
and the match is reported. -/
def advance (code : Code) (c : Option Char) (place : Place) :
    List Thread → Frontier → Option Slots → Frontier × Option Slots
  | [], f, found => (f, found)
  | t :: rest, f, found =>
    match code[t.address]? with
    | some .accept => (f, some t.slots)
    | some (.take chars next) =>
      match c with
      | some c =>
        let f := if chars.contains c then follow code place next t.slots (code.size + 1) f else f
        advance code (some c) place rest f found
      | none => advance code none place rest f found
    | _ => advance code c place rest f found

/-- Searches the rest of a text. `threads` are the ways waiting here, most preferred first; a new
way starts at each position until something has matched. -/
def searchFrom (p : Program) (index : Nat) (before : Option Char) (threads : List Thread)
    (found : Option Slots) (cs : List Char) : Option Slots :=
  let place : Place := { index, before, after := cs.head? }
  -- a new way is less preferred than those already under way
  let threads :=
    if found.isSome then threads
    else
      let seen := threads.foldl (fun v t => v.setIfInBounds t.address true)
        (Array.replicate p.code.size false)
      let started := follow p.code place p.start (Array.replicate (2 * p.groupCount + 2) none)
        (p.code.size + 1) { visited := seen }
      threads ++ started.threads.reverse
  match cs with
  | [] => (advance p.code none place threads (.empty p.code) found).2
  | c :: rest =>
    if threads.isEmpty && found.isSome then found
    else
      let following : Place := { index := index + 1, before := some c, after := rest.head? }
      let (f, found) := advance p.code (some c) following threads (.empty p.code) found
      searchFrom p (index + 1) (some c) f.threads.reverse found rest

/-- A match: where the whole and its groups start and stop. -/
structure Match where
  slots : Slots

/-- The extent of a group. -/
def Match.group? (m : Match) (i : Nat) : Option (Nat × Nat) :=
  match m.slots.getD (2 * i) none, m.slots.getD (2 * i + 1) none with
  | some start, some stop => some (start, stop)
  | _, _ => none

/-- Where the match starts. -/
def Match.start (m : Match) : Nat := (m.slots.getD 0 none).getD 0

/-- Where the match stops. -/
def Match.stop (m : Match) : Nat := (m.slots.getD 1 none).getD 0

/-- Whether nothing was matched. -/
def Match.isEmpty (m : Match) : Bool := m.start = m.stop

/-- A text split at the position a search starts from. -/
structure Cursor where
  index : Nat
  before : Option Char
  rest : List Char

/-- The cursor this many characters further on. -/
def Cursor.move (c : Cursor) : (n : Nat) → Cursor
  | 0 => c
  | n + 1 =>
    match c.rest with
    | [] => c
    | d :: rest => Cursor.move { index := c.index + 1, before := some d, rest } n

/-- The first match at or after a cursor. -/
def findFrom? (p : Program) (c : Cursor) : Option Match :=
  (searchFrom p c.index c.before [] none c.rest).map Match.mk

/-- All matches from a cursor on, none overlapping. A match of nothing right behind the match
before does not count. -/
def findAllFrom (p : Program) (c : Cursor) (lastStop : Option Nat) : (fuel : Nat) → List Match
  | 0 => []
  | fuel + 1 =>
    match findFrom? p c with
    | none => []
    | some m =>
      if m.isEmpty && lastStop = some m.stop then
        match c.rest with
        | [] => []
        | _ => findAllFrom p (c.move 1) lastStop fuel
      else m :: findAllFrom p (c.move (m.stop - c.index)) (some m.stop) fuel

/-- Why a text cannot be used as a pattern. -/
inductive CompileError where
  | malformed
  /-- The pattern is too large when it is spelled out. -/
  | tooLarge
  deriving DecidableEq, Repr

/-- The wording of a refusal. -/
def CompileError.message : CompileError → String
  | malformed => "regex parse error: malformed pattern"
  | tooLarge => "Compiled regex exceeds size limit of " ++ toString weightLimit ++ " bytes."

/-- A compiled pattern, with the text it was written as. -/
structure Regex where
  text : String
  program : Program

namespace Regex

/-- The compiled form of a pattern. -/
def compile (text : String) : Except CompileError Regex :=
  match parse? text with
  | none => .error .malformed
  | some p =>
    match p.root.meaning? with
    | none => .error .malformed
    | some n =>
      if n.isLight then .ok { text, program := n.program p.groupCount p.groupNames }
      else .error .tooLarge

/-- All matches in a text, from left to right. -/
def findAll (r : Regex) (s : List Char) : List Match :=
  findAllFrom r.program { index := 0, before := none, rest := s } none (2 * s.length + 2)

/-- Whether a text has a match. -/
def isMatch (r : Regex) (s : String) : Bool :=
  (findFrom? r.program { index := 0, before := none, rest := s.toList }).isSome

/-- The extents of the matches that are not empty. -/
def extents (r : Regex) (s : String) : List (Nat × Nat) :=
  ((r.findAll s.toList).filter (!·.isEmpty)).map fun m => (m.start, m.stop)

end Regex
end TableScript.Pattern
