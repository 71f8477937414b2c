import TableScript.Pattern.Basic

/-!
# Patterns as programs

A pattern is turned into instructions with addresses. A fork prefers its first branch. Repetition
of a pattern that can match nothing is entered through an optional first round, so that going round
without progress never takes precedence over leaving.

The instructions of a part are placed from an address on, and continue at the address they are
given; so every part is compiled knowing what follows it.
-/

namespace TableScript.Pattern

/-- One instruction. -/
inductive Instruction where
  /-- Takes one character of the set. -/
  | take (chars : CharSet) (next : Nat)
  /-- Goes on at either address, the first preferred. -/
  | fork (first second : Nat)
  /-- Remembers the position in a slot. -/
  | save (slot : Nat) (next : Nat)
  /-- Goes on if the condition holds. -/
  | assertion (a : Assertion) (next : Nat)
  /-- Goes on. -/
  | jump (next : Nat)
  /-- The whole pattern has matched. -/
  | accept

/-- Instructions placed so far. -/
abbrev Code := Array Instruction

namespace Code

/-- A fork whose preferred branch is `body` when greedy, and `exit` otherwise. -/
def branch (greedy : Bool) (body exit : Nat) : Instruction :=
  if greedy then .fork body exit else .fork exit body

/-- Places a part `n` times over, each time continuing at what was placed before. -/
def placeTimes (place : Nat → Code → Nat × Code) : (n : Nat) → Nat → Code → Nat × Code
  | 0, next, code => (next, code)
  | n + 1, next, code =>
    let (entry, code) := place next code
    placeTimes place n entry code

/-- Places a part `n` times, each optional and possible only after the one before. -/
def placeOptional (greedy : Bool) (place : Nat → Code → Nat × Code) (exit : Nat) :
    (n : Nat) → Nat → Code → Nat × Code
  | 0, next, code => (next, code)
  | n + 1, next, code =>
    let (entry, code) := place next code
    placeOptional greedy place exit n code.size (code.push (branch greedy entry exit))

/-- Places a part to be repeated from once upwards: its end forks back to its start. -/
def placeLoop (greedy : Bool) (place : Nat → Code → Nat × Code) (next : Nat) (code : Code) :
    Nat × Code :=
  let back := code.size
  let (entry, code) := place back (code.push (.jump next))
  (entry, code.setIfInBounds back (branch greedy entry next))

/-- Places an instruction that takes one character. -/
def placeChar (c : Char) (place : Nat × Code) : Nat × Code :=
  (place.2.size, place.2.push (.take (.one c) place.1))

mutual

/-- Places the instructions of a pattern; gives back where it starts. -/
def place : Node → Nat → Code → Nat × Code
  | .empty, next, code => (next, code)
  | .literal text, next, code => text.foldr placeChar (next, code)
  | .set s, next, code => (code.size, code.push (.take s next))
  | .assertion a, next, code => (code.size, code.push (.assertion a next))
  | .concat parts, next, code => placeAll parts next code
  | .alternate bs, next, code => placeAny bs next code
  | .group index body, next, code =>
    let close := code.size
    let (entry, code) := place body close (code.push (.save (2 * index + 1) next))
    (code.size, code.push (.save (2 * index) entry))
  | .rep least (some most) greedy body, next, code =>
    let (entry, code) := placeOptional greedy (place body) next (most - least) next code
    placeTimes (place body) least entry code
  | .rep 0 none greedy body, next, code =>
    if 0 < body.minLength then
      let back := code.size
      let (entry, code) := place body back (code.push (.jump next))
      (back, code.setIfInBounds back (branch greedy entry next))
    else
      let (entry, code) := placeLoop greedy (place body) next code
      (code.size, code.push (branch greedy entry next))
  | .rep (least + 1) none greedy body, next, code =>
    let (entry, code) := placeLoop greedy (place body) next code
    placeTimes (place body) least entry code

/-- Places patterns one after the other. -/
def placeAll : List Node → Nat → Code → Nat × Code
  | [], next, code => (next, code)
  | n :: rest, next, code =>
    let (entry, code) := placeAll rest next code
    place n entry code

/-- Places alternatives: a fork prefers the first to all others. -/
def placeAny : List Node → Nat → Code → Nat × Code
  | [], next, code => (next, code)
  | [n], next, code => place n next code
  | n :: rest, next, code =>
    let (first, code) := place n next code
    let (second, code) := placeAny rest next code
    (code.size, code.push (.fork first second))

end

end Code

/-- A pattern ready to be searched for. -/
structure Program where
  code : Code
  start : Nat
  groupCount : Nat
  groupNames : List (String × Nat)

/-- The program of a pattern with these groups: the whole match is group zero. -/
def Node.program (n : Node) (groupCount : Nat) (groupNames : List (String × Nat)) : Program :=
  let (start, code) := Code.place (.group 0 n) 0 #[.accept]
  { code, start, groupCount, groupNames }

end TableScript.Pattern
