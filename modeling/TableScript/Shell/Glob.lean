/-!
# Patterns of the shell

A pattern is made of characters, some of which were quoted and stand for themselves. Of the others
a star stands for any text, a question mark for any character, and brackets for one of a set of
characters. A bracket that is never closed stands for itself.
-/

namespace TableScript.Shell

/-- A character of a pattern, and whether it was quoted. -/
abbrev GlobChar := Char × Bool

/-- An item of a pattern. -/
inductive Glob where
  | anything
  | oneChar
  /-- One of the characters that satisfy a condition. -/
  | oneOf (accepts : Char → Bool)
  | literal (c : Char)

namespace Glob

/-- The classes of characters that can stand in brackets, by name. -/
def charClass? (name : String) : Option (Char → Bool) :=
  match name with
  | "alpha" => some Char.isAlpha
  | "digit" => some Char.isDigit
  | "alnum" => some Char.isAlphanum
  | "upper" => some Char.isUpper
  | "lower" => some Char.isLower
  | "space" => some fun c => c = ' ' || ('\t' ≤ c && c ≤ '\r')
  | "blank" => some fun c => c = ' ' || c = '\t'
  | "punct" => some fun c => '!' ≤ c && c ≤ '~' && !c.isAlphanum
  | "cntrl" => some fun c => c < ' ' || c = '\x7f'
  | "graph" => some fun c => '!' ≤ c && c ≤ '~'
  | "print" => some fun c => ' ' ≤ c && c ≤ '~'
  | "xdigit" => some fun c => c.isDigit || ('a' ≤ c && c ≤ 'f') || ('A' ≤ c && c ≤ 'F')
  | _ => none

/-- Reads a named class after its opening, up to the closing bracket after the colon. -/
def takeClass? (cs : List GlobChar) : Option ((Char → Bool) × List GlobChar) :=
  let (name, rest) := cs.span fun c => c.1.isAlpha
  match rest with
  | (':', _) :: (']', _) :: after =>
    (charClass? (String.ofList (name.map (·.1)))).map (·, after)
  | _ => none

/-- Reads the members of a set up to its closing bracket, which cannot come `first`. The fuel is the
number of characters. -/
def takeMembers? (first : Bool) (accepts : Char → Bool) :
    (fuel : Nat) → List GlobChar → Option ((Char → Bool) × List GlobChar)
  | 0, _ | _, [] => none
  | fuel + 1, (c, isQuoted) :: rest =>
    if c = ']' && !isQuoted && !first then some (accepts, rest)
    else
      let named := match c, rest with
        | '[', (':', _) :: inner => takeClass? inner
        | _, _ => none
      match named with
      | some (member, after) => takeMembers? false (fun x => accepts x || member x) fuel after
      | none =>
        match rest with
        | ('-', false) :: (high, highQuoted) :: after =>
          if high = ']' && !highQuoted then
            takeMembers? false (fun x => accepts x || x = c) fuel rest
          else takeMembers? false (fun x => accepts x || (c ≤ x && x ≤ high)) fuel after
        | _ => takeMembers? false (fun x => accepts x || x = c) fuel rest

/-- Reads a set after its opening bracket. -/
def takeSet? (cs : List GlobChar) : Option (Glob × List GlobChar) :=
  match cs with
  | ('!', false) :: rest =>
    (takeMembers? true (fun _ => false) (rest.length + 1) rest).map fun (accepts, after) =>
      (.oneOf fun c => !accepts c, after)
  | _ =>
    (takeMembers? true (fun _ => false) (cs.length + 1) cs).map fun (accepts, after) =>
      (.oneOf accepts, after)

/-- The items of a pattern. The fuel is the number of characters. -/
def items : (fuel : Nat) → List GlobChar → List Glob
  | 0, _ | _, [] => []
  | fuel + 1, (c, isQuoted) :: rest =>
    if isQuoted then .literal c :: items fuel rest
    else match c with
      | '*' => .anything :: items fuel rest
      | '?' => .oneChar :: items fuel rest
      | '[' =>
        match takeSet? rest with
        | some (set, after) => set :: items fuel after
        | none => .literal '[' :: items fuel rest
      | c => .literal c :: items fuel rest

/-- Reads a pattern. -/
def parse (cs : List GlobChar) : List Glob := items cs.length cs

/-- Whether a pattern matches the whole of a text. -/
def isMatch : List Glob → List Char → Bool
  | [], cs => cs.isEmpty
  | .anything :: p, [] => isMatch p []
  | .anything :: p, c :: cs => isMatch p (c :: cs) || isMatch (.anything :: p) cs
  | .oneChar :: p, _ :: cs => isMatch p cs
  | .oneOf accepts :: p, c :: cs => accepts c && isMatch p cs
  | .literal x :: p, c :: cs => x = c && isMatch p cs
  | _ :: _, [] => false
termination_by p cs => (p.length, cs.length)

/-- Whether a pattern is more than a text. -/
def isPattern (cs : List GlobChar) : Bool :=
  cs.any fun (c, isQuoted) => !isQuoted && (c = '*' || c = '?' || c = '[')

/-- The text without the shortest or longest start that a pattern matches. -/
def cutStart (p : List Glob) (longest : Bool) (cs : List Char) : List Char :=
  let sizes := List.range (cs.length + 1)
  match (if longest then sizes.reverse else sizes).find? fun n => isMatch p (cs.take n) with
  | some n => cs.drop n
  | none => cs

/-- The text without the shortest or longest end that a pattern matches. -/
def cutEnd (p : List Glob) (longest : Bool) (cs : List Char) : List Char :=
  let sizes := List.range (cs.length + 1)
  match (if longest then sizes else sizes.reverse).find? fun n => isMatch p (cs.drop n) with
  | some n => cs.take n
  | none => cs

end Glob
end TableScript.Shell
