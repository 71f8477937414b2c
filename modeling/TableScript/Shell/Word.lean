import TableScript.Shell.Basic

/-!
# Words and commands

A word is a list of parts. Quotes are gone from it, but each part knows whether it stood in quotes:
what a quoted part expands to is never split, and quotes around nothing still make a word. A part
may hold a command, and a command is made of words.
-/

namespace TableScript.Shell

/-- What is done with the value of a parameter. -/
inductive ParamOp where
  | value
  | length
  /-- Another text if the parameter is unset, or with `orEmpty` also if it is empty. -/
  | otherwise (orEmpty : Bool)
  /-- Another text if the parameter is set, or with `orEmpty` only if it is not empty. -/
  | instead (orEmpty : Bool)
  /-- Sets the parameter where `otherwise` would give another text. -/
  | assign (orEmpty : Bool)
  /-- Fails where `otherwise` would give another text. -/
  | demand (orEmpty : Bool)
  /-- The value without what a pattern matches at its start. -/
  | cutStart (longest : Bool)
  /-- The value without what a pattern matches at its end. -/
  | cutEnd (longest : Bool)
  /-- No operation there is. -/
  | bad
  deriving DecidableEq, Repr, Inhabited

/-- How a file is opened. -/
inductive OpenMode where
  | read
  /-- For writing from the start. A file that is there may be kept from it. -/
  | write
  /-- For writing from the start in any case. -/
  | replace
  | append
  | both
  deriving DecidableEq, Repr, Inhabited

mutual

/-- A part of a word. -/
inductive Part where
  /-- A character that stands for itself. -/
  | char (c : Char) (isQuoted : Bool)
  /-- The place of a pair of quotes. -/
  | quotes
  | parameter (name : String) (op : ParamOp) (argument : List Part) (isQuoted : Bool)
  | arithmetic (text : List Part) (isQuoted : Bool)
  /-- The output of a command. -/
  | command (body : Command) (isQuoted : Bool)

/-- Where a descriptor is made to lead. -/
inductive Redirect where
  | file (descriptor : Nat) (mode : OpenMode) (target : List Part)
  /-- Where another descriptor leads. -/
  | duplicate (descriptor : Nat) (target : List Part)
  /-- From a text that stands among the commands, by its number. -/
  | document (descriptor : Nat) (number : Nat)

/-- A command. -/
inductive Command where
  | nothing
  | simple (line : Nat) (assignments : List (String × List Part)) (words : List (List Part))
      (redirects : List Redirect)
  | redirected (line : Nat) (body : Command) (redirects : List Redirect)
  | pipe (left right : Command)
  | negated (body : Command)
  | both (left right : Command)
  | either (left right : Command)
  | sequence (left right : Command)
  | background (body : Command)
  | subshell (body : Command)
  | branch (condition yes no : Command)
  /-- Repeats as long as the condition succeeds, or with `untilTrue` as long as it fails. -/
  | loop (untilTrue : Bool) (condition body : Command)
  /-- Once for each word; without words, once for each argument of the shell. -/
  | each (line : Nat) (name : String) (words : Option (List (List Part))) (body : Command)
  /-- The first list of commands one of whose patterns matches. -/
  | choose (line : Nat) (word : List Part) (items : List (List (List Part) × Command))
  | define (line : Nat) (name : String) (body : Command)

end

instance : Inhabited Command := ⟨.nothing⟩
instance : Inhabited Part := ⟨.quotes⟩

/-- A word. -/
abbrev Word := List Part

namespace Word

/-- The text of a word without quotes and expansions. -/
def bare? : Word → Option String
  | [] => some ""
  | .char c false :: rest => (bare? rest).map fun s => c.toString ++ s
  | _ => none

/-- The text of a word with its quotes taken off, and whether there were any. Expansions are left
out. -/
def unquoted : Word → String × Bool
  | [] => ("", false)
  | .char c isQuoted :: rest =>
    let (s, q) := unquoted rest
    (c.toString ++ s, isQuoted || q)
  | .quotes :: rest => ((unquoted rest).1, true)
  | _ :: rest => unquoted rest

/-- Whether a character can start a name. -/
def isNameStart (c : Char) : Bool := c.isAlpha || c = '_'

/-- Whether a character can stand in a name. -/
def isNameChar (c : Char) : Bool := c.isAlphanum || c = '_'

/-- Whether a text is a name. -/
def isName (s : String) : Bool :=
  match s.toList with
  | c :: rest => isNameStart c && rest.all isNameChar
  | [] => false

/-- Splits a word at its first bare equals sign. -/
def splitEquals : Word → Option (Word × Word)
  | [] => none
  | .char '=' false :: rest => some ([], rest)
  | p :: rest => (splitEquals rest).map fun (before, after) => (p :: before, after)

/-- The name and value of a word that is an assignment. -/
def assignment? (w : Word) : Option (String × Word) := do
  let (before, value) ← splitEquals w
  let name ← bare? before
  if isName name then some (name, value) else none

end Word
end TableScript.Shell
