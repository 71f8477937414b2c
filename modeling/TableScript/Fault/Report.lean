import TableScript.Fault.Basic

/-!
# Diagnostics

A diagnostic is the code and wording of a failure. When the source is at hand and the failure has
a span, the line it starts on follows, with carets under the span.

1. `splitAtByte?` cuts a text at a byte offset, which fails inside a character;
2. `locate?` finds line, column and the line's text;
3. `Unwind.report?` writes the diagnostic, and has none when the span starts inside a character.
-/

namespace TableScript

/-- A position in a text: line and column count from one, the column in characters. -/
structure Location where
  line : Nat
  column : Nat
  /-- The text of the line. -/
  text : List Char
  deriving DecidableEq, Repr

/-- What stands before and after a byte offset; an offset past the end counts as the end, and one
inside a character cuts nothing. -/
def splitAtByte? : List Char → Nat → Option (List Char × List Char)
  | cs, 0 => some ([], cs)
  | [], _ + 1 => some ([], [])
  | c :: rest, n + 1 =>
    if c.utf8Size ≤ n + 1 then
      (splitAtByte? rest (n + 1 - c.utf8Size)).map fun (before, after) => (c :: before, after)
    else none

/-- The part of a text after its last line break. -/
def lastLine (cs : List Char) : List Char := (cs.reverse.takeWhile (· ≠ '\n')).reverse

/-- The part of a text before its first line break. -/
def firstLine (cs : List Char) : List Char := cs.takeWhile (· ≠ '\n')

/-- Where a byte offset lies in a text. -/
def locate? (source : List Char) (offset : Nat) : Option Location :=
  (splitAtByte? source offset).map fun (before, after) =>
    { line := before.count '\n' + 1
      column := (lastLine before).length + 1
      text := lastLine before ++ firstLine after }

/-- A number of blanks. -/
def blanks (n : Nat) : String := String.ofList (List.replicate n ' ')

/-- How many carets mark a span of this many bytes: at least one, at most to the end of the line. -/
def caretCount (bytes : Nat) (l : Location) : Nat :=
  min (max bytes 1) (max (l.text.length - (l.column - 1)) 1)

/-- The lines that quote the source at a location. -/
def excerpt (l : Location) (bytes : Nat) : String :=
  let gutter := blanks (toString l.line).length
  "\n" ++ gutter ++ "--> " ++ toString l.line ++ ":" ++ toString l.column ++
  "\n" ++ gutter ++ " |" ++
  "\n" ++ toString l.line ++ " | " ++ String.ofList l.text ++
  "\n" ++ gutter ++ " | " ++ blanks (l.column - 1) ++
    String.ofList (List.replicate (caretCount bytes l) '^')

/-- The first line of a diagnostic. -/
def Unwind.headline (u : Unwind) : String := "error[" ++ u.code.name ++ "]: " ++ u.message

/-- The diagnostic, if the span does not start inside a character of the source. The diagnostic of a
bug also has the backtrace of where it arose, between the headline and the quoted line; this text
depends on how the program was built and is left out, so a bug is reported like other failures. -/
def Unwind.report? (u : Unwind) (source : Option String) : Option String :=
  match u.span?, source with
  | some span, some text =>
    (locate? text.toList span.start).map fun l =>
      u.headline ++ excerpt l (span.stop - span.start)
  | _, _ => some u.headline

end TableScript
