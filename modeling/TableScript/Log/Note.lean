import TableScript.Log.Filter
import TableScript.Log.Source
import TableScript.Text.EscapeSequence

/-!
# Notes

A note is written as one record: its level in brackets, then its text, with the later lines
indented. Where colours are not wanted nothing in a record may steer the terminal, so escape
sequences are taken out of the whole of it.
-/

namespace TableScript

/-- A note. -/
structure Note where
  source : LogSource
  level : LogLevel
  text : String
  deriving DecidableEq, Repr, Inhabited

/-- Whether a filter lets a note through. -/
def LogFilter.takes (f : LogFilter) (n : Note) : Bool :=
  n.level.isTaken (f.level n.source.name) && f.admits n.text

/-- The sequences that switch to the colour of a level. -/
def LogLevel.colour : LogLevel → String
  | error => "\x1b[1m\x1b[31m"
  | warn => "\x1b[33m"
  | info => "\x1b[32m"
  | debug => "\x1b[34m"
  | trace => "\x1b[36m"

namespace Note

/-- The name of a level, filled up with blanks to five characters. -/
def padded (level : LogLevel) : String :=
  level.name ++ String.ofList (List.replicate (5 - level.name.length) ' ')

/-- A text in a colour. -/
def painted (colour text : String) : String := colour ++ text ++ "\x1b[0m"

/-- The level in brackets, in colours or not. -/
def heading (coloured : Bool) (level : LogLevel) : String :=
  if coloured then
    painted "\x1b[90m" "[" ++ painted level.colour (padded level) ++ painted "\x1b[90m" "]"
  else "[" ++ padded level ++ "]"

/-- The record of a note. -/
def line (coloured : Bool) (n : Note) : String :=
  let record :=
    heading coloured n.level ++ " " ++ "\n    ".intercalate (n.text.splitOn "\n") ++ "\n"
  if coloured then record else withoutSequences record

end Note
end TableScript
