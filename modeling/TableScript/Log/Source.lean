/-!
# Sources of notes

Every note comes from a part of the program. A filter picks notes by the beginning of the name of
the part they come from.
-/

namespace TableScript

/-- A part of the program that takes notes. -/
inductive LogSource where
  /-- Start-up and settings. -/
  | program
  /-- A script's own notes. -/
  | script
  | evaluation
  | exit
  | block
  | capture
  | shell
  | transport
  deriving DecidableEq, Repr, Inhabited

/-- The name of a source, from the whole to the part. -/
def LogSource.name : LogSource → String
  | program => "rad"
  | script => "rad::script"
  | evaluation => "rad::script::interp"
  | exit => "rad::script::exit"
  | block => "rad::script::rad"
  | capture => "rad::script::trie"
  | shell => "rad::shell"
  | transport => "rad::fetch"

end TableScript
