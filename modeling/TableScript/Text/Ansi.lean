import TableScript.Text.Rich

/-!
# Rich text on a terminal

A styled segment is wrapped in escape sequences: the colour first, then bold, italic and underline,
then the text, then a reset. A link wraps the whole. Without colour the text is shown plain.
-/

namespace TableScript

/-- A terminal colour. -/
inductive TerminalColour where
  | indexed (n : UInt8)
  | rgb (c : Rgb)
  | default

namespace TerminalColour

/-- The colour of a palette index; orange and pink have no index on a terminal. -/
def ofPalette (index : UInt8) : TerminalColour :=
  if index < 8 then indexed index
  else if index = 8 then rgb ⟨255, 128, 0⟩
  else if index = 9 then rgb ⟨255, 172, 187⟩
  else default

/-- The sequence that switches to the colour. -/
def sequence : TerminalColour → String
  | indexed n => "\x1b[38;5;" ++ toString n ++ "m"
  | rgb c =>
    "\x1b[38;2;" ++ toString c.red ++ ";" ++ toString c.green ++ ";" ++ toString c.blue ++ "m"
  | default => "\x1b[39m"

end TerminalColour

namespace Look

/-- The terminal colour of a look: its own components before its palette colour. -/
def colour? (l : Look) : Option TerminalColour :=
  match l.rgb with
  | some c => some (.rgb c)
  | none => l.style.colour?.map .ofPalette

/-- The sequences that switch bold, italic and underline on. -/
def weights (l : Look) : String :=
  (if l.style.contains .bold then "\x1b[1m" else "") ++
  (if l.style.contains .italic then "\x1b[3m" else "") ++
  (if l.style.contains .underline then "\x1b[4m" else "")

/-- The sequence that ends the look. -/
def reset (l : Look) : String :=
  if l.weights ≠ "" then "\x1b[0m" else if l.colour?.isSome then "\x1b[39m" else ""

/-- A text wrapped in the sequences of its look. -/
def wrap (l : Look) (text : String) : String :=
  let styled := (l.colour?.map TerminalColour.sequence).getD "" ++ l.weights ++ text ++ l.reset
  match l.link with
  | some link => "\x1b]8;;" ++ link ++ "\x1b\\" ++ styled ++ "\x1b]8;;\x1b\\"
  | none => styled

end Look

/-- The text as written to a terminal. -/
def RichText.render (t : RichText) (colour : Bool) : String :=
  if colour then
    String.join (t.segments.map fun s => if s.look.isStyled then s.look.wrap s.text else s.text)
  else t.plain

end TableScript
