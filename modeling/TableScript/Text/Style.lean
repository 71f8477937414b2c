/-!
# Styles

A style packs bold, italic, underline and a colour of the palette into one word:

1. bit 0 is underline, bit 2 bold, bit 3 italic;
2. bit 7 says that there is a colour, bits 8 to 11 say which;
3. the empty word is the plain style.

Setting a colour clears these five bits and writes the colour's index from bit 8 upwards.
-/

namespace TableScript

/-- How a run of text is shown, packed into a word. -/
structure Style where
  bits : UInt32
  deriving DecidableEq, Repr, Inhabited

namespace Style

/-- No style at all. -/
def plain : Style := ⟨0⟩

/-- Underlined. -/
def underline : Style := ⟨0x1⟩

/-- Bold. -/
def bold : Style := ⟨0x4⟩

/-- Italic. -/
def italic : Style := ⟨0x8⟩

/-- The bit that says there is a colour. -/
def colourFlag : UInt32 := 0x80

/-- The bits that say which colour. -/
def colourMask : UInt32 := 0xf00

/-- Where the colour's index starts. -/
def colourShift : UInt32 := 8

/-- Whether no bit is set. -/
def isPlain (s : Style) : Bool := s.bits == 0

/-- Whether all bits of `t` are set in `s`. -/
def contains (s t : Style) : Bool := s.bits &&& t.bits == t.bits

/-- All bits of either style. -/
def union (s t : Style) : Style := ⟨s.bits ||| t.bits⟩

/-- The bits common to both styles. -/
def inter (s t : Style) : Style := ⟨s.bits &&& t.bits⟩

/-- Every bit flipped. -/
def complement (s : Style) : Style := ⟨~~~s.bits⟩

/-- The colour's index in the palette, if there is a colour. -/
def colour? (s : Style) : Option UInt8 :=
  if s.bits &&& colourFlag != 0 then some ((s.bits &&& colourMask) >>> colourShift).toUInt8
  else none

/-- Without the colour. -/
def withoutColour (s : Style) : Style := ⟨s.bits &&& ~~~(colourFlag ||| colourMask)⟩

/-- With the colour of this index in place of any other. -/
def withColour (s : Style) (index : UInt8) : Style :=
  ⟨(s.bits &&& ~~~(colourFlag ||| colourMask)) ||| colourFlag ||| (index.toUInt32 <<< colourShift)⟩

/-- Puts `t` on top of `s`: a colour of `t` replaces the colour of `s`, and the plain style resets
everything. -/
def apply (s t : Style) : Style :=
  if t.isPlain then plain
  else if t.colour?.isSome then s.withoutColour.union t
  else s.union t

/-- The palette, in the order of its indices. -/
def palette : List String :=
  ["black", "red", "green", "yellow", "blue", "magenta", "cyan", "white", "orange", "pink"]

/-- The palette index of a colour's name. -/
def paletteIndex? (name : String) : Option UInt8 :=
  (palette.idxOf? name).map Nat.toUInt8

/-- The style with this name. -/
def ofName? (name : String) : Option Style :=
  if name = "plain" then some plain
  else if name = "bold" then some bold
  else if name = "italic" then some italic
  else if name = "underline" then some underline
  else (paletteIndex? name).map plain.withColour

/-- Every name of a style, sorted. -/
def names : List String :=
  ["black", "blue", "bold", "cyan", "green", "italic", "magenta", "orange", "pink", "plain", "red",
    "underline", "white", "yellow"]

end Style

/-- A colour given by its components. -/
structure Rgb where
  red : UInt8
  green : UInt8
  blue : UInt8
  deriving DecidableEq, Repr, Inhabited

end TableScript
