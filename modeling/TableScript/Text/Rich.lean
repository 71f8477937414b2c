import TableScript.Text.Style

/-!
# Rich text

A rich text is a sequence of segments, each with its own style, none of them empty. Questions
about content (equality, order, length, search) look at the plain text only; `chars` is the other
view, the sequence of styled characters, in which every operation is an operation on lists.
-/

namespace TableScript

/-- How the characters of a segment look and where they lead. -/
structure Look where
  style : Style := .plain
  rgb : Option Rgb := none
  link : Option String := none
  deriving DecidableEq, Repr, Inhabited

/-- Whether the look differs from that of bare text. -/
def Look.isStyled (l : Look) : Bool := !l.style.isPlain || l.rgb.isSome || l.link.isSome

/-- A run of text with one look. -/
structure Segment where
  text : String
  look : Look := {}
  deriving DecidableEq, Repr, Inhabited

/-- A text made of segments, none of them empty. -/
structure RichText where
  segments : List Segment
  nonempty : ∀ s ∈ segments, s.text ≠ ""

namespace RichText

/-- The text with these segments, empty ones dropped. -/
def ofSegments (segments : List Segment) : RichText where
  segments := segments.filter (·.text ≠ "")
  nonempty := by simp

/-- The empty text. -/
def empty : RichText := ⟨[], by simp⟩

instance : Inhabited RichText := ⟨empty⟩

/-- Bare text. -/
def ofString (s : String) : RichText := ofSegments [{ text := s }]

/-- The text without looks. -/
def plain (t : RichText) : String := String.join (t.segments.map (·.text))

/-- How many characters the text has. -/
def length (t : RichText) : Nat := t.plain.length

/-- Whether the text has no character. -/
def isEmpty (t : RichText) : Bool := t.segments.isEmpty

/-- One text after the other, segments kept apart. -/
def append (t u : RichText) : RichText where
  segments := t.segments ++ u.segments
  nonempty s h := (List.mem_append.1 h).elim (t.nonempty s) (u.nonempty s)

instance : Append RichText := ⟨append⟩

/-- Adds bare text at the end. -/
def push (t : RichText) (s : String) : RichText := t ++ ofString s

/-- The segments of the characters from `start` up to `stop`. -/
def sliceSegments (start stop : Nat) : List Segment → List Segment
  | [] => []
  | s :: rest =>
    let cs := s.text.toList
    let cut := String.ofList ((cs.take stop).drop start)
    { s with text := cut } :: sliceSegments (start - cs.length) (stop - cs.length) rest

/-- The characters from `start` up to `stop`, as far as there are any. -/
def slice (t : RichText) (start stop : Nat) : RichText :=
  ofSegments (sliceSegments start stop t.segments)

/-- The character at a position, with its look. -/
def charAt? (t : RichText) (i : Nat) : Option RichText :=
  let c := t.slice i (i + 1)
  if c.isEmpty then none else some c

/-- Changes every segment's look. -/
def mapLook (f : Look → Look) (t : RichText) : RichText where
  segments := t.segments.map fun s => { s with look := f s.look }
  nonempty := by
    intro s h
    obtain ⟨u, hu, rfl⟩ := List.mem_map.1 h
    exact t.nonempty u hu

/-- Puts a style on top of every segment's. -/
def withStyle (t : RichText) (style : Style) : RichText :=
  t.mapLook fun l => { l with style := l.style.apply style }

/-- Gives every segment this colour. -/
def withRgb (t : RichText) (rgb : Rgb) : RichText := t.mapLook fun l => { l with rgb := some rgb }

/-- Makes every segment lead to this address. -/
def withLink (t : RichText) (link : String) : RichText :=
  t.mapLook fun l => { l with link := some link }

/-- Changes every segment's text on its own; segments that become empty are dropped. -/
def mapText (f : String → String) (t : RichText) : RichText :=
  ofSegments (t.segments.map fun s => { s with text := f s.text })

/-- The text `n` times over; not once for a negative `n`. -/
def replicate (t : RichText) (n : Int) : RichText where
  segments := (List.replicate n.toNat t.segments).flatten
  nonempty := by
    intro s h
    obtain ⟨l, hl, hs⟩ := List.mem_flatten.1 h
    exact t.nonempty s ((List.mem_replicate.1 hl).2 ▸ hs)

/-- Order by the plain text, character by character. -/
def compare (t u : RichText) : Ordering := Ord.compare t.plain u.plain

/-- The characters with their looks: the view in which operations on texts are operations on
lists. -/
def chars (t : RichText) : List (Char × Look) :=
  t.segments.flatMap fun s => s.text.toList.map (·, s.look)

end RichText
end TableScript
