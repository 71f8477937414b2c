import TableScript.Pattern.Search
import TableScript.Text.Rich

/-!
# Highlighting

Puts a style on parts of a text given by their extents, in order and without overlap. Everything
else stays as it is.
-/

namespace TableScript.RichText

/-- Styles the characters inside the extents, from a position on. -/
def styleExtents (t : RichText) (style : Style) (position : Nat) : List (Nat × Nat) → RichText
  | [] => t.slice position t.length
  | (start, stop) :: rest =>
    t.slice position start ++ (t.slice start stop).withStyle style ++ t.styleExtents style stop rest

/-- Styles what a pattern matches, as far as it matches something. -/
def highlight (t : RichText) (pattern : Pattern.Regex) (style : Style) : RichText :=
  t.styleExtents style 0 (pattern.extents t.plain)

end TableScript.RichText
