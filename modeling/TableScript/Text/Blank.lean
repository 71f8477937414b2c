import TableScript.Text.CharSet

/-!
# White space

The characters with the Unicode property White_Space, and trimming them off a text.
-/

namespace TableScript

/-- The white space characters. -/
def CharSet.blank : CharSet := .ofToggles #[
  9, 14, 32, 33, 133, 134, 160, 161, 5760, 5761, 8192, 8203, 8232, 8234, 8239, 8240, 8287, 8288,
  12288, 12289]

/-- Whether a character is white space. -/
def isBlank (c : Char) : Bool := CharSet.blank.contains c

/-- Drops white space at the end. -/
def trimEnd (s : String) : String := String.ofList (s.toList.reverse.dropWhile isBlank).reverse

/-- Drops white space at both ends. -/
def trim (s : String) : String :=
  String.ofList ((s.toList.dropWhile isBlank).reverse.dropWhile isBlank).reverse

end TableScript
