/-!
# Cutting texts

Cutting a text at the occurrences of a separator. Occurrences are taken from the left and do not
overlap.
-/

namespace TableScript

/-- The pieces between occurrences of a separator; `piece` is the current one, last character first,
and `skip` counts characters of an occurrence still to be passed over. -/
def splitChars (sep : List Char) (piece : List Char) (skip : Nat) :
    List Char → List (List Char)
  | [] => [piece.reverse]
  | c :: rest =>
    match skip with
    | n + 1 => splitChars sep piece n rest
    | 0 =>
      if sep.isPrefixOf (c :: rest) then
        piece.reverse :: splitChars sep [] (sep.length - 1) rest
      else splitChars sep (c :: piece) 0 rest

/-- The pieces of a text between occurrences of a separator; without a separator, its characters. -/
def splitText (s sep : String) : List String :=
  if sep = "" then s.toList.map fun c => String.ofList [c]
  else (splitChars sep.toList [] 0 s.toList).map String.ofList

end TableScript
