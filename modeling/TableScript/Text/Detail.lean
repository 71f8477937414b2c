/-!
# Details in words

How optional parts and records of named parts are written when nothing is left out.
-/

namespace TableScript

/-- An optional detail. -/
def optionDetail {α : Type} (detail : α → String) : Option α → String
  | some a => "Some(" ++ detail a ++ ")"
  | none => "None"

/-- A record of named details. -/
def recordDetail (name : String) (fields : List (String × String)) : String :=
  name ++ " \x7b " ++ ", ".intercalate (fields.map fun (n, d) => n ++ ": " ++ d) ++ " \x7d"

/-- A yes or no. -/
def boolDetail (b : Bool) : String := if b then "true" else "false"

end TableScript
