import TableScript.Number.Text
import TableScript.Text.Ansi
import TableScript.Text.Quoted
import TableScript.Value.Basic

/-!
# Values as text

A container shows its elements, with strings among them in quotes. A container that is met inside
itself shows as an ellipsis: the walk carries the containers it is inside of. Each of them is open
at most once, so their number bounds the depth of the walk.
-/

namespace TableScript

/-- A list or a map, by address. -/
inductive Container where
  | list (address : Nat)
  | map (address : Nat)
  deriving DecidableEq, Repr

namespace Store

/-- How many containers there are. -/
def containerCount (st : Store) : Nat := st.lists.size + st.maps.size

/-- The text of a value without looking into containers; `nested` puts strings in quotes. -/
def leafText (st : Store) (nested : Bool) : Value → String
  | .int n => toString n
  | .float x => NumberText.plainText x
  | .str t => if nested then quoted t.plain else t.plain
  | .bool b => if b then "true" else "false"
  | .fn f => "<fn " ++ st.callableName f ++ ">"
  | .error e => e.message
  | .null => "null"
  | .list _ => "[...]"
  | .map _ => "\x7b...\x7d"

/-- A list from the texts of its elements. -/
def listText (parts : List String) : String := "[" ++ ", ".intercalate parts ++ "]"

/-- A map from the texts of its entries. -/
def mapText (parts : List String) : String :=
  "\x7b " ++ ", ".intercalate parts ++ (if parts.isEmpty then "\x7d" else " \x7d")

/-- The text of a value met inside the containers `inside`, looking `depth` levels deep. -/
def textWithin (st : Store) : (depth : Nat) → List Container → Bool → Value → String
  | 0, _, nested, v => st.leafText nested v
  | depth + 1, inside, nested, v =>
    match v with
    | .list a =>
      if inside.contains (.list a) then st.leafText nested v
      else listText ((st.items a).map fun v => textWithin st depth (.list a :: inside) true v)
    | .map a =>
      if inside.contains (.map a) then st.leafText nested v
      else mapText ((st.entries a).map fun e =>
        textWithin st depth (.map a :: inside) true e.written ++ ": " ++
          textWithin st depth (.map a :: inside) true e.value)
    | v => st.leafText nested v

/-- The text of a value. -/
def text (st : Store) (v : Value) : String := st.textWithin (st.containerCount + 1) [] false v

/-- The text of a value with the styles of a string shown. -/
def render (st : Store) (v : Value) (colour : Bool) : String :=
  match v with
  | .str t => t.render colour
  | v => st.text v

end Store
end TableScript
