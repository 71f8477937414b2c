import TableScript.Unicode.Age
import TableScript.Unicode.Break
import TableScript.Unicode.ScriptExtension

/-!
# Sets by name

Properties, categories and scripts are named loosely: case, blanks, dashes, underscores and a
leading `is` do not count, and neither does anything that is not ASCII.
-/

namespace TableScript.Unicode

/-- Whether a name starts with `is`, in any case. -/
def startsWithIs (name : List Char) : Bool := (name.take 2).map Char.toLower = ['i', 's']

/-- The part of a name that counts. The name `isc` is the only one that keeps its `is`: what is left
would name something else. -/
def looseName (name : List Char) : String :=
  let rest := if startsWithIs name then name.drop 2 else name
  let kept := (rest.filter fun c => c.toNat < 128 && c ≠ ' ' && c ≠ '_' && c ≠ '-').map Char.toLower
  if startsWithIs name && kept = ['c'] then "isc" else String.ofList kept

/-- The set a name stands for: a property, else a category, else a script. -/
def named? (name : List Char) : Option CharSet :=
  let name := looseName name
  ((property? name).or (category? name)).or (script? name)

/-- The set of characters for which a property has a value. -/
def valued? (property value : List Char) : Option CharSet :=
  let value := looseName value
  match looseName property with
  | "generalcategory" | "gc" => category? value
  | "script" | "sc" => script? value
  | "scriptextensions" | "scx" => scriptExtension? value
  | "age" => age? value
  | "graphemeclusterbreak" | "gcb" => graphemeBreak? value
  | "wordbreak" | "wb" => wordBreak? value
  | "sentencebreak" | "sb" => sentenceBreak? value
  | _ => none

end TableScript.Unicode
