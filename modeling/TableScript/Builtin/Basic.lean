import TableScript.Text.Style
import TableScript.Value.Kind

/-!
# Built-in functions

The functions every script can call, their names and their contracts. A contract says how many
arguments of which kinds a function takes and how many results it can give; it is checked before
the function runs.
-/

namespace TableScript

/-- A built-in function. -/
inductive Builtin where
  | print | printErr | debug
  | len | typeOf | str | int | float
  | upper | lower | join | split | replace | isMatch | startsWith | endsWith | truncate
  | keys | values | range | unique | sort
  | abs | pow
  | exit | error | sleep
  | parseJson | parseInt | parseFloat | httpGet
  | hyperlink | rgb
  /-- Puts the style of this name on a text. -/
  | style (name : String) (known : name ∈ Style.names)
  deriving DecidableEq, Repr, Inhabited

/-- How a function may be called. -/
structure Contract where
  minArgs : Nat
  maxArgs : Option Nat
  /-- The kinds accepted in each position; later positions accept anything. -/
  argTypes : List TypeSet := []
  /-- Named arguments and the kinds they accept. -/
  named : List (String × TypeSet) := []
  /-- How many results the function can give. -/
  returns : List Nat

namespace Builtin

/-- The functions that are not styles, in table order. -/
def plain : List Builtin :=
  [print, printErr, debug, len, typeOf, str, int, float, upper, lower, join, split, replace,
    isMatch, startsWith, endsWith, truncate, keys, values, range, unique, sort, abs, pow, exit,
    error, sleep, parseJson, parseInt, parseFloat, httpGet, hyperlink, rgb]

/-- Every function, in table order. -/
def all : List Builtin := plain ++ Style.names.attach.map fun name => style name.1 name.2

/-- The name a script calls a function by. -/
def name : Builtin → String
  | print => "print"
  | printErr => "print_err"
  | debug => "debug"
  | len => "len"
  | typeOf => "type_of"
  | str => "str"
  | int => "int"
  | float => "float"
  | upper => "upper"
  | lower => "lower"
  | join => "join"
  | split => "split"
  | replace => "replace"
  | isMatch => "matches"
  | startsWith => "starts_with"
  | endsWith => "ends_with"
  | truncate => "truncate"
  | keys => "keys"
  | values => "values"
  | range => "range"
  | unique => "unique"
  | sort => "sort"
  | abs => "abs"
  | pow => "pow"
  | exit => "exit"
  | error => "error"
  | sleep => "sleep"
  | parseJson => "parse_json"
  | parseInt => "parse_int"
  | parseFloat => "parse_float"
  | httpGet => "http_get"
  | hyperlink => "hyperlink"
  | rgb => "rgb"
  | style name _ => name

/-- The function with this name. -/
def ofName? (name : String) : Option Builtin := all.find? (·.name = name)

/-- A contract with exactly these positions and one result. -/
def exactly (argTypes : List TypeSet) : Contract :=
  { minArgs := argTypes.length, maxArgs := some argTypes.length, argTypes, returns := [1] }

/-- Accepts one kind. -/
def only (k : Kind) : TypeSet := ⟨[k]⟩

/-- Accepts what has a length. -/
def sized : TypeSet := ⟨[.str, .list, .map]⟩

/-- Accepts numbers and booleans. -/
def scalar : TypeSet := ⟨[.int, .float, .bool]⟩

/-- The contract of a function. -/
def contract : Builtin → Contract
  | print | printErr | debug => { minArgs := 0, maxArgs := none, returns := [0] }
  | len => exactly [sized]
  | typeOf | str | style _ _ => { minArgs := 1, maxArgs := some 1, returns := [1] }
  | int | float => exactly [scalar]
  | upper | lower => exactly [only .str]
  | join => exactly [only .list, only .str]
  | split | isMatch | startsWith | endsWith => exactly [only .str, only .str]
  | replace => exactly [only .str, only .str, only .str]
  | truncate => exactly [only .str, only .int]
  | keys | values => exactly [only .map]
  | range =>
    { minArgs := 1, maxArgs := some 3, argTypes := List.replicate 3 (only .int), returns := [1] }
  | unique => exactly [only .list]
  | sort => { exactly [only .list] with named := [("reverse", only .bool)] }
  | abs => exactly [.number]
  | pow => exactly [.number, .number]
  | exit => { minArgs := 0, maxArgs := some 1, argTypes := [only .int], returns := [0] }
  | error => exactly [only .str]
  | sleep => { exactly [.number] with returns := [0] }
  | parseJson | parseInt | parseFloat | httpGet => { exactly [only .str] with returns := [1, 2] }
  | hyperlink => exactly [.any, only .str]
  | rgb => exactly [.any, only .int, only .int, only .int]

end Builtin
end TableScript
