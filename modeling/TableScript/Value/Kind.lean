/-!
# Kinds of values

What a value can be, and the sets of kinds that a parameter accepts. A set without members accepts
every kind.
-/

namespace TableScript

/-- The kind of a value. -/
inductive Kind where
  | int | float | str | bool | list | map | fn | error | null
  deriving DecidableEq, Repr, Inhabited

namespace Kind

/-- Every kind, in the order in which sets of kinds are written. -/
def all : List Kind := [int, float, str, bool, list, map, fn, error, null]

/-- The name of a kind. -/
def name : Kind → String
  | int => "int"
  | float => "float"
  | str => "str"
  | bool => "bool"
  | list => "list"
  | map => "map"
  | fn => "fn"
  | error => "error"
  | null => "null"

end Kind

/-- The kinds a parameter accepts; no kind at all stands for any kind. -/
structure TypeSet where
  kinds : List Kind
  deriving Repr, Inhabited

namespace TypeSet

/-- Accepts everything. -/
def any : TypeSet := ⟨[]⟩

/-- Accepts numbers. -/
def number : TypeSet := ⟨[.int, .float]⟩

/-- Whether every kind is accepted. -/
def isAny (t : TypeSet) : Bool := t.kinds.isEmpty

/-- Whether a kind is accepted. -/
def accepts (t : TypeSet) (k : Kind) : Bool := t.isAny || t.kinds.contains k

/-- The accepted kinds in words. -/
def text (t : TypeSet) : String :=
  if t.isAny then "any"
  else " | ".intercalate ((Kind.all.filter t.kinds.contains).map Kind.name)

end TypeSet
end TableScript
