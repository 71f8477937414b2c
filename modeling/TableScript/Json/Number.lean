import TableScript.Json.Basic
import TableScript.Number.Text

/-!
# Numbers in documents

A literal is read in one pass. Its digits are gathered in a 64-bit word for as long as they fit;
later digits only move the decimal exponent. The double is then the word, as a double, multiplied
or divided by a power of ten, each step rounded on its own. So a literal of many digits may differ
in its last place from the nearest double; a literal with a result beyond all doubles is refused.
-/

namespace TableScript.Json.Number

/-- The largest 64-bit word. -/
def maxWord : Nat := Nat.pow 2 64 - 1

/-- Digits gathered so far: the word, and the exponent of ten it still needs. -/
structure Gathered where
  word : Nat := 0
  exponent : Int := 0

/-- Gathers digits before the point: once the word is full, each counts one power of ten. -/
def gatherWhole (g : Gathered) : List Char → Gathered
  | [] => g
  | c :: rest =>
    let word := g.word * 10 + NumberText.digitValue c
    if maxWord < word then { g with exponent := rest.length + 1 }
    else gatherWhole { g with word } rest

/-- Gathers digits after the point: once the word is full, the others are dropped. -/
def gatherPlaces (g : Gathered) : List Char → Gathered
  | [] => g
  | c :: rest =>
    let word := g.word * 10 + NumberText.digitValue c
    if maxWord < word then g
    else gatherPlaces { word, exponent := g.exponent - 1 } rest

/-- A power of ten as a double. -/
def powerOfTen (e : Nat) : Double := .ofInt (Nat.pow 10 e)

/-- Divides by `10³⁰⁸` until the exponent is in reach, then by the rest. -/
def scaleDown (x : Double) (e : Nat) : (fuel : Nat) → Double
  | 0 => x
  | fuel + 1 =>
    if e ≤ 308 then x / powerOfTen e
    else if x.isZero then x
    else scaleDown (x / powerOfTen 308) (e - 308) fuel

/-- The gathered number as a double; nothing when it is beyond all doubles. -/
def scale? (g : Gathered) : Option Double :=
  let x := Double.ofInt g.word
  if 0 ≤ g.exponent then
    if g.exponent ≤ 308 then
      let y := x * powerOfTen g.exponent.toNat
      if y.isInfinite then none else some y
    else if x.isZero then some x
    else none
  else some (scaleDown x g.exponent.natAbs 8)

/-- An exponent as it enters the scaling; beyond the range of a 32-bit word it settles the result
by itself. -/
def applyExponent? (g : Gathered) (negative : Bool) (digits : List Char) : Option Double :=
  let e : Int := NumberText.digitsValue digits
  if e < Nat.pow 2 31 then
    scale? { g with exponent := if negative then g.exponent - e else g.exponent + e }
  else if g.word ≠ 0 ∧ !negative then none
  else some .zero

/-- A number literal split into its parts. -/
structure Literal where
  negative : Bool
  whole : List Char
  /-- Digits after a point, when there is one. -/
  places : Option (List Char)
  /-- Sign and digits of an exponent, when there is one. -/
  exponent : Option (Bool × List Char)

/-- Splits off a minus; a plus is no sign here. -/
def takeMinus : List Char → Bool × List Char
  | '-' :: rest => (true, rest)
  | cs => (false, cs)

/-- The fraction part at the head of the text: `none` for a point without digits. -/
def takePlaces? : List Char → Option (Option (List Char) × List Char)
  | '.' :: rest =>
    let (digits, after) := NumberText.spanDigits rest
    if digits.isEmpty then none else some (some digits, after)
  | cs => some (none, cs)

/-- The exponent part at the head of the text: `none` for a mark without digits. -/
def takeExponent? : List Char → Option (Option (Bool × List Char) × List Char)
  | [] => some (none, [])
  | c :: rest =>
    if c = 'e' ∨ c = 'E' then
      let (negative, body) := NumberText.takeSign rest
      let (digits, after) := NumberText.spanDigits body
      if digits.isEmpty then none else some (some (negative, digits), after)
    else some (none, c :: rest)

/-- The literal at the head of the text, and the rest. A leading zero stands alone. -/
def take? (cs : List Char) : Option (Literal × List Char) := do
  let (negative, body) := takeMinus cs
  let (whole, afterWhole) := NumberText.spanDigits body
  match whole with
  | [] => none
  | '0' :: _ :: _ => none
  | _ =>
    let (places, afterPlaces) ← takePlaces? afterWhole
    let (exponent, rest) ← takeExponent? afterPlaces
    some (⟨negative, whole, places, exponent⟩, rest)

/-- The document a literal stands for. -/
def Literal.toJson? (l : Literal) : Option Json :=
  let sign (x : Double) : Double := if l.negative then -x else x
  let whole := gatherWhole {} l.whole
  match l.places, l.exponent with
  | none, none =>
    if 0 < whole.exponent then (scale? whole).map (.float ∘ sign)
    else if !l.negative then some (.int whole.word)
    else if whole.word = 0 ∨ Nat.pow 2 63 < whole.word then some (.float (-Double.ofInt whole.word))
    else some (.int (-whole.word))
  | places, exponent =>
    let g := gatherPlaces whole (places.getD [])
    match exponent with
    | none => (scale? g).map (.float ∘ sign)
    | some (negative, digits) => (applyExponent? g negative digits).map (.float ∘ sign)

end TableScript.Json.Number
