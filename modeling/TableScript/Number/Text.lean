import TableScript.Number.Shortest

/-!
# Numbers as text

Three layouts of the same shortest digits, and the readers of integer and floating-point literals.

1. `plainText`: never an exponent, no point on a whole number, `-0`, `inf`, `NaN`; this is what
   scripts print.
2. `debugText`: always a point or an exponent, the exponent outside `[10⁻⁴, 10¹⁶)`.
3. `documentText`: the form of numbers in documents, positional from `10⁻⁵` to `10¹⁶`.
-/

namespace TableScript.NumberText

/-- Puts the sign in front; `NaN` has none. -/
def signed (x : Double) (finite : Decimal → String) : String :=
  if x.isNaN then "NaN"
  else
    let sign := if x.isNegative then "-" else ""
    if x.isInfinite then sign ++ "inf" else sign ++ finite (Decimal.shortest x)

/-- Without an exponent and without a point on a whole number. -/
def plainText (x : Double) : String := signed x Decimal.positional

/-- Adds `.0` to a whole number. -/
def withPoint (d : Decimal) : String :=
  if 0 ≤ d.exponent then d.positional ++ ".0" else d.positional

/-- The exponent of ten just above the leading digit. -/
def pointPosition (d : Decimal) : Int := d.exponent + Decimal.digitCount d.digits

/-- With a point, or with an exponent where the number is very small or very large. -/
def debugText (x : Double) : String :=
  signed x fun d =>
    if d.digits = 0 ∨ (-4 < pointPosition d ∧ pointPosition d ≤ 16) then withPoint d
    else d.scientific

/-- The form a finite number takes in a document. -/
def documentText (x : Double) : String :=
  signed x fun d =>
    if d.digits = 0 ∨ (-5 < pointPosition d ∧ pointPosition d ≤ 16) then withPoint d
    else d.scientific

/-- The value of one decimal digit. -/
def digitValue (c : Char) : Nat := c.toNat - '0'.toNat

/-- The number written by a run of decimal digits. -/
def digitsValue (cs : List Char) : Nat := cs.foldl (fun n c => n * 10 + digitValue c) 0

/-- Splits off the leading decimal digits. -/
def spanDigits (cs : List Char) : List Char × List Char := cs.span Char.isDigit

/-- Splits off an optional sign; `true` for a minus. -/
def takeSign : List Char → Bool × List Char
  | '-' :: rest => (true, rest)
  | '+' :: rest => (false, rest)
  | cs => (false, cs)

/-- A decimal integer with an optional sign, when it fits a 64-bit word. -/
def readInt? (s : String) : Option Int64 :=
  let (negative, digits) := takeSign s.toList
  if digits.isEmpty || !digits.all Char.isDigit then none
  else
    let n : Int := if negative then -(digitsValue digits : Int) else digitsValue digits
    if Int64.minValue.toInt ≤ n ∧ n ≤ Int64.maxValue.toInt then some (.ofInt n) else none

/-- The double nearest to `digits · 10 ^ exponent`. -/
def nearest (digits : Nat) (exponent : Int) : Double :=
  let count : Int := Decimal.digitCount digits
  if digits = 0 ∨ count + exponent < -330 then .zero
  else if 310 < count + exponent then .infinity
  else if exponent < 0 then .ofRatio false (digits * Double.one) (Nat.pow 10 exponent.natAbs)
  else .ofRatio false (digits * Nat.pow 10 exponent.natAbs * Double.one) 1

/-- An exponent part: nothing at all, or a mark, an optional sign and digits to the end. -/
def readExponent? : List Char → Option Int
  | [] => some 0
  | c :: rest =>
    if c ≠ 'e' ∧ c ≠ 'E' then none
    else
      let (negative, digits) := takeSign rest
      if digits.isEmpty || !digits.all Char.isDigit then none
      else some (if negative then -(digitsValue digits : Int) else digitsValue digits)

/-- The digits after a point, if there is one, and what follows. -/
def takeFraction : List Char → List Char × List Char
  | '.' :: rest => spanDigits rest
  | cs => ([], cs)

/-- A floating-point literal: a sign, `inf`, `infinity` or `nan` in any case, or digits with an
optional point and exponent. -/
def readFloat? (s : String) : Option Double :=
  let (negative, body) := takeSign s.toList
  let withSign (x : Double) : Double := if negative then -x else x
  let word := String.ofList (body.map Char.toLower)
  if word = "inf" ∨ word = "infinity" then some (withSign Double.infinity)
  else if word = "nan" then some (withSign Double.nan)
  else
    let (whole, afterWhole) := spanDigits body
    let (places, afterPlaces) := takeFraction afterWhole
    if whole.isEmpty && places.isEmpty then none
    else (readExponent? afterPlaces).map fun exponent =>
      withSign (nearest (digitsValue (whole ++ places)) (exponent - places.length))

end TableScript.NumberText
