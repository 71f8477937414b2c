import TableScript.Number.Double

/-!
# The fewest digits that read back

A decimal `digits · 10 ^ exponent` reads back as a double when it lies in the interval of reals
that round to it. The interval's ends belong to it exactly when the significand is even.
`Decimal.ofMagnitude` tries one digit, then two, and so on up to seventeen; on each grid the two
neighbours of the value are tested, and of two hits the nearer is taken, a tie going up.
-/

namespace TableScript

/-- A decimal number `digits · 10 ^ exponent`. -/
structure Decimal where
  digits : Nat
  exponent : Int
  deriving Repr, DecidableEq

namespace Decimal

/-- The rounding interval of a positive double, in quarters of the unit of `Double`. -/
structure Interval where
  /-- Lower end. -/
  low : Nat
  /-- The double itself. -/
  mid : Nat
  /-- Upper end. -/
  high : Nat
  /-- Whether the ends round to the double as well. -/
  closed : Bool

/-- The interval of the double with this significand and shift; the gap below a power of two is
half the gap above it. -/
def Interval.of (significand shift : Nat) : Interval where
  mid := 4 * significand * Nat.pow 2 shift
  high := (4 * significand + 2) * Nat.pow 2 shift
  low := if significand = Nat.pow 2 52 ∧ 0 < shift then (4 * significand - 1) * Nat.pow 2 shift
    else (4 * significand - 2) * Nat.pow 2 shift
  closed := significand % 2 = 0

/-- Whether `num / den` quarters lie in the interval. -/
def Interval.contains (i : Interval) (num den : Nat) : Bool :=
  if i.closed then i.low * den ≤ num && num ≤ i.high * den
  else i.low * den < num && num < i.high * den

/-- One quarter of a unit is `2 ^ -quarterScale`. -/
def quarterScale : Nat := Double.scale + 2

/-- The grid point of step `10 ^ exponent` that reads back, if one of the value's neighbours
does. -/
def onGrid (i : Interval) (exponent : Int) : Option Decimal :=
  -- a grid step is `num / den` quarters
  let num := Nat.pow 10 exponent.toNat * Nat.pow 2 quarterScale
  let den := Nat.pow 10 (-exponent).toNat
  let below := i.mid * den / num
  let above := below + 1
  let hitBelow := i.contains (below * num) den && 0 < below
  let hitAbove := i.contains (above * num) den
  match hitBelow, hitAbove with
  | false, false => none
  | true, false => some ⟨below, exponent⟩
  | false, true => some ⟨above, exponent⟩
  | true, true =>
    if 2 * (i.mid * den - below * num) < num then some ⟨below, exponent⟩
    else some ⟨above, exponent⟩

/-- The number of decimal digits of a natural number. -/
def digitCount (n : Nat) : Nat := (Nat.toDigits 10 n).length

/-- The exponent of ten of the value's leading digit: the greatest `e` with `10 ^ e ≤ value`. -/
def leadingExponent (i : Interval) : Int :=
  if Nat.pow 2 quarterScale ≤ i.mid then digitCount (i.mid / Nat.pow 2 quarterScale) - 1
  else
    -- scale up far enough to have a whole part
    (digitCount (i.mid * Nat.pow 10 400 / Nat.pow 2 quarterScale) : Int) - 1 - 400

/-- The first grid with a hit, trying `count` more grids, each ten times finer than the last. -/
def search (i : Interval) (exponent : Int) : (count : Nat) → Option Decimal
  | 0 => none
  | count + 1 => (onGrid i exponent).or (search i (exponent - 1) count)

/-- Drops trailing zeros of the digits. -/
def strip (d : Decimal) : (fuel : Nat) → Decimal
  | 0 => d
  | fuel + 1 =>
    if d.digits ≠ 0 ∧ d.digits % 10 = 0 then strip ⟨d.digits / 10, d.exponent + 1⟩ fuel else d

/-- The shortest decimal that reads back as the finite double `x`, without its sign. -/
def shortest (x : Double) : Decimal :=
  if x.magnitude = 0 then ⟨0, 0⟩
  else
    let i := Interval.of x.significand x.shift
    ((search i (leadingExponent i) 18).getD ⟨0, 0⟩).strip 20

/-- Written without an exponent; a whole number has no point. -/
def positional (d : Decimal) : String :=
  let text := Nat.toDigits 10 d.digits
  if 0 ≤ d.exponent then String.ofList (text ++ List.replicate d.exponent.toNat '0')
  else
    let places := (-d.exponent).toNat
    if places < text.length then
      String.ofList
        (text.take (text.length - places) ++ '.' :: text.drop (text.length - places))
    else String.ofList ('0' :: '.' :: List.replicate (places - text.length) '0' ++ text)

/-- Written with one digit before the point and an exponent of ten. -/
def scientific (d : Decimal) : String :=
  let text := Nat.toDigits 10 d.digits
  let exponent := d.exponent + (text.length - 1 : Nat)
  let mantissa := match text with
    | c :: [] => [c]
    | c :: rest => c :: '.' :: rest
    | [] => []
  String.ofList mantissa ++ "e" ++ toString exponent

end Decimal
end TableScript
