/-!
# Doubles as exact numbers

A double is a word of sixty-four bits. A finite one is a whole multiple of `2⁻¹⁰⁷⁴`, the step of the
smallest subnormal; counting in that unit makes every question about it a question about integers:

1. `units?` reads the count off the bits, `ofMagnitude` writes it back;
2. whole part and remainder are integer operations on the count, and a sum, a product or a quotient
   is the exact fraction of counts, rounded once by `ofRatio`;
3. NaN and the infinities have no count. NaN has a sign, which arithmetic carries along.
-/

namespace TableScript

/-- A double by its bits, so that equal means equal in every bit, the sign of a NaN included. -/
structure Double where
  bits : UInt64
  deriving DecidableEq, Repr, Inhabited

namespace Double

/-- How many units make one: the exponent of the smallest subnormal, negated. -/
def scale : Nat := 1074

/-- One, counted in units. -/
def one : Nat := Nat.pow 2 scale

/-- The sign bit, alone. -/
def signBit : UInt64 := 0x8000000000000000

/-- Whether the sign bit is set. -/
def isNegative (x : Double) : Bool := Nat.pow 2 63 ≤ x.bits.toNat

/-- The bits below the sign: exponent field and fraction. -/
def magnitudeBits (x : Double) : Nat := x.bits.toNat % Nat.pow 2 63

/-- The eleven bits of the exponent field. -/
def exponentField (x : Double) : Nat := x.magnitudeBits / Nat.pow 2 52

/-- The fifty-two bits of the fraction. -/
def fraction (x : Double) : Nat := x.magnitudeBits % Nat.pow 2 52

/-- Neither NaN nor an infinity. -/
def isFinite (x : Double) : Bool := x.exponentField ≠ 2047

/-- Not a number. -/
def isNaN (x : Double) : Bool := x.exponentField = 2047 && x.fraction ≠ 0

/-- One of the two infinities. -/
def isInfinite (x : Double) : Bool := x.exponentField = 2047 && x.fraction = 0

/-- The significand with its leading one made explicit. -/
def significand (x : Double) : Nat :=
  if x.exponentField = 0 then x.fraction else x.fraction + Nat.pow 2 52

/-- How far the significand is shifted: neighbouring doubles are `2 ^ shift` units apart. -/
def shift (x : Double) : Nat := x.exponentField - 1

/-- The distance of a finite double from zero, in units. -/
def magnitude (x : Double) : Nat := x.significand * Nat.pow 2 x.shift

/-- A finite double in units; nothing for NaN and the infinities. -/
def units? (x : Double) : Option Int :=
  if x.isFinite then some (if x.isNegative then -(x.magnitude : Int) else x.magnitude) else none

/-- The bits of a distance from zero that some double has exactly. -/
def bitsOfMagnitude (n : Nat) : Nat :=
  let shift := n.log2 - 52
  if n < Nat.pow 2 53 then n else (shift + 1) * Nat.pow 2 52 + (n / Nat.pow 2 shift - Nat.pow 2 52)

/-- The double with this sign and distance from zero. -/
def ofMagnitude (negative : Bool) (n : Nat) : Double :=
  ⟨.ofNat ((if negative then Nat.pow 2 63 else 0) + bitsOfMagnitude n)⟩

/-- Zero without a sign. -/
def zero : Double := ⟨0⟩

/-- The NaN without a sign. -/
def nan : Double := ⟨0x7ff8000000000000⟩

/-- Positive infinity. -/
def infinity : Double := ⟨0x7ff0000000000000⟩

/-! ## Rounding -/

/-- A quotient rounded to the nearest integer, ties to even. -/
def roundQuotient (num den : Nat) : Nat :=
  let q := num / den
  let r := num % den
  if 2 * r < den ∨ 2 * r = den ∧ q % 2 = 0 then q else q + 1

/-- The bits of the distance from zero nearest to `num / den` units, at fifty-three significant
bits; those of infinity beyond all doubles. -/
def bitsOfRatio (num den : Nat) : Nat :=
  let shift := (num / den).log2 - 52
  let rounded := roundQuotient num (den * Nat.pow 2 shift)
  min (bitsOfMagnitude (rounded * Nat.pow 2 shift)) infinity.bits.toNat

/-- The double nearest to `num / den` units, with this sign. -/
def ofRatio (negative : Bool) (num den : Nat) : Double :=
  ⟨.ofNat ((if negative then Nat.pow 2 63 else 0) + bitsOfRatio num den)⟩

/-- The nearest double to an integer, ties to even. -/
def ofInt (n : Int) : Double := ofRatio (n < 0) (n.natAbs * one) 1

/-! ## Arithmetic -/

/-- The same number with the other sign, NaN included: adding the sign bit flips it, for the carry
is lost. -/
def neg (x : Double) : Double := ⟨x.bits + signBit⟩

/-- The same number without its sign, NaN included. -/
def abs (x : Double) : Double := if x.isNegative then x.neg else x

instance : Neg Double := ⟨neg⟩

/-- Whether the double is one of the two zeros. -/
def isZero (x : Double) : Bool := x.magnitudeBits = 0

/-- Gives a number without a sign this sign. -/
def withSign (negative : Bool) (x : Double) : Double := if negative then -x else x

/-- Where an operation gives NaN: a NaN operand comes through as it is, the left one first; a NaN
that numbers give rise to has its sign set. -/
def nanOf (x y : Double) : Double := if x.isNaN then x else if y.isNaN then y else -nan

/-- The sum. A sum of zero has no sign unless both terms have one; opposite infinities have none. -/
def add (x y : Double) : Double :=
  match x.units?, y.units? with
  | some a, some b =>
    if a + b = 0 then withSign (x.isNegative && y.isNegative) zero
    else ofRatio (a + b < 0) (a + b).natAbs 1
  | some _, none => if y.isNaN then nanOf x y else y
  | none, some _ => if x.isNaN then nanOf x y else x
  | none, none =>
    if x.isNaN || y.isNaN || x.isNegative != y.isNegative then nanOf x y else x

/-- The difference. -/
def sub (x y : Double) : Double := if y.isNaN then nanOf x y else x.add (-y)

/-- The product; zero times an infinity is none. -/
def mul (x y : Double) : Double :=
  let negative := x.isNegative != y.isNegative
  if x.isFinite && y.isFinite then ofRatio negative (x.magnitude * y.magnitude) one
  else if x.isNaN || y.isNaN || x.isZero || y.isZero then nanOf x y
  else withSign negative infinity

/-- The quotient; of two zeros or of two infinities there is none. -/
def div (x y : Double) : Double :=
  let negative := x.isNegative != y.isNegative
  if x.isNaN || y.isNaN then nanOf x y
  else if x.isInfinite then if y.isInfinite then nanOf x y else withSign negative infinity
  else if y.isInfinite then withSign negative zero
  else if y.isZero then if x.isZero then nanOf x y else withSign negative infinity
  else ofRatio negative (x.magnitude * one) y.magnitude

instance : Add Double := ⟨add⟩
instance : Sub Double := ⟨sub⟩
instance : Mul Double := ⟨mul⟩
instance : Div Double := ⟨div⟩

/-- The remainder of truncating division: it has the sign of the dividend. -/
def remainder (x y : Double) : Double :=
  match x.units?, y.units? with
  | some a, some b => if b = 0 then -nan else ofMagnitude x.isNegative (a.natAbs % b.natAbs)
  | some _, none => if y.isNaN then y else x
  | none, _ => nanOf x y

instance : Mod Double := ⟨remainder⟩

/-- Whether the double is an odd integer. -/
def isOdd (x : Double) : Bool :=
  match x.units? with
  | some n => n.natAbs % (2 * one) = one
  | none => false

/-! ## Powers and order by the machine -/

/-- The machine's number for these bits. -/
def toFloat (x : Double) : Float := .ofBits x.bits

/-- The bits of a machine's number; a NaN loses its sign. -/
def ofFloat (x : Float) : Double := ⟨x.toBits⟩

/-- A power. A NaN raised to an odd integer loses its sign, as a negative number would keep it. -/
def pow (x y : Double) : Double :=
  if x.isNaN && y.isOdd then x.abs
  else
    let r := ofFloat (x.toFloat.pow y.toFloat)
    if r.isNaN then nanOf x y else r

/-- Equality of numbers: the two zeros are equal, NaN equals nothing. -/
def sameNumber (x y : Double) : Bool := x.toFloat == y.toFloat

/-- The order of numbers; none if one is NaN. -/
def compare? (x y : Double) : Option Ordering :=
  let a := x.toFloat
  let b := y.toFloat
  if a < b then some .lt else if a == b then some .eq else if b < a then some .gt else none

/-! ## Whole numbers -/

/-- The integer a double is, if it is one. -/
def toInt? (x : Double) : Option Int := do
  let n ← x.units?
  if n % one = 0 then some (n / one) else none

/-- The part before the point, dropping the rest; nothing for NaN and the infinities. -/
def truncate? (x : Double) : Option Int := x.units?.map (Int.tdiv · one)

/-- Clamps an integer into the range of a 64-bit signed word. -/
def clampWord (n : Int) : Int64 :=
  if n < Int64.minValue.toInt then Int64.minValue
  else if Int64.maxValue.toInt < n then Int64.maxValue
  else .ofInt n

/-- The 64-bit word nearest to a double's whole part; NaN becomes zero. -/
def toWord (x : Double) : Int64 :=
  match x.truncate? with
  | some n => clampWord n
  | none => if x.isNaN then 0 else if x.isNegative then Int64.minValue else Int64.maxValue

end Double
end TableScript
