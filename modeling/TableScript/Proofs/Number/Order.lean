import TableScript.Proofs.Number.Comparison
import TableScript.Proofs.Number.Rank
import TableScript.Proofs.Number.Rounding

/-!
# Doubles in order

The machine compares doubles by sign, exponent and significand, and rounds an integer to the nearest
double. Both keep to the order of numbers:

1. the word of a double stands for the number of its place (`Stands`), and comparing words is
   comparing places (`compare?_eq`, `sameNumber_iff_ofDouble_eq`);
2. rounding is monotone (`bitsOfRatio_mono`) and leaves doubles as they are, so no double lies
   strictly between an integer and the double it rounds to (`compare_ofInt`);
3. integers up to `2 ^ 53` are doubles (`ofDouble_ofInt_of_le`).
-/

namespace TableScript

namespace Double

open Float.Model UnpackedFloat

variable {x y : Double}

/-! ## What a word stands for -/

/-- The sign of a double. -/
def sign (x : Double) : Sign := if x.isNegative then .negative else .positive

/-- A word stands for the number at a place in the order. -/
inductive Stands : UnpackedFloat → NumberRank → Prop
  | negInfinite : Stands (.infinity .negative) .negInfinite
  | posInfinite : Stands (.infinity .positive) .posInfinite
  | zero (s : Sign) : Stands (.zero s) (.finite 0)
  /-- Significand and shift are those of some double. -/
  | finite (s : Sign) {m k : Nat} (hm : 0 < m) : (0 < k → 2 ^ 52 ≤ m) → m < 2 ^ 53 →
    Stands (.finite s m (k - 1074) hm) (.finite (s.apply ↑(m * 2 ^ k)))

theorem ofBitVec_unpackSign (x : Double) : Sign.ofBitVec (unpackSign x.word) = x.sign := by
  have htoNat : (unpackSign x.word).toNat = x.bits.toNat / 2 ^ 63 % 2 := by
    rw [unpackSign_def, BitVec.extractLsb'_toNat, Nat.shiftRight_eq_div_pow]
    rfl
  have hlt : x.bits.toNat < 2 ^ 64 := x.bits.toNat_lt
  have hiff : unpackSign x.word = 0#1 ↔ ¬x.isNegative = true := by
    rw [← BitVec.toNat_inj, htoNat, isNegative, decide_eq_true_iff]
    change _ = 0 ↔ ¬2 ^ 63 ≤ _
    omega
  unfold Sign.ofBitVec sign
  by_cases h : x.isNegative = true
  · rw [if_neg fun hzero => hiff.1 hzero h, if_pos h]
  · rw [if_pos (hiff.2 h), if_neg h]

theorem toNat_unpackMantissa_normal (x : Double) :
    (1#1 ++ unpackMantissa x.word).toNat = x.fraction + 2 ^ 52 := by
  have hlt := x.fraction_lt
  rw [BitVec.toNat_append, toNat_unpackMantissa, ← Nat.shiftLeft_add_eq_or_of_lt hlt]
  change 1 <<< 52 + _ = _
  omega

theorem ofDouble_of_isFinite (hx : x.isFinite) :
    NumberRank.ofDouble x = .finite (x.sign.apply x.magnitude) := by
  unfold NumberRank.ofDouble units? sign Sign.apply
  rw [if_pos hx]
  cases x.isNegative <;> rfl

theorem Stands.of_isFinite (hx : x.isFinite) {m : Nat} {e : Int} (hm : 0 < m)
    (hsignificand : m = x.significand) (hshift : e = x.shift - 1074) :
    Stands (.finite x.sign m e hm) (NumberRank.ofDouble x) := by
  subst hsignificand hshift
  rw [ofDouble_of_isFinite hx]
  exact .finite x.sign hm le_significand x.significand_lt

/-- The word of a double stands for the number the double is. -/
theorem stands_unpack (hx : x.isNaN = false) :
    Stands (UnpackedFloat.unpack Format.binary64 x.word) (NumberRank.ofDouble x) := by
  have hfield : unpackExponent x.word = -1#_ ↔ x.exponentField = 2047 := by
    rw [← BitVec.toNat_inj, toNat_unpackExponent]
    rfl
  have hsmall : unpackExponent x.word = 0#_ ↔ x.exponentField = 0 := by
    rw [← BitVec.toNat_inj, toNat_unpackExponent]
    rfl
  have hfraction : unpackMantissa x.word = 0#_ ↔ x.fraction = 0 := by
    rw [← BitVec.toNat_inj, toNat_unpackMantissa]
    rfl
  simp only [UnpackedFloat.unpack, ofBitVec_unpackSign, hfield, hsmall, hfraction]
  split
  · rename_i h
    have hfinite : ¬x.isFinite := by simp [isFinite, h]
    have hzero : x.fraction = 0 := by simpa [isNaN, h] using hx
    rw [if_pos hzero]
    unfold NumberRank.ofDouble units? sign
    rw [if_neg hfinite, hx]
    cases x.isNegative
    · exact .posInfinite
    · exact .negInfinite
  · rename_i h
    have hfinite : x.isFinite := by simp [isFinite, h]
    split
    · rename_i hfield
      have hsignificand : x.fraction = x.significand := by rw [significand, if_pos hfield]
      split
      · rename_i hzero
        have hplace : NumberRank.ofDouble x = .finite 0 := by
          rw [ofDouble_of_isFinite hfinite, magnitude, ← hsignificand, hzero, Nat.zero_mul]
          cases x.sign <;> rfl
        rw [hplace]
        exact .zero x.sign
      · refine .of_isFinite hfinite _ ((toNat_unpackMantissa x).trans hsignificand) ?_
        rw [toNat_unpackExponent, hfield, shift, hfield]
        rfl
    · rename_i hfield
      refine .of_isFinite hfinite _ ?_ ?_
      · rw [toNat_unpackMantissa_normal, significand, if_neg hfield, Nat.pow_eq]
      · rw [toNat_unpackExponent, shift]
        change (x.exponentField : Int) - (1023 + 52) = _
        omega

/-! ## Comparing words -/

theorem compare_congr {α β : Type} [LinearOrder α] [LinearOrder β] {a b : α} {c d : β}
    (hlt : a < b ↔ c < d) (hgt : b < a ↔ d < c) : compare a b = compare c d := by
  rcases lt_trichotomy a b with h | h | h
  · rw [compare_lt_iff_lt.2 h, compare_lt_iff_lt.2 (hlt.1 h)]
  · have hcd : c = d := by
      refine le_antisymm (not_lt.1 fun h' => ?_) (not_lt.1 fun h' => ?_)
      · exact (hgt.2 h').ne h.symm
      · exact (hlt.2 h').ne h
    rw [compare_eq_iff_eq.2 h, compare_eq_iff_eq.2 hcd]
  · rw [compare_gt_iff_gt.2 h, compare_gt_iff_gt.2 (hgt.1 h)]

/-- More shift is more, whatever the significands: the larger significand of the smaller shift is
less than twice the smaller one of the larger. -/
theorem mul_pow_lt_mul_pow {m n k l : Nat} (hm : m < 2 ^ 53) (hn : 0 < l → 2 ^ 52 ≤ n)
    (hkl : k < l) : m * 2 ^ k < n * 2 ^ l := by
  calc m * 2 ^ k < 2 ^ 53 * 2 ^ k := Nat.mul_lt_mul_of_pos_right hm (Nat.two_pow_pos k)
    _ = 2 ^ 52 * 2 ^ (k + 1) := by ring
    _ ≤ n * 2 ^ l := Nat.mul_le_mul (hn (Nat.zero_lt_of_lt hkl))
        (Nat.pow_le_pow_right Nat.two_pos hkl)

/-- Shift first and significand second is the order of magnitudes. -/
theorem then_compare_eq {m n k l : Nat} (hm : m < 2 ^ 53) (hn : n < 2 ^ 53)
    (hmk : 0 < k → 2 ^ 52 ≤ m) (hnl : 0 < l → 2 ^ 52 ≤ n) :
    (compare ((k : Int) - 1074) (l - 1074)).then (compare m n) =
      compare ((m * 2 ^ k : Nat) : Int) ((n * 2 ^ l : Nat) : Int) := by
  rcases Nat.lt_trichotomy k l with h | rfl | h
  · have hlt := Int.ofNat_lt.2 (mul_pow_lt_mul_pow hm hnl h)
    rw [compare_lt_iff_lt.2 hlt, compare_lt_iff_lt.2 (show (k : Int) - 1074 < l - 1074 by omega)]
    rfl
  · rw [compare_eq_iff_eq.2 rfl]
    have hpos := Nat.two_pow_pos k
    exact compare_congr (by rw [Int.ofNat_lt, Nat.mul_lt_mul_right hpos])
      (by rw [Int.ofNat_lt, Nat.mul_lt_mul_right hpos])
  · have hgt := Int.ofNat_lt.2 (mul_pow_lt_mul_pow hn hmk h)
    rw [compare_gt_iff_gt.2 hgt, compare_gt_iff_gt.2 (show (k : Int) - 1074 > l - 1074 by omega)]
    rfl

/-- Comparing words is comparing the places of the numbers they stand for. -/
theorem Stands.compare_eq {a b : UnpackedFloat} {r q : NumberRank} (ha : Stands a r)
    (hb : Stands b q) : a.compare b = some (r.compare q) := by
  have hpos {m : Nat} (hm : 0 < m) (k : Nat) : (0 : Int) < (m * 2 ^ k : Nat) :=
    Int.natCast_pos.2 (Nat.mul_pos hm (Nat.two_pow_pos k))
  cases ha with
  | negInfinite => cases hb <;> rfl
  | posInfinite => cases hb <;> rfl
  | zero s =>
    cases hb with
    | @finite s' n l hn =>
      cases s' with
      | negative => exact congrArg some (compare_gt_iff_gt.2 (Int.neg_neg_of_pos (hpos hn l))).symm
      | positive => exact congrArg some (compare_lt_iff_lt.2 (hpos hn l)).symm
    | _ => rfl
  | @finite s m k hm hlow hhigh =>
    cases hb with
    | negInfinite => cases s <;> rfl
    | posInfinite => cases s <;> rfl
    | zero s' =>
      cases s with
      | negative => exact congrArg some (compare_lt_iff_lt.2 (Int.neg_neg_of_pos (hpos hm k))).symm
      | positive => exact congrArg some (compare_gt_iff_gt.2 (hpos hm k)).symm
    | @finite s' n l hn hlow' hhigh' =>
      have hm := hpos hm k
      have hn := hpos hn l
      cases s <;> cases s'
      case negative.negative =>
        refine congrArg some ?_
        rw [then_compare_eq hhigh hhigh' hlow hlow', ← Std.OrientedCmp.eq_swap]
        exact compare_congr Int.neg_lt_neg_iff.symm Int.neg_lt_neg_iff.symm
      case negative.positive =>
        exact congrArg some (compare_lt_iff_lt.2 ((Int.neg_neg_of_pos hm).trans hn)).symm
      case positive.negative =>
        exact congrArg some (compare_gt_iff_gt.2 ((Int.neg_neg_of_pos hn).trans hm)).symm
      case positive.positive => exact congrArg some (then_compare_eq hhigh hhigh' hlow hlow')

/-! ## Comparing doubles -/

theorem unpack_toFloat (hx : x.isNaN = false) :
    x.toFloat.toModel.unpack = UnpackedFloat.unpack Format.binary64 x.word := by
  have hbits := toBits_toFloat x
  rw [hx] at hbits
  exact congrArg (UnpackedFloat.unpack Format.binary64) hbits

theorem compare_toFloat (hx : x.isNaN = false) (hy : y.isNaN = false) :
    x.toFloat.toModel.compare y.toFloat.toModel =
      some ((NumberRank.ofDouble x).compare (.ofDouble y)) := by
  rw [Float.Model.compare, unpack_toFloat hx, unpack_toFloat hy]
  exact (stands_unpack hx).compare_eq (stands_unpack hy)

theorem lt_toFloat_iff (x y : Double) :
    x.toFloat < y.toFloat ↔ x.toFloat.toModel.compare y.toFloat.toModel = some .lt :=
  decide_eq_true_iff.trans beq_iff_eq

theorem beq_toFloat_iff (x y : Double) :
    (x.toFloat == y.toFloat) = true ↔ x.toFloat.toModel.compare y.toFloat.toModel = some .eq :=
  Iff.trans Iff.rfl (beq_iff_eq (a := x.toFloat.toModel.compare y.toFloat.toModel))

/-- **The order of doubles is the order of numbers.** -/
theorem compare?_eq (hx : x.isNaN = false) (hy : y.isNaN = false) :
    x.compare? y = some ((NumberRank.ofDouble x).compare (.ofDouble y)) := by
  have hswap : (NumberRank.ofDouble x).compare (.ofDouble y) =
      ((NumberRank.ofDouble y).compare (.ofDouble x)).swap := (NumberRank.swap_compare _ _).symm
  unfold compare?
  simp only [lt_toFloat_iff, beq_toFloat_iff, compare_toFloat hx hy, compare_toFloat hy hx,
    Option.some.injEq, hswap]
  cases (NumberRank.ofDouble y).compare (.ofDouble x) <;> rfl

/-- Two doubles are the same number when they have the same place. -/
theorem sameNumber_iff_ofDouble_eq (hx : x.isNaN = false) (hy : y.isNaN = false) :
    x.sameNumber y = true ↔ NumberRank.ofDouble x = .ofDouble y := by
  rw [sameNumber, beq_toFloat_iff, compare_toFloat hx hy, Option.some.injEq,
    NumberRank.compare_eq_eq_iff]

/-! ## Rounding keeps the order -/

theorem roundQuotient_le (num den : Nat) : roundQuotient num den ≤ num / den + 1 := by
  unfold roundQuotient
  simp only
  split <;> omega

theorem le_roundQuotient (num den : Nat) : num / den ≤ roundQuotient num den := by
  unfold roundQuotient
  simp only
  split <;> omega

theorem roundQuotient_mono {a b : Nat} (den : Nat) (h : a ≤ b) :
    roundQuotient a den ≤ roundQuotient b den := by
  rcases Nat.lt_or_ge (a / den) (b / den) with hlt | hge
  · exact (roundQuotient_le a den).trans (Nat.le_trans hlt (le_roundQuotient b den))
  · -- the same whole part, so the remainders decide
    have hquot : a / den = b / den := Nat.le_antisymm (Nat.div_le_div_right h) hge
    have ha := Nat.div_add_mod a den
    have hb := Nat.div_add_mod b den
    unfold roundQuotient
    simp only
    rw [hquot] at ha ⊢
    generalize den * (b / den) = whole at ha hb
    split <;> split <;> omega

/-- How far the significand of a number of units is shifted. -/
def roundingShift (n : Nat) : Nat := n.log2 - 52

/-- The significand that a number of units rounds to. -/
def rounded (n : Nat) : Nat := roundQuotient n (2 ^ roundingShift n)

theorem lt_mul_pow_roundingShift (n : Nat) : n < 2 ^ 53 * 2 ^ roundingShift n := by
  calc n < 2 ^ (n.log2 + 1) := Nat.lt_log2_self
    _ ≤ 2 ^ (53 + roundingShift n) := by
      refine Nat.pow_le_pow_right Nat.two_pos ?_
      unfold roundingShift
      omega
    _ = 2 ^ 53 * 2 ^ roundingShift n := Nat.pow_add 2 53 _

theorem mul_pow_roundingShift_le {n : Nat} (h : 0 < roundingShift n) :
    2 ^ 52 * 2 ^ roundingShift n ≤ n := by
  have hlog : 52 + roundingShift n = n.log2 := by
    unfold roundingShift at h ⊢
    omega
  have hn : n ≠ 0 := by
    rintro rfl
    exact absurd h (by decide)
  rw [← Nat.pow_add, hlog]
  exact Nat.log2_self_le hn

theorem rounded_le (n : Nat) : rounded n ≤ 2 ^ 53 := by
  have hlt : n / 2 ^ roundingShift n < 2 ^ 53 :=
    (Nat.div_lt_iff_lt_mul (Nat.two_pow_pos _)).2 (lt_mul_pow_roundingShift n)
  exact (roundQuotient_le n _).trans hlt

theorem le_rounded {n : Nat} (h : 0 < roundingShift n) : 2 ^ 52 ≤ rounded n := by
  have hle : 2 ^ 52 ≤ n / 2 ^ roundingShift n :=
    (Nat.le_div_iff_mul_le (Nat.two_pow_pos _)).2 (mul_pow_roundingShift_le h)
  exact hle.trans (le_roundQuotient n _)

/-- The bits of what a number of units rounds to: the shift, and the significand or the power of two
after it. -/
theorem bitsOfRatio_one (n : Nat) :
    bitsOfRatio n 1 = min (roundingShift n * 2 ^ 52 + rounded n) infinity.bits.toNat := by
  have hshift : (n / 1).log2 - 52 = roundingShift n := by rw [Nat.div_one, roundingShift]
  have hrounded : roundQuotient n (1 * 2 ^ roundingShift n) = rounded n := by
    rw [Nat.one_mul, rounded]
  rw [bitsOfRatio_eq hshift hrounded]
  congr 1
  rcases Nat.lt_or_eq_of_le (rounded_le n) with hlt | heq
  · exact bitsOfMagnitude_mul le_rounded hlt
  · rw [heq, show 2 ^ 53 * 2 ^ roundingShift n = 2 ^ 52 * 2 ^ (roundingShift n + 1) by ring,
      bitsOfMagnitude_mul (fun _ => Nat.le_refl _) (by decide)]
    omega

/-- **Rounding is monotone.** -/
theorem bitsOfRatio_mono {a b : Nat} (h : a ≤ b) : bitsOfRatio a 1 ≤ bitsOfRatio b 1 := by
  have hshift : roundingShift a ≤ roundingShift b := by
    unfold roundingShift
    rw [Nat.log2_eq_log_two, Nat.log2_eq_log_two]
    exact Nat.sub_le_sub_right (Nat.log_mono_right h) 52
  rw [bitsOfRatio_one, bitsOfRatio_one]
  refine min_le_min_right _ ?_
  rcases Nat.lt_or_eq_of_le hshift with hlt | heq
  · have ha := rounded_le a
    have hb := le_rounded (Nat.zero_lt_of_lt hlt)
    omega
  · have hrounded : rounded a ≤ rounded b := by
      rw [rounded, rounded, heq]
      exact roundQuotient_mono _ h
    omega

/-- A double is what its own magnitude rounds to. -/
theorem bitsOfRatio_magnitude (hx : x.isFinite) : bitsOfRatio x.magnitude 1 = x.magnitudeBits := by
  have hnear : Near x.significand x.shift x.magnitude 1 := by
    have hstep := Nat.two_pow_pos x.shift
    have hmagnitude : x.magnitude = x.significand * 2 ^ x.shift := rfl
    constructor <;> simp only [Nat.one_mul, hmagnitude] <;> omega
  rw [bitsOfRatio_of_near Nat.one_pos le_significand x.significand_lt hnear,
    ← x.magnitudeBits_eq_shift]
  exact Nat.min_eq_left (Nat.le_of_lt (magnitudeBits_lt_infinity hx))

theorem magnitude_eq_of_magnitudeBits_eq (h : x.magnitudeBits = y.magnitudeBits) :
    x.magnitude = y.magnitude := by
  unfold magnitude significand shift fraction exponentField
  rw [h]

/-- Fewer bits, read as a number, are a smaller magnitude. -/
theorem magnitude_le_of_magnitudeBits_le (hx : x.isFinite) (hy : y.isFinite)
    (h : x.magnitudeBits ≤ y.magnitudeBits) : x.magnitude ≤ y.magnitude := by
  by_contra hlt
  have hbits := bitsOfRatio_mono (Nat.le_of_not_le hlt)
  rw [bitsOfRatio_magnitude hx, bitsOfRatio_magnitude hy] at hbits
  exact hlt (magnitude_eq_of_magnitudeBits_eq (Nat.le_antisymm h hbits)).le

/-! ## Integers as doubles -/

theorem bitsOfRatio_le (num den : Nat) : bitsOfRatio num den ≤ 2047 * 2 ^ 52 := Nat.min_le_right _ _

theorem toNat_bits_ofRatio (negative : Bool) (num den : Nat) :
    (ofRatio negative num den).bits.toNat =
      (if negative then 2 ^ 63 else 0) + bitsOfRatio num den := by
  have hle := bitsOfRatio_le num den
  refine UInt64.toNat_ofNat_of_lt' ?_
  change (if negative then 2 ^ 63 else 0) + _ < 2 ^ 64
  split <;> omega

theorem magnitudeBits_ofRatio (negative : Bool) (num den : Nat) :
    (ofRatio negative num den).magnitudeBits = bitsOfRatio num den := by
  have hle := bitsOfRatio_le num den
  rw [magnitudeBits, toNat_bits_ofRatio, Nat.pow_eq]
  split <;> omega

theorem isNegative_ofRatio (negative : Bool) (num den : Nat) :
    (ofRatio negative num den).isNegative = negative := by
  have hle := bitsOfRatio_le num den
  rw [isNegative, toNat_bits_ofRatio, Nat.pow_eq]
  cases negative with
  | true => exact decide_eq_true (by simp)
  | false => exact decide_eq_false (by simp; omega)

variable {n : Int}

theorem isFinite_ofInt (hn : n.natAbs ≤ 2 ^ 63) : (ofInt n).isFinite := by
  have hbound : IsWhole (ofInt ↑(1 * 2 ^ 63)) (1 * 2 ^ 63) :=
    isWhole_ofInt Nat.one_pos (by decide) (by decide)
  have hbits : (ofInt n).magnitudeBits < 2047 * 2 ^ 52 := by
    rw [ofInt, magnitudeBits_ofRatio]
    refine Nat.lt_of_le_of_lt (bitsOfRatio_mono (b := 1 * 2 ^ 63 * one) ?_) ?_
    · exact Nat.mul_le_mul_right one (by omega)
    · rw [← hbound.magnitude, bitsOfRatio_magnitude hbound.finite]
      exact magnitudeBits_lt_infinity hbound.finite
  refine decide_eq_true ?_
  rw [exponentField, Nat.pow_eq]
  omega

theorem magnitude_ofInt_le (hn : n.natAbs ≤ 2 ^ 63) (hx : x.isFinite)
    (h : n.natAbs * one ≤ x.magnitude) : (ofInt n).magnitude ≤ x.magnitude := by
  refine magnitude_le_of_magnitudeBits_le (isFinite_ofInt hn) hx ?_
  rw [ofInt, magnitudeBits_ofRatio, ← bitsOfRatio_magnitude hx]
  exact bitsOfRatio_mono h

theorem le_magnitude_ofInt (hn : n.natAbs ≤ 2 ^ 63) (hx : x.isFinite)
    (h : x.magnitude ≤ n.natAbs * one) : x.magnitude ≤ (ofInt n).magnitude := by
  refine magnitude_le_of_magnitudeBits_le hx (isFinite_ofInt hn) ?_
  rw [ofInt, magnitudeBits_ofRatio, ← bitsOfRatio_magnitude hx]
  exact bitsOfRatio_mono h

/-- The place of the double nearest to an integer. -/
theorem ofDouble_ofInt (hn : n.natAbs ≤ 2 ^ 63) : NumberRank.ofDouble (ofInt n) =
    .finite (if n < 0 then -((ofInt n).magnitude : Int) else (ofInt n).magnitude) := by
  have hsign : (ofInt n).isNegative = decide (n < 0) := isNegative_ofRatio _ _ _
  rw [ofDouble_of_isFinite (isFinite_ofInt hn), sign, hsign]
  by_cases h : n < 0 <;> simp [h, Sign.apply]

/-- A double on one side of an integer is on the same side of what the integer rounds to, or is
that. -/
theorem ofInt_sided (hn : n.natAbs ≤ 2 ^ 63) (hx : x.isFinite) {r u : Int}
    (hr : NumberRank.ofDouble (ofInt n) = .finite r) (hu : NumberRank.ofDouble x = .finite u) :
    (n * one ≤ u → r ≤ u) ∧ (u ≤ n * one → u ≤ r) := by
  have hle := magnitude_ofInt_le hn hx
  have hge := le_magnitude_ofInt hn hx
  have habs : ((n.natAbs * one : Nat) : Int) = if n < 0 then -(n * one) else n * one := by
    rw [Int.natCast_mul]
    split
    · rw [Int.ofNat_natAbs_of_nonpos (by omega), Int.neg_mul]
    · rw [Int.natAbs_of_nonneg (by omega)]
  rw [ofDouble_ofInt hn, NumberRank.finite.injEq] at hr
  rw [ofDouble_of_isFinite hx, NumberRank.finite.injEq, sign] at hu
  generalize n.natAbs * one = a at hle hge habs
  generalize n * (one : Int) = e at habs ⊢
  -- four cases of signs, in each of them the magnitudes decide
  subst hr hu
  cases x.isNegative <;> by_cases hneg : n < 0 <;>
    simp only [hneg, Bool.false_eq_true, if_true, if_false, Sign.apply] at habs ⊢ <;> omega

/-- **No double lies between an integer and what it rounds to.** An integer compares with a double
as the double nearest to it does, unless that is the double itself. -/
theorem compare_ofInt (hn : n.natAbs ≤ 2 ^ 63) (hx : x.isNaN = false) :
    (NumberRank.ofDouble (ofInt n)).compare (.ofDouble x) =
      if NumberRank.ofDouble (ofInt n) = .ofDouble x then .eq
      else (NumberRank.finite (n * one)).compare (.ofDouble x) := by
  by_cases heq : NumberRank.ofDouble (ofInt n) = .ofDouble x
  · rw [if_pos heq, NumberRank.compare_eq_eq_iff.2 heq]
  rw [if_neg heq]
  cases hfinite : x.isFinite with
  | false =>
    have hplace : NumberRank.ofDouble x = if x.isNegative then .negInfinite else .posInfinite := by
      simp [NumberRank.ofDouble, units?, hfinite, hx]
    rw [hplace, ofDouble_ofInt hn]
    cases x.isNegative <;> rfl
  | true =>
    have hr := ofDouble_ofInt hn
    have hu := ofDouble_of_isFinite hfinite
    obtain ⟨hle, hge⟩ := ofInt_sided hn hfinite hr hu
    rw [hr, hu, NumberRank.finite.injEq] at heq
    rw [hr, hu]
    exact compare_congr (by omega) (by omega)

theorem isNaN_eq_false_of_ofDouble {u : Int} (h : NumberRank.ofDouble x = .finite u) :
    x.isNaN = false := by
  cases hfinite : x.isFinite with
  | true => exact not_isNaN hfinite
  | false =>
    by_contra hnan
    rw [Bool.not_eq_false] at hnan
    simp [NumberRank.ofDouble, units?, hfinite, hnan] at h

/-- An integer that is a double rounds to it. -/
theorem ofDouble_ofInt_of_eq (hn : n.natAbs ≤ 2 ^ 63)
    (hx : NumberRank.ofDouble x = .finite (n * one)) :
    NumberRank.ofDouble (ofInt n) = .ofDouble x := by
  by_contra hne
  have hcompare := compare_ofInt hn (isNaN_eq_false_of_ofDouble hx)
  rw [if_neg hne, hx, NumberRank.compare_eq_eq_iff.2 rfl, ← hx,
    NumberRank.compare_eq_eq_iff] at hcompare
  exact hne hcompare

theorem magnitude_ofInt_natAbs (n : Int) : (ofInt n.natAbs).magnitude = (ofInt n).magnitude := by
  refine magnitude_eq_of_magnitudeBits_eq ?_
  rw [ofInt, ofInt, magnitudeBits_ofRatio, magnitudeBits_ofRatio, Int.natAbs_natCast]

/-- Integers up to `2 ^ 53` are doubles. -/
theorem ofDouble_ofInt_of_le (hn : n.natAbs ≤ 2 ^ 53) :
    NumberRank.ofDouble (ofInt n) = .finite (n * one) := by
  have hmagnitude : (ofInt n).magnitude = n.natAbs * one := by
    obtain hzero | hpos := Nat.eq_zero_or_pos n.natAbs
    · have hle := magnitude_ofInt_le (x := zero) (n := n) (by omega) rfl
      rw [hzero, Nat.zero_mul] at hle ⊢
      exact Nat.le_zero.1 (hle (Nat.zero_le _))
    · rw [← magnitude_ofInt_natAbs]
      obtain hlt | heq := Nat.lt_or_eq_of_le hn
      · have hwhole := isWhole_ofInt hpos hlt (Nat.zero_le 900)
        rw [Nat.pow_zero, Nat.mul_one] at hwhole
        exact hwhole.magnitude
      · have hwhole := isWhole_ofInt (b := 53) Nat.one_pos (by decide) (by decide)
        rw [Nat.one_mul, ← heq] at hwhole
        exact hwhole.magnitude
  rw [ofDouble_ofInt (by omega), hmagnitude, Int.natCast_mul]
  congr 1
  split
  · rw [Int.ofNat_natAbs_of_nonpos (by omega), Int.neg_mul, Int.neg_neg]
  · rw [Int.natAbs_of_nonneg (by omega)]

end Double
end TableScript
