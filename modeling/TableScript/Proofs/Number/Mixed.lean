import TableScript.Proofs.Number.Order
import TableScript.Value.Order

/-!
# Integers beside doubles

Sorting compares two integers, two doubles, and an integer with a double, each in a way of its own.
All three compare places.

1. Two doubles are compared by the machine, and NaN is put last (`order_eq`);
2. a double that is not beyond the integers has a whole part that is an integer and a double
   (`toInt_toWord`, `ofDouble_ofInt_tdiv`). Comparing whole parts first and what follows the point
   second is comparing the numbers (`compare_mul_eq`), and the rest that subtracting leaves has the
   sign of the exact rest (`compare?_zero_sub`);
3. so an integer and a double are compared by their places (`orderInt_eq`).
-/

namespace TableScript

theorem Int64.natAbs_toInt_le (n : Int64) : n.toInt.natAbs ≤ 2 ^ 63 := by
  have hlow := n.le_toInt
  have hhigh := n.toInt_lt
  omega

namespace Double

open Float.Model UnpackedFloat

variable {x y : Double} {a b u : Int}

/-- Integers are in the order of their places. -/
theorem compare_toInt (m n : Int64) :
    compare m.toInt n.toInt = (NumberRank.ofInt m).compare (.ofInt n) := by
  have hone : (0 : Int) < one := Int.natCast_pos.2 one_pos
  exact compare_congr (Int.mul_lt_mul_right hone).symm (Int.mul_lt_mul_right hone).symm

/-! ## Two doubles -/

theorem ofDouble_eq_nan_iff : NumberRank.ofDouble x = .nan ↔ x.isNaN = true := by
  constructor
  · intro h
    by_contra hx
    rw [Bool.not_eq_true] at hx
    unfold NumberRank.ofDouble at h
    rw [hx, if_neg Bool.false_ne_true] at h
    split at h
    · cases h
    · split at h <;> cases h
  · intro hx
    have hfinite : x.isFinite = false := by
      by_contra h
      rw [not_isNaN (Bool.not_eq_false _ ▸ h)] at hx
      cases hx
    simp [NumberRank.ofDouble, units?, hfinite, hx]

/-- **Doubles are ordered by their places.** -/
theorem order_eq (x y : Double) :
    x.order y = (NumberRank.ofDouble x).compare (.ofDouble y) := by
  unfold order
  cases hx : x.isNaN <;> cases hy : y.isNaN
  case false.false =>
    simp only
    rw [compare?_eq hx hy, Option.getD_some]
  case false.true =>
    have hne : NumberRank.ofDouble x ≠ .nan := by simp [ofDouble_eq_nan_iff, hx]
    rw [ofDouble_eq_nan_iff.2 hy]
    cases hplace : NumberRank.ofDouble x <;> first | rfl | exact absurd hplace hne
  case true.false =>
    have hne : NumberRank.ofDouble y ≠ .nan := by simp [ofDouble_eq_nan_iff, hy]
    rw [ofDouble_eq_nan_iff.2 hx]
    cases hplace : NumberRank.ofDouble y <;> first | rfl | exact absurd hplace hne
  case true.true =>
    rw [ofDouble_eq_nan_iff.2 hx, ofDouble_eq_nan_iff.2 hy]
    rfl

/-! ## What is left after the whole part -/

theorem isNegative_neg (x : Double) : (-x).isNegative = !x.isNegative := by
  have hlt := x.bits.toNat_lt
  have hbits : (-x).bits.toNat = (x.bits.toNat + 2 ^ 63) % 2 ^ 64 := UInt64.toNat_add _ _
  unfold isNegative
  rw [hbits, Nat.pow_eq, ← decide_not, decide_eq_decide]
  omega

theorem magnitudeBits_neg (x : Double) : (-x).magnitudeBits = x.magnitudeBits := by
  have hlt := x.bits.toNat_lt
  have hbits : (-x).bits.toNat = (x.bits.toNat + 2 ^ 63) % 2 ^ 64 := UInt64.toNat_add _ _
  unfold magnitudeBits
  rw [hbits, Nat.pow_eq]
  omega

theorem units?_neg (hx : x.units? = some u) : (-x).units? = some (-u) := by
  have hfinite : (-x).isFinite = x.isFinite := by
    unfold isFinite exponentField
    rw [magnitudeBits_neg]
  have hmagnitude := magnitude_eq_of_magnitudeBits_eq (magnitudeBits_neg x)
  unfold units? at hx ⊢
  rw [hfinite, hmagnitude, isNegative_neg]
  split at hx
  · rename_i h
    rw [if_pos h, ← Option.some.inj hx]
    cases x.isNegative <;> simp
  · cases hx

/-- A small number of units rounds to a finite number of the same sign. -/
theorem ofDouble_ofRatio (negative : Bool) {n : Nat} (hpos : 0 < n) (hle : n ≤ one) :
    ∃ m : Nat, 0 < m ∧
      NumberRank.ofDouble (ofRatio negative n 1) = .finite (if negative then -m else m) := by
  have hlow : 1 ≤ bitsOfRatio n 1 := by
    have hone : bitsOfRatio 1 1 = 1 := by decide +kernel
    rw [← hone]
    exact bitsOfRatio_mono hpos
  have hhigh : bitsOfRatio n 1 ≤ 1023 * 2 ^ 52 := by
    have hone : bitsOfRatio one 1 = 1023 * 2 ^ 52 := by decide +kernel
    rw [← hone]
    exact bitsOfRatio_mono hle
  have hbits := magnitudeBits_ofRatio negative n 1
  have hfinite : (ofRatio negative n 1).isFinite := by
    refine decide_eq_true ?_
    rw [exponentField, Nat.pow_eq]
    omega
  refine ⟨(ofRatio negative n 1).magnitude, ?_, ?_⟩
  · refine Nat.pos_of_ne_zero fun hzero => ?_
    have := magnitudeBits_eq_zero hzero
    omega
  · rw [ofDouble_of_isFinite hfinite, sign, isNegative_ofRatio]
    cases negative <;> rfl

/-- The difference of close numbers has the sign of the exact difference. -/
theorem compare?_zero_sub (hx : NumberRank.ofDouble x = .finite a)
    (hy : NumberRank.ofDouble y = .finite b) (hclose : (a - b).natAbs ≤ one) :
    zero.compare? (x - y) = some (compare 0 (a - b)) := by
  have hsub : x - y = if a - b = 0 then withSign (x.isNegative && (-y).isNegative) zero
      else ofRatio (a - b < 0) (a - b).natAbs 1 := by
    change (if y.isNaN then nanOf x y else x.add (-y)) = _
    rw [isNaN_eq_false_of_ofDouble hy, if_neg Bool.false_ne_true, add, units?_eq_some_iff.2 hx,
      units?_neg (units?_eq_some_iff.2 hy)]
    rfl
  rw [hsub]
  by_cases hzero : a - b = 0
  · rw [if_pos hzero, hzero]
    cases x.isNegative && (-y).isNegative <;> decide +kernel
  · rw [if_neg hzero]
    obtain ⟨m, hm, hplace⟩ := ofDouble_ofRatio (a - b < 0) (Int.natAbs_pos.2 hzero) hclose
    rw [compare?_eq rfl (isNaN_eq_false_of_ofDouble hplace), hplace]
    have hzero : NumberRank.ofDouble zero = .finite 0 := by decide +kernel
    rw [hzero]
    refine congrArg some (compare_congr ?_ ?_) <;> by_cases hneg : a - b < 0 <;>
      simp [hneg] <;> omega

/-- Whole parts first, then what is left. -/
theorem compare_mul_eq (n u : Int) {d : Int} (hd : 0 < d) :
    compare (n * d) u = (compare n (u.tdiv d)).then (compare 0 (u - u.tdiv d * d)) := by
  have hlow : -d < u.tmod d := Int.lt_tmod_of_pos u hd
  have hhigh : u.tmod d < d := Int.tmod_lt_of_pos u hd
  have hsplit : u.tdiv d * d + u.tmod d = u := Int.tdiv_mul_add_tmod u d
  generalize u.tdiv d = w at hsplit ⊢
  rcases lt_trichotomy n w with h | rfl | h
  · have hstep : (n + 1) * d ≤ w * d := Int.mul_le_mul_of_nonneg_right h hd.le
    rw [Int.add_mul, Int.one_mul] at hstep
    rw [compare_lt_iff_lt.2 h, compare_lt_iff_lt.2 (show n * d < u by omega)]
    rfl
  · rw [compare_eq_iff_eq.2 (rfl : n = n)]
    exact compare_congr (by omega) (by omega)
  · have hstep : (w + 1) * d ≤ n * d := Int.mul_le_mul_of_nonneg_right h hd.le
    rw [Int.add_mul, Int.one_mul] at hstep
    rw [compare_gt_iff_gt.2 h, compare_gt_iff_gt.2 (show u < n * d by omega)]
    rfl

/-! ## Whole parts -/

theorem eq_of_ofDouble (hx : NumberRank.ofDouble x = .finite u) :
    u = if x.isNegative then -(x.magnitude : Int) else x.magnitude := by
  have hunits := units?_eq_some_iff.2 hx
  unfold units? at hunits
  split at hunits
  · exact (Option.some.inj hunits).symm
  · cases hunits

/-- A double that is no integer is below `2 ^ 53`. -/
theorem natAbs_lt_of_not_dvd (hx : NumberRank.ofDouble x = .finite u) (hu : ¬ (one : Int) ∣ u) :
    u.natAbs < 2 ^ 53 * one := by
  have habs : u.natAbs = x.magnitude := by
    rw [eq_of_ofDouble hx]
    split <;> omega
  rw [habs, magnitude, Nat.pow_eq, one_eq]
  rcases Nat.lt_or_ge x.shift scale with hlt | hge
  · calc x.significand * 2 ^ x.shift < 2 ^ 53 * 2 ^ x.shift :=
          Nat.mul_lt_mul_of_pos_right x.significand_lt (Nat.two_pow_pos _)
      _ ≤ 2 ^ 53 * 2 ^ scale :=
          Nat.mul_le_mul_left _ (Nat.pow_le_pow_right Nat.two_pos hlt.le)
  · -- a shift of at least one is a whole number of ones
    refine absurd ?_ hu
    rw [Int.natCast_dvd, habs, magnitude, Nat.pow_eq, one_eq]
    exact (Nat.pow_dvd_pow 2 hge).mul_left _

/-- The whole part of a double that is not beyond the integers is a double. -/
theorem ofDouble_ofInt_tdiv (hx : NumberRank.ofDouble x = .finite u)
    (hu : u.natAbs ≤ 2 ^ 63 * one) :
    NumberRank.ofDouble (ofInt (u.tdiv one)) = .finite (u.tdiv one * one) := by
  have hone : (0 : Int) < one := Int.natCast_pos.2 one_pos
  by_cases hwhole : (one : Int) ∣ u
  · have hself : u.tdiv one * one = u := Int.tdiv_mul_cancel hwhole
    rw [hself, ← hx]
    refine ofDouble_ofInt_of_eq ?_ (hself.symm ▸ hx)
    rw [Int.natAbs_tdiv, Int.natAbs_natCast]
    exact Nat.div_le_of_le_mul (Nat.mul_comm _ _ ▸ hu)
  · refine ofDouble_ofInt_of_le ?_
    rw [Int.natAbs_tdiv, Int.natAbs_natCast]
    exact (Nat.div_lt_of_lt_mul (Nat.mul_comm _ _ ▸ natAbs_lt_of_not_dvd hx hwhole)).le

/-- Dropping what follows the point stays between bounds that are whole. -/
theorem tdiv_mem {b d u : Int} (hd : 0 < d) (hb : 0 < b) (hlow : -(b * d) ≤ u) (hhigh : u < b * d) :
    -b ≤ u.tdiv d ∧ u.tdiv d < b := by
  rcases le_or_gt 0 u with hu | hu
  · rw [Int.tdiv_eq_ediv_of_nonneg hu]
    have hquot := Int.ediv_nonneg hu hd.le
    exact ⟨by omega, Int.ediv_lt_of_lt_mul hd hhigh⟩
  · have hneg : u.tdiv d = -(-u / d) := by
      rw [← Int.tdiv_eq_ediv_of_nonneg (by omega), Int.neg_tdiv, Int.neg_neg]
    have hquot : 0 ≤ -u / d := Int.ediv_nonneg (by omega) hd.le
    have hle : -u / d ≤ b := Int.ediv_le_of_le_mul hd (by omega)
    rw [hneg]
    omega

theorem toInt_toWord (hx : NumberRank.ofDouble x = .finite u) (hlow : -(2 ^ 63 * one) ≤ u)
    (hhigh : u < 2 ^ 63 * one) : x.toWord.toInt = u.tdiv one := by
  have hone : (0 : Int) < one := Int.natCast_pos.2 one_pos
  obtain ⟨hlow, hhigh⟩ := tdiv_mem hone (by decide : (0 : Int) < 2 ^ 63) hlow hhigh
  have htruncate : x.truncate? = some (u.tdiv one) := by
    rw [truncate?, units?_eq_some_iff.2 hx]
    rfl
  have hmin : Int64.minValue.toInt = -2 ^ 63 := rfl
  have hmax : Int64.maxValue.toInt = 2 ^ 63 - 1 := rfl
  rw [toWord, htruncate]
  change (clampWord (u.tdiv one)).toInt = _
  rw [clampWord, hmin, hmax, if_neg (by omega), if_neg (by omega)]
  exact Int64.toInt_ofInt_of_le hlow hhigh

/-! ## An integer and a double -/

theorem orderWhole_eq (n : Int64) (hx : NumberRank.ofDouble x = .finite u)
    (hlow : -(2 ^ 63 * one) ≤ u) (hhigh : u < 2 ^ 63 * one) :
    orderWhole n x = compare (n.toInt * one) u := by
  have hone : (0 : Int) < one := Int.natCast_pos.2 one_pos
  have hwhole := ofDouble_ofInt_tdiv hx (by omega)
  have hclose : (u - u.tdiv one * one).natAbs ≤ one := by
    have hlow := Int.lt_tmod_of_pos u hone
    have hhigh := Int.tmod_lt_of_pos u hone
    have hsplit := Int.tdiv_mul_add_tmod u one
    omega
  rw [compare_mul_eq n.toInt u hone]
  unfold orderWhole
  dsimp only
  rw [toInt_toWord hx hlow hhigh, compare?_zero_sub hx hwhole hclose, Option.getD_some]

/-- **An integer and a double are ordered by their places.** -/
theorem orderInt_eq (n : Int64) (x : Double) :
    orderInt n x = (NumberRank.ofInt n).compare (.ofDouble x) := by
  have hbound : NumberRank.ofDouble wordBound = .finite (2 ^ 63 * one) := by decide +kernel
  have hbound' : NumberRank.ofDouble (-wordBound) = .finite (-(2 ^ 63 * one)) := by
    decide +kernel
  have hn : -(2 ^ 63 * one) ≤ n.toInt * one ∧ n.toInt * one < 2 ^ 63 * one := by
    have hone : (0 : Int) < one := Int.natCast_pos.2 one_pos
    rw [← Int.neg_mul]
    exact ⟨Int.mul_le_mul_of_nonneg_right n.le_toInt hone.le,
      Int.mul_lt_mul_of_pos_right n.toInt_lt hone⟩
  unfold orderInt
  split
  · rename_i hnan
    rw [ofDouble_eq_nan_iff.2 hnan]
    rfl
  · rename_i hnan
    rw [Bool.not_eq_true] at hnan
    rw [compare?_eq hnan (isNaN_eq_false_of_ofDouble hbound),
      compare?_eq hnan (isNaN_eq_false_of_ofDouble hbound'), hbound, hbound']
    cases hx : NumberRank.ofDouble x with
    | nan => exact absurd (ofDouble_eq_nan_iff.1 hx) (Bool.eq_false_iff.1 hnan)
    | negInfinite => rfl
    | posInfinite => rfl
    | finite u =>
      simp only [NumberRank.compare, NumberRank.ofInt, Option.some.injEq, compare_lt_iff_lt, ne_eq]
      split
      · exact (compare_gt_iff_gt.2 (by omega)).symm
      · split
        · exact (compare_lt_iff_lt.2 (by omega)).symm
        · exact orderWhole_eq n hx (by omega) (by omega)

end Double
end TableScript
