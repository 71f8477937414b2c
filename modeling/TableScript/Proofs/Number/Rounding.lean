import Mathlib.Tactic.Linarith
import Mathlib.Tactic.Ring
import TableScript.Number.Shortest

/-!
# Rounding to doubles

`ofRatio` gives back a finite double from every fraction in its rounding interval, its ends
included when the significand is even. So an operation on doubles whose exact result lies in the
interval of a double gives that double.
-/

namespace TableScript.Double

/-! ## Quotients -/

/-- A quotient within half of an integer rounds to it; at exactly half the integer has to be
even. -/
theorem roundQuotient_eq {num den m : Nat} (hden : 0 < den) (hlow : 2 * (m * den) ≤ 2 * num + den)
    (hhigh : 2 * num ≤ 2 * (m * den) + den)
    (htie : 2 * (m * den) = 2 * num + den ∨ 2 * num = 2 * (m * den) + den → m % 2 = 0) :
    roundQuotient num den = m := by
  have hnum : num / den * den + num % den = num := by
    rw [Nat.mul_comm]
    exact Nat.div_add_mod num den
  have hrem := Nat.mod_lt num hden
  unfold roundQuotient
  simp only
  generalize num / den = q at hnum ⊢
  generalize num % den = r at hnum hrem ⊢
  have hle : q ≤ m := by
    by_contra hlt
    have := Nat.mul_le_mul_right den (Nat.lt_of_not_le hlt)
    rw [Nat.succ_mul] at this
    omega
  have hge : m ≤ q + 1 := by
    by_contra hlt
    have := Nat.mul_le_mul_right den (Nat.lt_of_not_le hlt)
    rw [Nat.succ_mul, Nat.succ_mul] at this
    omega
  obtain rfl | rfl : m = q ∨ m = q + 1 := by omega
  · rw [if_pos]
    omega
  · rw [Nat.succ_mul q] at hlow hhigh htie
    rw [if_neg]
    omega

/-! ## Bits -/

variable {x : Double}

theorem magnitudeBits_eq (x : Double) :
    x.magnitudeBits = x.exponentField * 2 ^ 52 + x.fraction := by
  have := Nat.div_add_mod x.magnitudeBits (Nat.pow 2 52)
  rw [exponentField, fraction, Nat.mul_comm]
  exact this.symm

theorem fraction_lt (x : Double) : x.fraction < 2 ^ 52 := Nat.mod_lt _ (by decide)

/-- Significand and shift of a double: the significand has fifty-three bits, the leading one set
unless the shift is none. -/
theorem significand_lt (x : Double) : x.significand < 2 ^ 53 := by
  have := x.fraction_lt
  unfold significand
  split
  · omega
  · change x.fraction + 2 ^ 52 < 2 ^ 53
    omega

theorem le_significand (h : 0 < x.shift) : 2 ^ 52 ≤ x.significand := by
  have hfield : ¬x.exponentField = 0 := by
    unfold shift at h
    omega
  rw [significand, if_neg hfield]
  exact Nat.le_add_left _ _

theorem magnitudeBits_eq_shift (x : Double) :
    x.magnitudeBits = x.shift * 2 ^ 52 + x.significand := by
  rw [x.magnitudeBits_eq]
  unfold significand shift
  split
  · omega
  · change _ = _ + (x.fraction + 2 ^ 52)
    omega

theorem significand_pos (h : x.magnitude ≠ 0) : 0 < x.significand := by
  refine Nat.pos_of_ne_zero fun hzero => h ?_
  rw [magnitude, hzero, Nat.zero_mul]

theorem magnitudeBits_eq_zero (h : x.magnitude = 0) : x.magnitudeBits = 0 := by
  have hsignificand : x.significand = 0 :=
    (Nat.mul_eq_zero.1 h).resolve_right (Nat.ne_of_gt (Nat.two_pow_pos x.shift))
  have hshift : ¬0 < x.shift := fun hpos => by
    have := le_significand hpos
    omega
  have := x.magnitudeBits_eq_shift
  omega

theorem log2_eq_of_le_of_lt {n k : Nat} (hlow : 2 ^ k ≤ n) (hhigh : n < 2 ^ (k + 1)) :
    n.log2 = k := by
  have hne : n ≠ 0 := Nat.ne_of_gt (Nat.lt_of_lt_of_le (Nat.two_pow_pos k) hlow)
  have hle := (Nat.le_log2 hne).2 hlow
  have hlt := (Nat.log2_lt hne).2 hhigh
  omega

theorem log2_mul_pow {m s : Nat} (hlow : 2 ^ 52 ≤ m) (hhigh : m < 2 ^ 53) :
    (m * 2 ^ s).log2 = 52 + s := by
  refine log2_eq_of_le_of_lt ?_ ?_
  · rw [Nat.pow_add]
    exact Nat.mul_le_mul_right _ hlow
  · rw [Nat.add_right_comm, Nat.pow_add]
    exact Nat.mul_lt_mul_of_pos_right hhigh (Nat.two_pow_pos s)

/-- The bits of a distance from zero given by significand and shift. -/
theorem bitsOfMagnitude_mul {m s : Nat} (hlow : 0 < s → 2 ^ 52 ≤ m) (hhigh : m < 2 ^ 53) :
    bitsOfMagnitude (m * 2 ^ s) = s * 2 ^ 52 + m := by
  obtain rfl | hs := Nat.eq_zero_or_pos s
  · rw [Nat.pow_zero, Nat.mul_one, Nat.zero_mul, Nat.zero_add]
    exact if_pos hhigh
  · have hm := hlow hs
    have hsum : (s + 1) * 2 ^ 52 + (m - 2 ^ 52) = s * 2 ^ 52 + m := by omega
    have hlarge : ¬m * 2 ^ s < 2 ^ 53 := by
      have htwo := Nat.pow_le_pow_right (show 0 < 2 by decide) hs
      have := Nat.mul_le_mul hm htwo
      omega
    have hshift : (m * 2 ^ s).log2 - 52 = s := by
      rw [log2_mul_pow hm hhigh]
      omega
    have hquotient : m * 2 ^ s / Nat.pow 2 s = m := Nat.mul_div_cancel m (Nat.two_pow_pos s)
    rw [bitsOfMagnitude]
    simp only [hshift, hquotient]
    exact (if_neg hlarge).trans hsum

/-! ## Intervals -/

section Interval

open Decimal

variable {m s num den : Nat}

/-- `num / den` is within half a step of `m * 2 ^ s`, where the steps below a power of two are half
as long. -/
structure Near (m s num den : Nat) : Prop where
  low : 2 * (m * (den * 2 ^ s)) ≤ 2 * num + den * 2 ^ s
  high : 2 * num ≤ 2 * (m * (den * 2 ^ s)) + den * 2 ^ s
  even : 2 * (m * (den * 2 ^ s)) = 2 * num + den * 2 ^ s ∨
    2 * num = 2 * (m * (den * 2 ^ s)) + den * 2 ^ s → m % 2 = 0
  power : m = 2 ^ 52 → 0 < s → 4 * (m * (den * 2 ^ s)) ≤ 4 * num + den * 2 ^ s

/-- What lies in the interval of a double is near it. -/
theorem near_of_contains (hm : 0 < m) (h : (Interval.of m s).contains (4 * num) den) :
    Near m s num den := by
  have hhigh : (4 * m + 2) * 2 ^ s * den = 4 * (m * (den * 2 ^ s)) + 2 * (den * 2 ^ s) := by ring
  have hlow : (4 * m - 2) * 2 ^ s * den + 2 * (den * 2 ^ s) = 4 * (m * (den * 2 ^ s)) := by
    obtain ⟨k, rfl⟩ := Nat.exists_eq_add_of_lt hm
    rw [show 4 * (0 + k + 1) - 2 = 4 * k + 2 by omega]
    ring
  have hpower : (4 * m - 1) * 2 ^ s * den + den * 2 ^ s = 4 * (m * (den * 2 ^ s)) := by
    obtain ⟨k, rfl⟩ := Nat.exists_eq_add_of_lt hm
    rw [show 4 * (0 + k + 1) - 1 = 4 * k + 3 by omega]
    ring
  have hends : (if m = 2 ^ 52 ∧ 0 < s then (4 * m - 1) * 2 ^ s else (4 * m - 2) * 2 ^ s) * den ≤
        4 * num ∧ 4 * num ≤ (4 * m + 2) * 2 ^ s * den ∧
      (m % 2 ≠ 0 → (4 * m - 2) * 2 ^ s * den < 4 * num ∧ 4 * num < (4 * m + 2) * 2 ^ s * den) := by
    unfold Interval.contains Interval.of at h
    simp only [Nat.pow_eq] at h
    by_cases heven : m % 2 = 0
    · simp only [heven, decide_true, if_true, Bool.and_eq_true, decide_eq_true_eq] at h
      exact ⟨h.1, h.2, fun hne => absurd heven hne⟩
    · have hpower : ¬(m = 2 ^ 52 ∧ 0 < s) := fun ⟨h52, _⟩ => heven (h52 ▸ rfl)
      simp only [heven, hpower, decide_false, Bool.false_eq_true, if_false, Bool.and_eq_true,
        decide_eq_true_eq] at h ⊢
      exact ⟨Nat.le_of_lt h.1, Nat.le_of_lt h.2, fun _ => h⟩
  obtain ⟨hlower, hupper, hodd⟩ := hends
  refine ⟨?_, by omega, by omega, fun h52 hs => ?_⟩
  · split at hlower <;> omega
  · rw [if_pos ⟨h52, hs⟩] at hlower
    omega

theorem bitsOfRatio_eq {t k : Nat} (hshift : (num / den).log2 - 52 = t)
    (hrounded : roundQuotient num (den * 2 ^ t) = k) :
    bitsOfRatio num den = min (bitsOfMagnitude (k * 2 ^ t)) infinity.bits.toNat := by
  subst hshift hrounded
  rfl

theorem Near.lt (hden : 0 < den) (hhigh : m < 2 ^ 53) (h : Near m s num den) :
    num < 2 ^ 53 * (den * 2 ^ s) := by
  have hstep : 0 < den * 2 ^ s := Nat.mul_pos hden (Nat.two_pow_pos s)
  have hmid : m * (den * 2 ^ s) ≤ 9007199254740991 * (den * 2 ^ s) :=
    Nat.mul_le_mul_right _ (Nat.le_of_lt_succ hhigh)
  have hnum := h.high
  omega

theorem shift_eq (hden : 0 < den) (hlow : 0 < s → 2 ^ 52 * (den * 2 ^ s) ≤ num)
    (hhigh : num < 2 ^ 53 * (den * 2 ^ s)) : (num / den).log2 - 52 = s := by
  have hlt : num / den < 2 ^ (52 + s + 1) := by
    rw [Nat.div_lt_iff_lt_mul hden, Nat.add_right_comm, Nat.pow_add]
    calc num < 2 ^ 53 * (den * 2 ^ s) := hhigh
      _ = 2 ^ 53 * 2 ^ s * den := by ring
  obtain rfl | hs := Nat.eq_zero_or_pos s
  · by_cases hq : num / den = 0
    · rw [hq]
      rfl
    · have := (Nat.log2_lt hq).2 hlt
      omega
  · have hle : 2 ^ (52 + s) ≤ num / den := by
      rw [Nat.le_div_iff_mul_le hden, Nat.pow_add]
      calc 2 ^ 52 * 2 ^ s * den = 2 ^ 52 * (den * 2 ^ s) := by ring
        _ ≤ num := hlow hs
    rw [log2_eq_of_le_of_lt hle hlt]
    omega

/-- What is near a double rounds to it. -/
theorem bitsOfRatio_of_near (hden : 0 < den) (hlow : 0 < s → 2 ^ 52 ≤ m) (hhigh : m < 2 ^ 53)
    (h : Near m s num den) : bitsOfRatio num den = min (s * 2 ^ 52 + m) infinity.bits.toNat := by
  by_cases hbelow : 0 < s ∧ num < 2 ^ 52 * (den * 2 ^ s)
  · -- below a power of two the steps are half as long, and the power is twice as many of them
    obtain ⟨hs, hnum⟩ := hbelow
    have hm : m = 2 ^ 52 := by
      refine Nat.le_antisymm (Nat.le_of_lt_succ ?_) (hlow hs)
      refine Nat.lt_of_mul_lt_mul_right (a := den * 2 ^ s) ?_
      have hnear := h.low
      rw [Nat.succ_mul]
      omega
    have hpower := h.power hm hs
    subst hm
    obtain ⟨t, rfl⟩ := Nat.exists_eq_succ_of_ne_zero (Nat.ne_of_gt hs)
    have hstep : den * 2 ^ (t + 1) = 2 * (den * 2 ^ t) := by ring
    have hpos : 0 < den * 2 ^ t := Nat.mul_pos hden (Nat.two_pow_pos t)
    rw [Nat.succ_eq_add_one, hstep] at hpower hnum
    have hround : roundQuotient num (den * 2 ^ t) = 2 ^ 53 :=
      roundQuotient_eq hpos (by omega) (by omega) fun _ => rfl
    have hshift : (num / den).log2 - 52 = t := shift_eq hden (fun _ => by omega) (by omega)
    have hmagnitude : 2 ^ 53 * 2 ^ t = 2 ^ 52 * 2 ^ (t + 1) := by ring
    rw [bitsOfRatio_eq hshift hround, hmagnitude, bitsOfMagnitude_mul hlow hhigh]
  · have hround : roundQuotient num (den * 2 ^ s) = m :=
      roundQuotient_eq (Nat.mul_pos hden (Nat.two_pow_pos s)) h.low h.high h.even
    have hshift : (num / den).log2 - 52 = s :=
      shift_eq hden (fun hs => Nat.le_of_not_lt fun hnum => hbelow ⟨hs, hnum⟩) (h.lt hden hhigh)
    rw [bitsOfRatio_eq hshift hround, bitsOfMagnitude_mul hlow hhigh]

theorem contains_mul {i : Interval} {a b c : Nat} (hc : 0 < c) :
    i.contains (a * c) (b * c) = i.contains a b := by
  unfold Interval.contains
  simp only [← Nat.mul_assoc, Nat.mul_le_mul_right_iff hc, Nat.mul_lt_mul_right hc]

end Interval

/-! ## Exact operations -/

theorem toNat_bits_mk {n : Nat} (hn : n < 2 ^ 63) : (⟨.ofNat n⟩ : Double).bits.toNat = n :=
  UInt64.toNat_ofNat_of_lt' (Nat.lt_trans hn (by decide))

theorem magnitudeBits_mk {n : Nat} (hn : n < 2 ^ 63) : (⟨.ofNat n⟩ : Double).magnitudeBits = n := by
  rw [magnitudeBits, toNat_bits_mk hn]
  exact Nat.mod_eq_of_lt hn

theorem isNegative_mk {n : Nat} (hn : n < 2 ^ 63) : (⟨.ofNat n⟩ : Double).isNegative = false := by
  rw [isNegative, toNat_bits_mk hn]
  exact decide_eq_false (Nat.not_le_of_lt hn)

theorem bits_eq (x : Double) :
    x.bits.toNat = (if x.isNegative then 2 ^ 63 else 0) + x.magnitudeBits := by
  have hbits := x.bits.toNat_lt
  unfold isNegative magnitudeBits
  simp only [Nat.pow_eq, decide_eq_true_eq]
  split <;> omega

/-- A double from its bits without the sign, and the sign. -/
theorem withSign_magnitudeBits (x : Double) :
    withSign x.isNegative ⟨.ofNat x.magnitudeBits⟩ = x := by
  have hbits := x.bits_eq
  have hlt : x.magnitudeBits < 2 ^ 63 := Nat.mod_lt _ (by decide)
  cases x with
  | mk bits =>
    unfold withSign
    split
    · rename_i hnegative
      rw [if_pos hnegative] at hbits
      refine congrArg mk (UInt64.toNat_inj.1 ?_)
      have hsign : signBit.toNat = 2 ^ 63 := rfl
      rw [UInt64.toNat_add, toNat_bits_mk hlt, hbits, hsign]
      omega
    · rename_i hnegative
      rw [if_neg hnegative, Nat.zero_add] at hbits
      rw [← hbits, UInt64.ofNat_toNat]

/-- The bits of a finite double lie below those of infinity. -/
theorem magnitudeBits_lt_infinity (hx : x.isFinite) : x.magnitudeBits < 2047 * 2 ^ 52 := by
  have hbits : x.magnitudeBits < 2 ^ 63 := Nat.mod_lt _ (by decide)
  have hfraction := x.fraction_lt
  have hfield : x.exponentField ≠ 2047 := by simpa [isFinite] using hx
  rw [x.magnitudeBits_eq] at hbits ⊢
  omega

/-- A double that is a natural number. -/
structure IsWhole (x : Double) (n : Nat) : Prop where
  finite : x.isFinite
  unsigned : x.isNegative = false
  magnitude : x.magnitude = n * one

/-- A significand with its leading one, at a shift in reach, is a double as it is. -/
theorem ofRatio_exact {m s : Nat} (hlow : 2 ^ 52 ≤ m) (hhigh : m < 2 ^ 53) (hs : s ≤ 2045) :
    (ofRatio false (m * 2 ^ s) 1).isFinite ∧ (ofRatio false (m * 2 ^ s) 1).isNegative = false ∧
      (ofRatio false (m * 2 ^ s) 1).magnitude = m * 2 ^ s := by
  have hnear : Near m s (m * 2 ^ s) 1 := by
    have hstep := Nat.two_pow_pos s
    constructor <;> simp only [Nat.one_mul] <;> omega
  have hbits : bitsOfRatio (m * 2 ^ s) 1 = s * 2 ^ 52 + m := by
    rw [bitsOfRatio_of_near Nat.one_pos (fun _ => hlow) hhigh hnear]
    refine Nat.min_eq_left (Nat.le_of_lt ?_)
    change _ < 2047 * 2 ^ 52
    omega
  have hsmall : s * 2 ^ 52 + m < 2 ^ 63 := by omega
  have hvalue : ofRatio false (m * 2 ^ s) 1 = ⟨.ofNat (s * 2 ^ 52 + m)⟩ := by
    rw [ofRatio, hbits]
    simp
  have hfield : (ofRatio false (m * 2 ^ s) 1).exponentField = s + 1 := by
    rw [hvalue, exponentField, magnitudeBits_mk hsmall, Nat.pow_eq]
    omega
  have hfraction : (ofRatio false (m * 2 ^ s) 1).fraction = m - 2 ^ 52 := by
    rw [hvalue, fraction, magnitudeBits_mk hsmall, Nat.pow_eq]
    omega
  refine ⟨?_, ?_, ?_⟩
  · rw [isFinite, hfield]
    exact decide_eq_true (by omega)
  · rw [hvalue, isNegative_mk hsmall]
  · rw [magnitude, significand, shift, hfield, hfraction, if_neg (Nat.succ_ne_zero s)]
    change (m - 2 ^ 52 + 2 ^ 52) * 2 ^ s = _
    rw [Nat.sub_add_cancel hlow]

theorem one_eq : one = 2 ^ scale := by
  unfold one
  rw [Nat.pow_eq]

theorem one_pos : 0 < one := by
  rw [one_eq]
  exact Nat.two_pow_pos scale

/-- An integer is exact when it has no more than fifty-three significant bits. -/
theorem isWhole_ofInt {a b : Nat} (ha : 0 < a) (ha' : a < 2 ^ 53) (hb : b ≤ 900) :
    IsWhole (ofInt ↑(a * 2 ^ b)) (a * 2 ^ b) := by
  have hlog : a.log2 < 53 := (Nat.log2_lt (Nat.ne_of_gt ha)).2 ha'
  have hlow : 2 ^ 52 ≤ a * 2 ^ (52 - a.log2) := by
    calc 2 ^ 52 = 2 ^ a.log2 * 2 ^ (52 - a.log2) := by rw [← Nat.pow_add]; congr 1; omega
      _ ≤ a * 2 ^ (52 - a.log2) := Nat.mul_le_mul_right _ (Nat.log2_self_le (Nat.ne_of_gt ha))
  have hhigh : a * 2 ^ (52 - a.log2) < 2 ^ 53 := by
    calc a * 2 ^ (52 - a.log2) < 2 ^ (a.log2 + 1) * 2 ^ (52 - a.log2) :=
          Nat.mul_lt_mul_of_pos_right Nat.lt_log2_self (Nat.two_pow_pos _)
      _ = 2 ^ 53 := by rw [← Nat.pow_add]; congr 1; omega
  have hunits : a * 2 ^ (52 - a.log2) * 2 ^ (1022 + b + a.log2) = a * 2 ^ b * one := by
    have hexponent : 52 - a.log2 + (1022 + b + a.log2) = b + scale := by
      unfold scale
      omega
    rw [one_eq, Nat.mul_assoc, Nat.mul_assoc, ← Nat.pow_add, ← Nat.pow_add, hexponent]
  have hvalue : ofInt ↑(a * 2 ^ b) = ofRatio false (a * 2 ^ b * one) 1 := by
    rw [ofInt, decide_eq_false (Int.not_lt.2 (Int.natCast_nonneg _)), Int.natAbs_natCast]
  obtain ⟨hfinite, hunsigned, hmagnitude⟩ := ofRatio_exact hlow hhigh
    (show 1022 + b + a.log2 ≤ 2045 by omega)
  rw [hunits] at hfinite hunsigned hmagnitude
  rw [hvalue]
  exact ⟨hfinite, hunsigned, hmagnitude⟩

theorem IsWhole.isZero_eq_false {n : Nat} (h : IsWhole x n) (hn : 0 < n) : x.isZero = false := by
  refine decide_eq_false fun hbits => ?_
  have hmagnitude : x.magnitude = 0 := by
    have hsignificand : x.significand = 0 := by
      have := x.magnitudeBits_eq_shift
      omega
    rw [Double.magnitude, hsignificand, Nat.zero_mul]
  rw [h.magnitude] at hmagnitude
  exact absurd hmagnitude (Nat.ne_of_gt (Nat.mul_pos hn one_pos))

theorem not_isNaN (hx : x.isFinite) : x.isNaN = false := by
  simp_all [isFinite, isNaN]

theorem not_isInfinite (hx : x.isFinite) : x.isInfinite = false := by
  simp_all [isFinite, isInfinite]

theorem isInfinite_magnitudeBits (x : Double) :
    (⟨.ofNat x.magnitudeBits⟩ : Double).isInfinite = x.isInfinite := by
  have hlt : x.magnitudeBits < 2 ^ 63 := Nat.mod_lt _ (by decide)
  unfold isInfinite exponentField fraction
  rw [magnitudeBits_mk hlt]

/-- A fraction in the interval of a finite double rounds to that double, but for the sign. -/
theorem ofRatio_of_contains {num den : Nat} (hx : x.isFinite) (hx' : x.magnitude ≠ 0)
    (hden : 0 < den) (h : (Decimal.Interval.of x.significand x.shift).contains (4 * num) den) :
    ofRatio false num den = ⟨.ofNat x.magnitudeBits⟩ := by
  have hbits : bitsOfRatio num den = x.magnitudeBits := by
    rw [bitsOfRatio_of_near hden le_significand x.significand_lt
      (near_of_contains (significand_pos hx') h), ← x.magnitudeBits_eq_shift]
    exact Nat.min_eq_left (Nat.le_of_lt (magnitudeBits_lt_infinity hx))
  rw [ofRatio, hbits]
  simp

variable {y z : Double} {n k : Nat}

/-- The quotient of two natural numbers is rounded once. -/
theorem div_of_contains (hx : x.isFinite) (hx' : x.magnitude ≠ 0) (hy : IsWhole y n)
    (hz : IsWhole z k) (hk : 0 < k)
    (h : (Decimal.Interval.of x.significand x.shift).contains (4 * (n * one)) k) :
    y / z = ⟨.ofNat x.magnitudeBits⟩ := by
  have hvalue : y / z = ofRatio false (n * one * one) (k * one) := by
    change div y z = _
    simp [div, not_isNaN hy.finite, not_isNaN hz.finite, not_isInfinite hy.finite,
      not_isInfinite hz.finite, hz.isZero_eq_false hk, hy.unsigned, hz.unsigned, hy.magnitude,
      hz.magnitude]
  rw [hvalue]
  refine ofRatio_of_contains hx hx' (Nat.mul_pos hk one_pos) ?_
  rw [show 4 * (n * one * one) = 4 * (n * one) * one by ring, contains_mul one_pos]
  exact h

/-- The product of two natural numbers is rounded once. -/
theorem mul_of_contains (hx : x.isFinite) (hx' : x.magnitude ≠ 0) (hy : IsWhole y n)
    (hz : IsWhole z k)
    (h : (Decimal.Interval.of x.significand x.shift).contains (4 * (n * k * one)) 1) :
    y * z = ⟨.ofNat x.magnitudeBits⟩ := by
  have hvalue : y * z = ofRatio false (n * one * (k * one)) one := by
    change mul y z = _
    simp [mul, hy.finite, hz.finite, hy.unsigned, hz.unsigned, hy.magnitude, hz.magnitude]
  have hscaled := (contains_mul one_pos).trans h
  rw [Nat.one_mul, show 4 * (n * k * one) * one = 4 * (n * one * (k * one)) by ring] at hscaled
  rw [hvalue]
  exact ofRatio_of_contains hx hx' one_pos hscaled

end TableScript.Double
