import TableScript.Proofs.Number.Rounding

/-!
# The shortest decimal lies in the interval

Of every double that is not zero the shortest decimal is found, and it lies in the rounding interval
of the double: after eighteen digits a grid step is so short that the next grid point above the
double still rounds to it.
-/

namespace TableScript.Decimal

/-- The interval has the decimal. -/
def Interval.Has (i : Interval) (d : Decimal) : Prop :=
  i.contains (d.digits * (10 ^ d.exponent.toNat * 2 ^ quarterScale)) (10 ^ (-d.exponent).toNat)

variable {i : Interval} {d : Decimal} {e : Int} {m s : Nat}

/-! ## What is found -/

theorem has_of_onGrid (h : onGrid i e = some d) : i.Has d := by
  unfold onGrid at h
  simp only at h
  split at h
  · cases h
  · cases h
    simp_all [Interval.Has]
  · cases h
    simp_all [Interval.Has]
  · split at h <;> cases h <;> simp_all [Interval.Has]

theorem has_of_search {count : Nat} (h : search i e count = some d) : i.Has d := by
  induction count generalizing e with
  | zero => cases h
  | succ count ih =>
    obtain hgrid | ⟨-, hrest⟩ := Option.or_eq_some_iff.1 h
    · exact has_of_onGrid hgrid
    · exact ih hrest

/-- A trailing zero less, the decimal is the same number. -/
theorem has_shorten {k : Nat} : i.Has ⟨k * 10, e⟩ ↔ i.Has ⟨k, e + 1⟩ := by
  unfold Interval.Has
  simp only
  by_cases he : 0 ≤ e
  · have hup : (e + 1).toNat = e.toNat + 1 := by omega
    have hdown : (-(e + 1)).toNat = (-e).toNat := by omega
    rw [hup, hdown, Nat.pow_succ', Nat.mul_assoc, Nat.mul_assoc 10]
  · have hup : (e + 1).toNat = e.toNat := by omega
    have hdown : (-e).toNat = (-(e + 1)).toNat + 1 := by omega
    rw [hup, hdown, Nat.pow_succ, Nat.mul_right_comm, Double.contains_mul (by decide)]

/-- However many trailing zeros are written, the decimal is the same number. -/
theorem has_mul_pow (n k : Nat) (e : Int) : i.Has ⟨n * 10 ^ k, e - k⟩ ↔ i.Has ⟨n, e⟩ := by
  induction k with
  | zero => rw [Nat.pow_zero, Nat.mul_one, Int.natCast_zero, Int.sub_zero]
  | succ k ih =>
    rw [Nat.pow_succ, ← Nat.mul_assoc, has_shorten, ← ih,
      show e - (k + 1 : Nat) + 1 = e - k by omega]

theorem has_strip (fuel : Nat) (h : i.Has d) : i.Has (d.strip fuel) := by
  induction fuel generalizing d with
  | zero => exact h
  | succ fuel ih =>
    rw [strip]
    split
    · rename_i hzero
      have hdigits : d.digits / 10 * 10 = d.digits := by omega
      exact ih (has_shorten.1 (by rw [hdigits]; exact h))
    · exact h

/-! ## That something is found -/

/-- The grid of step `10 ^ e` is eighteen digits fine. -/
def FineAt (i : Interval) (e : Int) : Prop :=
  10 ^ e.toNat * Nat.pow 2 quarterScale * 10 ^ 17 ≤ i.mid * 10 ^ (-e).toNat

/-- The interval reaches above the double by two steps of a quarter, below it by one or two. -/
theorem contains_of_lt {num den : Nat} (hlow : (Interval.of m s).mid * den < num)
    (hhigh : num < (Interval.of m s).mid * den + 2 * (2 ^ s * den)) :
    (Interval.of m s).contains num den := by
  have hlower : (Interval.of m s).low ≤ (Interval.of m s).mid := by
    simp only [Interval.of]
    split <;> exact Nat.mul_le_mul_right _ (by omega)
  have hupper : (Interval.of m s).high * den = (Interval.of m s).mid * den + 2 * (2 ^ s * den) := by
    simp only [Interval.of, Nat.pow_eq]
    ring
  have hfrom := Nat.mul_le_mul_right den hlower
  unfold Interval.contains
  split
  · rw [Bool.and_eq_true, decide_eq_true_eq, decide_eq_true_eq]
    omega
  · rw [Bool.and_eq_true, decide_eq_true_eq, decide_eq_true_eq]
    omega

/-- A grid whose point above the double rounds to it has a hit. -/
theorem onGrid_isSome_of_contains (h : i.contains
      ((i.mid * 10 ^ (-e).toNat / (10 ^ e.toNat * 2 ^ quarterScale) + 1) *
        (10 ^ e.toNat * 2 ^ quarterScale)) (10 ^ (-e).toNat)) : (onGrid i e).isSome := by
  unfold onGrid
  simp only [Nat.pow_eq, h]
  cases i.contains (i.mid * 10 ^ (-e).toNat / (10 ^ e.toNat * 2 ^ quarterScale) *
      (10 ^ e.toNat * 2 ^ quarterScale)) (10 ^ (-e).toNat) &&
    decide (0 < i.mid * 10 ^ (-e).toNat / (10 ^ e.toNat * 2 ^ quarterScale))
  · rfl
  · dsimp only
    split <;> rfl

/-- On a fine grid that point does. -/
theorem onGrid_isSome (hm : m < 2 ^ 53) (h : FineAt (.of m s) e) :
    (onGrid (.of m s) e).isSome := by
  refine onGrid_isSome_of_contains ?_
  have hnum : 0 < 10 ^ e.toNat * 2 ^ quarterScale :=
    Nat.mul_pos (Nat.pow_pos (by decide)) (Nat.two_pow_pos _)
  unfold FineAt at h
  rw [Nat.pow_eq] at h
  generalize 10 ^ e.toNat * 2 ^ quarterScale = num at h hnum ⊢
  generalize 10 ^ (-e).toNat = den at h ⊢
  -- a double has fifty-three bits, fewer than seventeen digits
  have hstep : num < 2 ^ s * den := by
    have hmid : (Interval.of m s).mid * den = 4 * m * (2 ^ s * den) := by
      simp only [Interval.of, Nat.pow_eq]
      ring
    have hbits : 4 * m * (2 ^ s * den) ≤ 2 ^ 55 * (2 ^ s * den) :=
      Nat.mul_le_mul_right _ (by omega)
    omega
  have hdiv := Nat.div_add_mod ((Interval.of m s).mid * den) num
  have hmod := Nat.mod_lt ((Interval.of m s).mid * den) hnum
  rw [Nat.mul_comm num] at hdiv
  refine contains_of_lt ?_ ?_
  · rw [Nat.succ_mul]
    omega
  · rw [Nat.succ_mul]
    omega

theorem search_isSome {count k : Nat} (hk : k < count) (h : (onGrid i (e - k)).isSome) :
    (search i e count).isSome := by
  induction count generalizing e k with
  | zero => omega
  | succ count ih =>
    rw [search, Option.isSome_or]
    cases k with
    | zero =>
      rw [Int.natCast_zero, Int.sub_zero] at h
      rw [h, Bool.true_or]
    | succ k =>
      have hexponent : e - 1 - (k : Int) = e - (k + 1 : Nat) := by omega
      have hrest := ih (e := e - 1) (k := k) (by omega) (by rw [hexponent]; exact h)
      rw [hrest, Bool.or_true]

theorem pow_digitCount_le {n : Nat} (hn : 0 < n) : 10 ^ (digitCount n - 1) ≤ n := by
  obtain hone | hmore := Nat.eq_zero_or_pos (digitCount n - 1)
  · rw [hone]
    exact hn
  · have hcount : ¬digitCount n ≤ digitCount n - 1 := by omega
    exact Nat.le_of_not_lt fun hlt => hcount ((Nat.length_toDigits_le_iff (by decide) hmore).2 hlt)

/-- Seventeen digits below a power of ten that the double reaches, the grid is fine. -/
theorem fineAt_of_le {D K : Nat} (h : 10 ^ D * Nat.pow 2 quarterScale ≤ i.mid * 10 ^ K) :
    FineAt i (D - K - 17) := by
  unfold FineAt
  generalize Nat.pow 2 quarterScale = unit at h ⊢
  have hexponent : ((D : Int) - K - 17).toNat + 17 + K = (-((D : Int) - K - 17)).toNat + D := by
    omega
  generalize ((D : Int) - K - 17).toNat = a at hexponent ⊢
  generalize (-((D : Int) - K - 17)).toNat = b at hexponent ⊢
  refine Nat.le_of_mul_le_mul_right ?_ (Nat.pow_pos (n := K) (by decide : 0 < 10))
  calc 10 ^ a * unit * 10 ^ 17 * 10 ^ K = 10 ^ (a + 17 + K) * unit := by ring
    _ = 10 ^ b * (10 ^ D * unit) := by rw [hexponent]; ring
    _ ≤ 10 ^ b * (i.mid * 10 ^ K) := Nat.mul_le_mul_left _ h
    _ = i.mid * 10 ^ b * 10 ^ K := by ring

theorem two_pow_pos (k : Nat) : 0 < Nat.pow 2 k := Nat.two_pow_pos k

/-- Seventeen digits below the leading one of a scaled value, the grid is fine. -/
theorem fineAt_digitCount {n K : Nat} (hn : n = i.mid * Nat.pow 10 K)
    (h : Nat.pow 2 quarterScale ≤ n) :
    FineAt i ((digitCount (n / Nat.pow 2 quarterScale) : Int) - 1 - K - 17) := by
  have hscale := two_pow_pos quarterScale
  have hcount : 0 < digitCount (n / Nat.pow 2 quarterScale) := Nat.length_toDigits_pos
  have hpow := pow_digitCount_le (Nat.div_pos h hscale)
  generalize digitCount (n / Nat.pow 2 quarterScale) = D at hpow hcount ⊢
  rw [show (D : Int) - 1 = (D - 1 : Nat) by omega]
  subst hn
  exact fineAt_of_le ((Nat.le_div_iff_mul_le hscale).1 hpow)

theorem two_pow_le_ten_pow {k n : Nat} (h : k ≤ 3 * n) : Nat.pow 2 k ≤ Nat.pow 10 n := by
  simp only [Nat.pow_eq]
  calc 2 ^ k ≤ 2 ^ (3 * n) := Nat.pow_le_pow_right (by decide) h
    _ = 8 ^ n := Nat.pow_mul 2 3 n
    _ ≤ 10 ^ n := Nat.pow_le_pow_left (by decide) n

theorem fineAt_leadingExponent (hm : 0 < m) :
    FineAt (.of m s) (leadingExponent (.of m s) - 17) := by
  have hmid : 0 < (Interval.of m s).mid :=
    Nat.mul_pos (Nat.mul_pos (by decide) hm) (Nat.two_pow_pos s)
  unfold leadingExponent
  split
  · rename_i hlarge
    have hfine := fineAt_digitCount (K := 0) (Nat.mul_one _).symm hlarge
    rwa [Int.natCast_zero, Int.sub_zero] at hfine
  · have hscale := two_pow_le_ten_pow (show quarterScale ≤ 3 * 400 by decide)
    rw [show (400 : Int) = (400 : Nat) from rfl]
    generalize 400 = K at hscale ⊢
    exact fineAt_digitCount rfl (Nat.le_trans hscale (Nat.le_mul_of_pos_left _ hmid))

/-- The shortest decimal of a double lies in its interval. -/
theorem has_shortest {x : Double} (hx : x.magnitude ≠ 0) :
    (Interval.of x.significand x.shift).Has (shortest x) := by
  have hm := Double.significand_pos hx
  have hfound : (search (.of x.significand x.shift)
      (leadingExponent (.of x.significand x.shift)) 18).isSome :=
    search_isSome (k := 17) (by decide)
      (onGrid_isSome x.significand_lt (fineAt_leadingExponent hm))
  obtain ⟨d, hd⟩ := Option.isSome_iff_exists.1 hfound
  rw [shortest, if_neg hx]
  simp only [hd, Option.getD_some]
  exact has_strip 20 (has_of_search hd)

/-- No interval reaches down to zero. -/
theorem digits_pos_of_has (hm : 0 < m) (h : (Interval.of m s).Has d) : 0 < d.digits := by
  refine Nat.pos_of_ne_zero fun hzero => ?_
  have hlow : 0 < (Interval.of m s).low * 10 ^ (-d.exponent).toNat := by
    refine Nat.mul_pos ?_ (Nat.pow_pos (by decide))
    simp only [Interval.of]
    split <;> exact Nat.mul_pos (by omega) (Nat.two_pow_pos s)
  unfold Interval.Has Interval.contains at h
  rw [hzero, Nat.zero_mul] at h
  split at h
  · rw [Bool.and_eq_true, decide_eq_true_eq] at h
    omega
  · rw [Bool.and_eq_true, decide_eq_true_eq] at h
    omega

theorem digits_shortest_pos {x : Double} (hx : x.magnitude ≠ 0) : 0 < (shortest x).digits :=
  digits_pos_of_has (Double.significand_pos hx) (has_shortest hx)

end TableScript.Decimal
