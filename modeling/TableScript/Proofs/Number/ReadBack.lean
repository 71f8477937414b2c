import TableScript.Proofs.Json.Doubles

/-!
# Numbers that are read back from their texts

Scripts print numbers by `toString` and `plainText`, and read them by `readInt?` and `readFloat?`.

1. A decimal in the interval of a double is read as that double (`nearest_of_has`): it is neither so
   small nor so large that the reader gives up on it;
2. the plain layout of a decimal is read as its digits, scaled (`readFloat?_positional`);
3. so an integer and a double other than NaN are read back (`readInt?_toString`,
   `readFloat?_plainText`), and different ones have different texts.
-/

namespace TableScript.NumberText

open Double Decimal Json.Number Json.Number.Literal

variable {x y : Double} {d : Decimal}

/-! ## Decimals in an interval -/

/-- In quarters of a unit, the interval of a double starts above zero and ends below `2 ^ 2100`. -/
theorem interval_bounds (hx : x.isFinite) (hx' : x.magnitude ≠ 0) :
    0 < (Interval.of x.significand x.shift).low ∧
      (Interval.of x.significand x.shift).high ≤ 2 ^ 55 * 2 ^ 2045 := by
  have hpos := significand_pos hx'
  have hlt := x.significand_lt
  have hshift : x.shift ≤ 2045 := by
    have hbits := magnitudeBits_lt_infinity hx
    have hfield : x.exponentField < 2047 := by
      unfold exponentField
      rw [Nat.pow_eq]
      omega
    unfold shift
    omega
  constructor
  · simp only [Interval.of]
    split <;> exact Nat.mul_pos (by omega) (Nat.two_pow_pos _)
  · generalize 2045 = k at hshift ⊢
    exact Nat.mul_le_mul (by omega) (Nat.pow_le_pow_right (by decide) hshift)

theorem le_of_contains {i : Interval} {num den : Nat} (h : i.contains num den) :
    i.low * den ≤ num ∧ num ≤ i.high * den := by
  unfold Interval.contains at h
  split at h <;> rw [Bool.and_eq_true, decide_eq_true_eq, decide_eq_true_eq] at h <;> omega

theorem lt_pow_digitCount (n : Nat) : n < 10 ^ digitCount n :=
  (Nat.length_toDigits_le_iff (by decide) Nat.length_toDigits_pos).1 (Nat.le_refl _)

/-- A decimal in the interval of a double is not too small for the reader. -/
theorem le_pointPosition (hx : x.isFinite) (hx' : x.magnitude ≠ 0)
    (h : (Interval.of x.significand x.shift).Has d) : -330 ≤ pointPosition d := by
  obtain ⟨n, e⟩ := d
  by_contra hsmall
  simp only [pointPosition] at hsmall
  have hlow := (interval_bounds hx hx').1
  have habove := (le_of_contains h).1
  have hunit : 0 < 2 ^ quarterScale ∧ 2 ^ quarterScale ≤ 10 ^ 331 := by decide +kernel
  simp only at habove
  -- the powers are compared once, by the kernel; nothing below may compute with them
  generalize 2 ^ quarterScale = unit at habove hunit
  have hexponent : e.toNat = 0 ∧ digitCount n + 331 ≤ (-e).toNat := by omega
  generalize 331 = k at hunit hexponent
  rw [hexponent.1, Nat.pow_zero, Nat.one_mul] at habove
  have hbelow : n * unit < 10 ^ (-e).toNat :=
    calc n * unit < 10 ^ digitCount n * unit :=
          Nat.mul_lt_mul_of_pos_right (lt_pow_digitCount n) hunit.1
      _ ≤ 10 ^ digitCount n * 10 ^ k := Nat.mul_le_mul_left _ hunit.2
      _ = 10 ^ (digitCount n + k) := (Nat.pow_add ..).symm
      _ ≤ 10 ^ (-e).toNat := Nat.pow_le_pow_right (by decide) hexponent.2
  have := Nat.le_mul_of_pos_left (10 ^ (-e).toNat) hlow
  omega

/-- A decimal in the interval of a double is not too large for the reader. -/
theorem pointPosition_le (hx : x.isFinite) (hx' : x.magnitude ≠ 0)
    (h : (Interval.of x.significand x.shift).Has d) : pointPosition d ≤ 310 := by
  obtain ⟨n, e⟩ := d
  by_contra hlarge
  simp only [pointPosition] at hlarge
  have hhigh := (interval_bounds hx hx').2
  have hbelow := (le_of_contains h).2
  have hdigits := pow_digitCount_le (digits_pos_of_has (significand_pos hx') h)
  have hunit : 2 ^ 55 * 2 ^ 2045 < 10 ^ 310 * 2 ^ quarterScale := by decide +kernel
  simp only at hbelow hdigits
  generalize 2 ^ 55 * 2 ^ 2045 = limit at hhigh hunit
  generalize 2 ^ quarterScale = unit at hbelow hunit
  have hexponent : (-e).toNat + 310 ≤ digitCount n - 1 + e.toNat := by omega
  generalize 310 = k at hunit hexponent
  have habove : limit * 10 ^ (-e).toNat < n * (10 ^ e.toNat * unit) :=
    calc limit * 10 ^ (-e).toNat < 10 ^ k * unit * 10 ^ (-e).toNat :=
          Nat.mul_lt_mul_of_pos_right hunit (Nat.pow_pos (by decide))
      _ = 10 ^ ((-e).toNat + k) * unit := by ring
      _ ≤ 10 ^ (digitCount n - 1 + e.toNat) * unit :=
          Nat.mul_le_mul_right _ (Nat.pow_le_pow_right (by decide) hexponent)
      _ = 10 ^ (digitCount n - 1) * (10 ^ e.toNat * unit) := by ring
      _ ≤ n * (10 ^ e.toNat * unit) := Nat.mul_le_mul_right _ hdigits
  have := Nat.mul_le_mul_right (10 ^ (-e).toNat) hhigh
  omega

/-- **A decimal in the interval of a double is read as that double**, but for the sign. -/
theorem nearest_of_has (hx : x.isFinite) (hx' : x.magnitude ≠ 0)
    (h : (Interval.of x.significand x.shift).Has d) :
    nearest d.digits d.exponent = ⟨.ofNat x.magnitudeBits⟩ := by
  have hpos : d.digits ≠ 0 := Nat.ne_of_gt (digits_pos_of_has (significand_pos hx') h)
  have hlow := le_pointPosition hx hx' h
  have hhigh := pointPosition_le hx hx' h
  obtain ⟨n, e⟩ := d
  simp only [pointPosition] at hpos hlow hhigh ⊢
  unfold Interval.Has at h
  simp only [four_mul_one] at h
  unfold nearest
  simp only [Nat.pow_eq]
  rw [if_neg (by omega), if_neg (by omega)]
  by_cases hdown : e < 0
  · rw [if_pos hdown]
    refine ofRatio_of_contains hx hx' (Nat.pow_pos (by decide)) ?_
    rw [show e.toNat = 0 by omega, show (-e).toNat = e.natAbs by omega] at h
    generalize one = unit at h ⊢
    rw [Nat.pow_zero, Nat.one_mul, Nat.mul_left_comm] at h
    exact h
  · rw [if_neg hdown]
    refine ofRatio_of_contains hx hx' Nat.one_pos ?_
    rw [show e.toNat = e.natAbs by omega, show (-e).toNat = 0 by omega] at h
    generalize one = unit at h ⊢
    rw [Nat.pow_zero, ← Nat.mul_assoc, Nat.mul_left_comm] at h
    exact h

/-! ## Reading -/

theorem toLower_of_isDigit {c : Char} (h : c.isDigit) : c.toLower = c := by
  rw [Char.isDigit, Bool.and_eq_true, decide_eq_true_eq, decide_eq_true_eq] at h
  unfold Char.toLower
  rw [dif_neg]
  rintro ⟨hupper, -⟩
  exact absurd (UInt32.le_trans hupper h.2) (by decide)

/-- Digits are no word such as `inf`. -/
theorem lower_ne_word {whole : List Char} (h : IsDigits whole) (rest : List Char) {word : String}
    (hword : ∃ c ∈ word.toList.head?, c.isDigit = false) :
    String.ofList ((whole ++ rest).map Char.toLower) ≠ word := by
  rintro rfl
  obtain ⟨c, hc, hdigit⟩ := hword
  obtain _ | ⟨d, ds⟩ := whole
  · exact h.ne_nil rfl
  · have hd := h.digit d List.mem_cons_self
    rw [String.toList_ofList, List.cons_append, List.map_cons, toLower_of_isDigit hd] at hc
    cases hc
    rw [hd] at hdigit
    cases hdigit

theorem endsDigits_nil : EndsDigits [] := nofun

theorem takeFraction_placesText {places : Option (List Char)} (h : ∀ ds ∈ places, IsDigits ds) :
    takeFraction (placesText places) = (places.getD [], []) := by
  cases places with
  | none => rfl
  | some digits =>
    have hspan := spanDigits_append (h _ rfl).digit endsDigits_nil
    rw [List.append_nil] at hspan
    exact hspan

/-- Digits with a sign and perhaps a point are read as the number around the point, scaled. -/
theorem readFloat?_text {sign : String} {negative : Bool} (hsign : sign.toList = signText negative)
    (whole : List Char) (places : Option (List Char)) (hwhole : IsDigits whole)
    (hplaces : ∀ ds ∈ places, IsDigits ds)
    (hdigits : Nat.ofDigitChars 10 (whole ++ places.getD []) 0 = d.digits)
    (hexponent : -((places.getD []).length : Int) = d.exponent) :
    readFloat? (sign ++ String.ofList (whole ++ placesText places)) =
      some (withSign negative (nearest d.digits d.exponent)) := by
  have hspan := spanDigits_append hwhole.digit
    (endsDigits_placesText places (show ∀ c ∈ ([] : List Char).head?, _ from nofun))
  rw [List.append_nil] at hspan
  have hword : ∀ {word : String}, (∃ c ∈ word.toList.head?, c.isDigit = false) →
      String.ofList ((whole ++ placesText places).map Char.toLower) ≠ word :=
    lower_ne_word hwhole (placesText places)
  unfold readFloat?
  simp only [String.toList_append, hsign, String.toList_ofList, takeSign_text hwhole, hspan,
    takeFraction_placesText hplaces]
  rw [if_neg (not_or.2 ⟨hword ⟨'i', by decide⟩, hword ⟨'i', by decide⟩⟩),
    if_neg (hword ⟨'n', by decide⟩), if_neg (by simp [hwhole.ne_nil]), digitsValue_eq, hdigits]
  simp [readExponent?, withSign, ← hexponent]

/-- The decimal with the zeros of a whole number written out. -/
def writtenOut (d : Decimal) : Decimal :=
  if 0 ≤ d.exponent then ⟨d.digits * 10 ^ d.exponent.toNat, 0⟩ else d

theorem has_writtenOut {i : Interval} (h : i.Has d) : i.Has (writtenOut d) := by
  unfold writtenOut
  split
  · rename_i hwhole
    have hexponent : (0 : Int) = d.exponent - d.exponent.toNat := by omega
    rw [hexponent]
    exact (has_mul_pow ..).2 h
  · exact h

/-- The plain layout of a decimal is read as its digits, scaled. -/
theorem readFloat?_positional {sign : String} {negative : Bool}
    (hsign : sign.toList = signText negative) (d : Decimal) :
    readFloat? (sign ++ d.positional) =
      some (withSign negative (nearest (writtenOut d).digits (writtenOut d).exponent)) := by
  have hdigits := isDigits_toDigits d.digits
  have hvalue : Nat.ofDigitChars 10 (Nat.toDigits 10 d.digits) 0 = d.digits :=
    Nat.ofDigitChars_ten_toDigits
  unfold positional writtenOut
  simp only
  generalize Nat.toDigits 10 d.digits = digits at hdigits hvalue ⊢
  -- no point, a point among the digits, or a point before them and zeros after it
  split_ifs with hwhole hplaces
  · have hread := readFloat?_text hsign _ none (hdigits.append_zeros d.exponent.toNat) nofun
      (d := ⟨d.digits * 10 ^ d.exponent.toNat, 0⟩) ?_ rfl
    · rwa [placesText, List.append_nil] at hread
    · rw [Option.getD_none, List.append_nil, Nat.ofDigitChars_append, hvalue,
        Nat.ofDigitChars_replicate_zero, Nat.mul_comm]
  · have hafter : IsDigits (digits.drop (digits.length - (-d.exponent).toNat)) :=
      hdigits.drop (by omega)
    refine readFloat?_text hsign _ (some _) (hdigits.take (by omega))
      (by rintro _ ⟨⟩; exact hafter) ?_ ?_
    · rw [Option.getD_some, List.take_append_drop, hvalue]
    · rw [Option.getD_some, List.length_drop]
      omega
  · have hafter := hdigits.zeros_append ((-d.exponent).toNat - digits.length)
    rw [List.cons_append, List.cons_append]
    refine readFloat?_text hsign ['0'] (some _) isDigits_zero (by rintro _ ⟨⟩; exact hafter)
      ?_ ?_
    · rw [Option.getD_some, List.singleton_append, ← List.cons_append, ← List.replicate_succ,
        Nat.ofDigitChars_append, Nat.ofDigitChars_replicate_zero, Nat.mul_zero, hvalue]
    · rw [Option.getD_some, List.length_append, List.length_replicate]
      omega

/-- **A double other than NaN is read back from the text that scripts print of it.** -/
theorem readFloat?_plainText (hnan : x.isNaN = false) : readFloat? (plainText x) = some x := by
  have hsign : (if x.isNegative then "-" else "").toList = signText x.isNegative := by
    cases x.isNegative <;> rfl
  rw [plainText, signed, if_neg (by simp [hnan])]
  simp only
  by_cases hinfinite : x.isInfinite
  · rw [if_pos hinfinite]
    have hbits : x.magnitudeBits = 2047 * 2 ^ 52 := by
      obtain ⟨hfield, hfraction⟩ : x.exponentField = 2047 ∧ x.fraction = 0 := by
        simpa [isInfinite] using hinfinite
      rw [magnitudeBits_eq, hfield, hfraction, Nat.add_zero]
    have hx := x.withSign_magnitudeBits
    rw [hbits] at hx
    rw [← hx]
    cases x.isNegative <;> decide +kernel
  · have hfinite : x.isFinite := by simp_all [isFinite, isNaN, isInfinite]
    rw [if_neg hinfinite, readFloat?_positional hsign]
    by_cases hzero : x.magnitude = 0
    · have hnearest : nearest (writtenOut ⟨0, 0⟩).digits (writtenOut ⟨0, 0⟩).exponent =
          ⟨.ofNat x.magnitudeBits⟩ := by
        rw [magnitudeBits_eq_zero hzero]
        rfl
      rw [Decimal.shortest, if_pos hzero, hnearest, withSign_magnitudeBits]
    · rw [nearest_of_has hfinite hzero (has_writtenOut (has_shortest hzero)),
        withSign_magnitudeBits]

/-- **An integer is read back from the text that scripts print of it.** -/
theorem readInt?_toString (n : Int64) : readInt? (toString n) = some n := by
  have htext : (toString n).toList = signText (n.toInt < 0) ++ Nat.toDigits 10 n.toInt.natAbs :=
    toList_toString_int n.toInt
  have hdigits := isDigits_toDigits n.toInt.natAbs
  have hsign := takeSign_text hdigits (n.toInt < 0) []
  rw [List.append_nil] at hsign
  have hall : (Nat.toDigits 10 n.toInt.natAbs).all Char.isDigit := List.all_eq_true.2 hdigits.digit
  have hvalue : (if decide (n.toInt < 0) then -(n.toInt.natAbs : Int) else n.toInt.natAbs) =
      n.toInt := by
    split
    · rename_i hneg
      have := of_decide_eq_true hneg
      omega
    · rename_i hneg
      have := of_decide_eq_false (Bool.eq_false_of_not_eq_true hneg)
      omega
  unfold readInt?
  simp only [htext, hsign, hall, digitsValue_toDigits, hvalue]
  rw [if_neg (by simp [hdigits.ne_nil]), if_pos ⟨n.le_toInt, Int.le_of_lt_add_one n.toInt_lt⟩,
    Int64.ofInt_toInt]

theorem isNaN_of_plainText_eq (h : plainText x = plainText y) (hx : x.isNaN) : y.isNaN := by
  by_contra hy
  have hword : readFloat? "NaN" = some .nan := by decide +kernel
  have hread := readFloat?_plainText (Bool.eq_false_of_not_eq_true hy)
  rw [← h, plainText, signed, if_pos hx, hword] at hread
  obtain rfl := Option.some.inj hread
  exact hy (by decide +kernel)

/-- Different doubles have different texts, unless both are NaN. -/
theorem eq_or_isNaN_of_plainText_eq (h : plainText x = plainText y) :
    x = y ∨ x.isNaN ∧ y.isNaN := by
  by_cases hx : x.isNaN
  · exact .inr ⟨hx, isNaN_of_plainText_eq h hx⟩
  · have hy : ¬y.isNaN := fun hy => hx (isNaN_of_plainText_eq h.symm hy)
    have hread := readFloat?_plainText (Bool.eq_false_of_not_eq_true hx)
    rw [h, readFloat?_plainText (Bool.eq_false_of_not_eq_true hy)] at hread
    exact .inl (Option.some.inj hread).symm

end TableScript.NumberText
