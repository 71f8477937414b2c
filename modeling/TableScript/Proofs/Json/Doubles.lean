import TableScript.Proofs.Json.Text

/-!
# Doubles that are read back

The reader of numbers rounds twice: once where the gathered digits become a double, once where that
double is scaled by a power of ten. `reread_of_oneRounding`: a finite double is read back as itself
when its shortest decimal is such that the first rounding and the power of ten are exact.
-/

namespace TableScript.Json.Number

/-! ## Gathering -/

theorem gatherPlaces_eq {cs : List Char} {w : Nat} {e : Int}
    (h : Nat.ofDigitChars 10 cs w ≤ maxWord) :
    gatherPlaces ⟨w, e⟩ cs = ⟨Nat.ofDigitChars 10 cs w, e - cs.length⟩ := by
  induction cs generalizing w e with
  | nil => simp [gatherPlaces]
  | cons c cs ih =>
    rw [Nat.ofDigitChars_cons] at h ⊢
    have hfits : ¬maxWord < 10 * w + (c.toNat - '0'.toNat) :=
      Nat.not_lt_of_le (Nat.le_trans (le_ofDigitChars cs _) h)
    rw [gatherPlaces]
    simp only [mul_ten_add_digitValue]
    rw [if_neg hfits, ih h, List.length_cons, Int.natCast_succ]
    congr 1
    omega

/-- The digits around the point are gathered as one number, each place a tenth. -/
theorem gather_eq {whole places : List Char} {n : Nat}
    (hn : Nat.ofDigitChars 10 (whole ++ places) 0 = n) (hfits : n < 2 ^ 53) :
    gatherPlaces (gatherWhole {} whole) places = ⟨n, -places.length⟩ := by
  have hmax : n ≤ maxWord := by
    simp only [maxWord, Nat.pow_eq]
    omega
  rw [Nat.ofDigitChars_append] at hn
  rw [gatherWhole_eq (Nat.le_trans (le_ofDigitChars places _) (hn ▸ hmax)),
    gatherPlaces_eq (hn ▸ hmax), hn, Int.zero_sub]

/-- A literal with places is scaled from what it gathers. -/
theorem toJson?_places (negative : Bool) (whole places : List Char) :
    (Literal.mk negative whole (some places) none).toJson? =
      (scale? (gatherPlaces (gatherWhole {} whole) places)).map fun x =>
        .float (Double.withSign negative x) := rfl

theorem digitsValue_eq (cs : List Char) : NumberText.digitsValue cs = Nat.ofDigitChars 10 cs 0 := by
  unfold NumberText.digitsValue
  generalize 0 = w
  induction cs generalizing w with
  | nil => rfl
  | cons c cs ih =>
    rw [List.foldl_cons, ih, Nat.ofDigitChars_cons, mul_ten_add_digitValue]

theorem digitsValue_toDigits (n : Nat) : NumberText.digitsValue (Nat.toDigits 10 n) = n := by
  rw [digitsValue_eq, Nat.ofDigitChars_ten_toDigits]

/-- An exponent within 32 bits is added to what the literal gathers. -/
theorem toJson?_exponent (negative : Bool) (whole : List Char) (places : Option (List Char))
    {g : Gathered} (hg : gatherPlaces (gatherWhole {} whole) (places.getD []) = g) {e : Int}
    (he : e.natAbs < 2 ^ 31) :
    (Literal.mk negative whole places (some (e < 0, Nat.toDigits 10 e.natAbs))).toJson? =
      (scale? ⟨g.word, g.exponent + e⟩).map fun x => .float (Double.withSign negative x) := by
  have happly : applyExponent? g (e < 0) (Nat.toDigits 10 e.natAbs) =
      scale? ⟨g.word, g.exponent + e⟩ := by
    unfold applyExponent?
    simp only [digitsValue_toDigits, Nat.pow_eq]
    rw [if_pos (by exact_mod_cast he)]
    congr 2
    by_cases hneg : e < 0
    · simp only [hneg, decide_true, if_true]
      omega
    · simp only [hneg, decide_false, Bool.false_eq_true, if_false]
      omega
  subst hg
  rw [← happly]
  cases places <;> rfl

/-- What the literal of a decimal gathers: the digits, or all the digits to the first place. -/
def gathered (d : Decimal) : Gathered :=
  if 0 ≤ d.exponent ∧ NumberText.pointPosition d ≤ 16 then
    ⟨d.digits * 10 ^ (d.exponent.toNat + 1), -1⟩
  else ⟨d.digits, d.exponent⟩

/-- The digits of a decimal can be gathered, and both they and the power of ten that they are scaled
by are doubles. -/
structure OneRounding (d : Decimal) : Prop where
  word : (gathered d).word < 2 ^ 53
  exponent : (gathered d).exponent.natAbs ≤ 22

theorem toJson?_positionalLiteral (negative : Bool) {d : Decimal}
    (hpoint : NumberText.pointPosition d ≤ 16) (hword : (gathered d).word < 2 ^ 53) :
    (positionalLiteral negative d).toJson? =
      (scale? (gathered d)).map fun x => .float (Double.withSign negative x) := by
  unfold positionalLiteral
  simp only
  split_ifs with hwhole hplaces
  · rw [gathered, if_pos ⟨hwhole, hpoint⟩] at hword ⊢
    rw [toJson?_places, gather_eq (n := d.digits * 10 ^ (d.exponent.toNat + 1)) _ hword]
    · rfl
    · rw [List.append_assoc, ← List.replicate_succ', Nat.ofDigitChars_append,
        Nat.ofDigitChars_ten_toDigits, Nat.ofDigitChars_replicate_zero, Nat.mul_comm]
  · rw [gathered, if_neg fun h => hwhole h.1] at hword ⊢
    rw [toJson?_places, gather_eq (n := d.digits) _ hword]
    · rw [List.length_drop]
      congr 3
      omega
    · rw [List.take_append_drop, Nat.ofDigitChars_ten_toDigits]
  · rw [gathered, if_neg fun h => hwhole h.1] at hword ⊢
    rw [toJson?_places, gather_eq (n := d.digits) _ hword]
    · rw [List.length_append, List.length_replicate]
      congr 3
      omega
    · rw [List.singleton_append, ← List.cons_append, ← List.replicate_succ, Nat.ofDigitChars_append,
        Nat.ofDigitChars_replicate_zero, Nat.mul_zero, Nat.ofDigitChars_ten_toDigits]

theorem toJson?_scientificLiteral (negative : Bool) {d : Decimal}
    (hpoint : ¬(0 ≤ d.exponent ∧ NumberText.pointPosition d ≤ 16)) (h : OneRounding d) :
    (scientificLiteral negative d).toJson? =
      (scale? (gathered d)).map fun x => .float (Double.withSign negative x) := by
  obtain ⟨hword, hexponent⟩ := h
  rw [gathered, if_neg hpoint] at hword hexponent ⊢
  simp only at hword hexponent
  have hlength : (Nat.toDigits 10 d.digits).length ≤ 16 :=
    (Nat.length_toDigits_le_iff (by decide) (by decide)).2 (Nat.lt_trans hword (by decide))
  have hplaces : (if (Nat.toDigits 10 d.digits).length = 1 then none
      else some ((Nat.toDigits 10 d.digits).drop 1)).getD [] =
        (Nat.toDigits 10 d.digits).drop 1 := by
    split
    · rename_i hone
      rw [Option.getD_none, List.drop_eq_nil_of_le (Nat.le_of_eq hone)]
    · rfl
  have hgather := gather_eq (n := d.digits)
    (by rw [List.take_append_drop 1, Nat.ofDigitChars_ten_toDigits]) hword
  rw [List.length_drop, ← hplaces] at hgather
  rw [scientificLiteral, toJson?_exponent negative _ _ hgather (by omega)]
  congr 3
  dsimp only
  omega

/-- Both layouts of a double scale what they gather. -/
theorem toJson?_doubleLiteral {x : Double} (h : OneRounding (Decimal.shortest x)) :
    (doubleLiteral x).toJson? = (scale? (gathered (Decimal.shortest x))).map fun y =>
      .float (Double.withSign x.isNegative y) := by
  unfold doubleLiteral
  simp only
  split_ifs with hpositional
  · refine toJson?_positionalLiteral _ ?_ h.word
    obtain hzero | hpoint := hpositional
    · rw [NumberText.pointPosition, hzero, exponent_shortest hzero]
      decide
    · exact hpoint.2
  · refine toJson?_scientificLiteral _ (fun hwhole => hpositional (.inr ⟨?_, hwhole.2⟩)) h
    have : 0 ≤ NumberText.pointPosition (Decimal.shortest x) :=
      Int.add_nonneg hwhole.1 (Int.natCast_nonneg _)
    omega

/-! ## Scaling -/

open Double

theorem isWhole_powerOfTen {e : Nat} (he : e ≤ 22) : IsWhole (powerOfTen e) (10 ^ e) := by
  have hfive : 5 ^ e < 2 ^ 53 :=
    Nat.lt_of_le_of_lt (Nat.pow_le_pow_right (by decide) he) (by decide)
  have hpower := isWhole_ofInt (Nat.pow_pos (by decide)) hfive (show e ≤ 900 by omega)
  rw [← Nat.mul_pow] at hpower
  exact hpower

theorem isWhole_word {n : Nat} (hpos : 0 < n) (hn : n < 2 ^ 53) : IsWhole (ofInt n) n := by
  simpa using isWhole_ofInt hpos hn (Nat.zero_le 900)

variable {x : Double}

theorem four_mul_one : 2 ^ Decimal.quarterScale = 4 * one := by
  rw [one_eq, Decimal.quarterScale, Nat.pow_add, Nat.mul_comm]

/-- What is gathered exactly and scaled by an exact power of ten is rounded once, so it gives every
double whose interval has it. -/
theorem scale?_of_has {g : Gathered} (hx : x.isFinite) (hx' : x.magnitude ≠ 0) (hpos : 0 < g.word)
    (hword : g.word < 2 ^ 53) (hexponent : g.exponent.natAbs ≤ 22)
    (h : (Decimal.Interval.of x.significand x.shift).Has ⟨g.word, g.exponent⟩) :
    scale? g = some ⟨.ofNat x.magnitudeBits⟩ := by
  obtain ⟨word, exponent⟩ := g
  simp only at hpos hword hexponent h
  have hdigits := isWhole_word hpos hword
  unfold Decimal.Interval.Has at h
  simp only [four_mul_one] at h
  unfold scale?
  simp only
  by_cases hup : 0 ≤ exponent
  · have hten := isWhole_powerOfTen (e := exponent.toNat) (by omega)
    have hproduct : ofInt word * powerOfTen exponent.toNat = ⟨.ofNat x.magnitudeBits⟩ := by
      refine mul_of_contains hx hx' hdigits hten ?_
      rw [show (-exponent).toNat = 0 by omega, Nat.pow_zero] at h
      rw [show 4 * (word * 10 ^ exponent.toNat * one) =
        word * (10 ^ exponent.toNat * (4 * one)) by ring]
      exact h
    rw [if_pos hup, if_pos (by omega), hproduct, if_neg]
    rw [isInfinite_magnitudeBits, not_isInfinite hx]
    decide
  · have hten := isWhole_powerOfTen hexponent
    rw [if_neg hup, scaleDown, if_pos (by omega)]
    refine congrArg some (div_of_contains hx hx' hdigits hten (Nat.pow_pos (by decide)) ?_)
    generalize one = unit at h ⊢
    rw [show exponent.toNat = 0 by omega, show (-exponent).toNat = exponent.natAbs by omega,
      Nat.pow_zero, Nat.one_mul] at h
    rw [Nat.mul_left_comm]
    exact h

/-- What a double's literal gathers lies in its interval, as the shortest decimal does. -/
theorem has_gathered (hx : x.magnitude ≠ 0) : (Decimal.Interval.of x.significand x.shift).Has
    ⟨(gathered (Decimal.shortest x)).word, (gathered (Decimal.shortest x)).exponent⟩ := by
  have hshortest := Decimal.has_shortest hx
  generalize Decimal.shortest x = d at hshortest ⊢
  unfold gathered
  split
  · rename_i hwhole
    have hexponent : (-1 : Int) = d.exponent - (d.exponent.toNat + 1 : Nat) := by omega
    rw [hexponent]
    exact (Decimal.has_mul_pow ..).2 hshortest
  · exact hshortest

/-- Zero is written as `0.0`, and a tenth of zero is zero. -/
theorem scale?_zero : scale? (gathered ⟨0, 0⟩) = some .zero := by decide +kernel

theorem scale?_gathered (hx : x.isFinite) (h : OneRounding (Decimal.shortest x)) :
    scale? (gathered (Decimal.shortest x)) = some ⟨.ofNat x.magnitudeBits⟩ := by
  by_cases hzero : x.magnitude = 0
  · rw [Decimal.shortest, if_pos hzero, scale?_zero, magnitudeBits_eq_zero hzero]
    rfl
  · refine scale?_of_has hx hzero ?_ h.word h.exponent (has_gathered hzero)
    have hdigits := Decimal.digits_shortest_pos hzero
    unfold gathered
    split
    · exact Nat.mul_pos hdigits (Nat.pow_pos (by decide))
    · exact hdigits

end TableScript.Json.Number

namespace TableScript.Json

open Number

/-- A finite double is read back as itself when only the last step of reading its text rounds. -/
theorem reread_of_oneRounding {x : Double} (hx : x.isFinite)
    (h : OneRounding (Decimal.shortest x)) : (reread x).double? = some x := by
  rw [reread_eq hx, Literal.draft, toJson?_doubleLiteral h, scale?_gathered hx h]
  simp only [Option.map_some, Double.withSign_magnitudeBits]
  rfl

end TableScript.Json
