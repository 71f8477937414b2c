import Mathlib
import TableScript.Number.Double

/-!
# When two doubles are the same number

The machine compares doubles by value. Said of their bits (`Double.sameNumber_iff`): neither is NaN,
and they have the same bits or are both zero. So it is symmetric, and reflexive on all doubles but
NaN.

The lemmas about packed floating point words (`pack_unpack`, `unpackExponent_def`) stand in a module
that no part of Mathlib imports, only Mathlib as a whole.
-/

namespace TableScript.Double

open Float.Model UnpackedFloat

/-- The bits of a double as a binary floating point word. -/
def word (x : Double) : BitVec Format.binary64.numBits := x.bits.toBitVec

theorem word_inj {x y : Double} : x.word = y.word ↔ x = y := by
  cases x
  cases y
  rw [mk.injEq]
  exact UInt64.toBitVec_inj

theorem toNat_unpackExponent (x : Double) : (unpackExponent x.word).toNat = x.exponentField := by
  rw [unpackExponent_def, BitVec.extractLsb'_toNat, Nat.shiftRight_eq_div_pow]
  unfold exponentField magnitudeBits
  show x.bits.toNat / 2 ^ 52 % 2 ^ 11 = x.bits.toNat % 2 ^ 63 / 2 ^ 52
  omega

theorem toNat_unpackMantissa (x : Double) : (unpackMantissa x.word).toNat = x.fraction := by
  rw [unpackMantissa_def, BitVec.extractLsb'_toNat, Nat.shiftRight_eq_div_pow]
  unfold fraction magnitudeBits
  show x.bits.toNat / 2 ^ 0 % 2 ^ 52 = x.bits.toNat % 2 ^ 63 % 2 ^ 52
  omega

theorem isNaNBits_word (x : Double) : isNaNBits x.word = x.isNaN := by
  rw [Bool.eq_iff_iff]
  simp [isNaNBits, isNaN, ← BitVec.toNat_inj, toNat_unpackExponent, toNat_unpackMantissa]

/-- The machine has one NaN, and keeps all other words as they are. -/
theorem toBits_toFloat (x : Double) :
    x.toFloat.toBits.toBitVec = if x.isNaN then packedNaN Format.binary64 else x.word := by
  rw [← isNaNBits_word]
  exact pack_unpack x.word

theorem word_ne_packedNaN {x : Double} (h : x.isNaN = false) :
    x.word ≠ packedNaN Format.binary64 := by
  intro hx
  have hnan : isNaNBits x.word = true := hx ▸ isNaNBits_packedNaN
  rw [isNaNBits_word, h] at hnan
  cases hnan

/-- The two zeros are the words that are zero but for the sign. -/
theorem isZero_iff (x : Double) :
    x.isZero = true ↔ x.word = packedZero Format.binary64 .positive ∨
      x.word = packedZero Format.binary64 .negative := by
  have hpos : (packedZero Format.binary64 .positive).toNat = 0 := by decide
  have hneg : (packedZero Format.binary64 .negative).toNat = 2 ^ 63 := by decide
  have hword : x.word.toNat = x.bits.toNat := rfl
  have hlt : x.bits.toNat < 2 ^ 64 := x.bits.toNat_lt
  have hzero : x.isZero = true ↔ x.bits.toNat % 2 ^ 63 = 0 := decide_eq_true_iff
  rw [← BitVec.toNat_inj, ← BitVec.toNat_inj, hpos, hneg, hword, hzero]
  omega

/-- **Equality of numbers.** -/
theorem sameNumber_iff (x y : Double) : x.sameNumber y = true ↔
    x.isNaN = false ∧ y.isNaN = false ∧ (x = y ∨ x.isZero = true ∧ y.isZero = true) := by
  have hbits : x.sameNumber y = true ↔ _ :=
    unpack_beq_unpack_iff x.toFloat.toModel.valid y.toFloat.toModel.valid
  change x.sameNumber y = true ↔ x.toFloat.toBits.toBitVec ≠ _ ∧ y.toFloat.toBits.toBitVec ≠ _ ∧
    (x.toFloat.toBits.toBitVec = y.toFloat.toBits.toBitVec ∨
      x.toFloat.toBits.toBitVec = _ ∧ y.toFloat.toBits.toBitVec = _ ∨
      x.toFloat.toBits.toBitVec = _ ∧ y.toFloat.toBits.toBitVec = _) at hbits
  rw [hbits, toBits_toFloat, toBits_toFloat]
  cases hx : x.isNaN with
  | true => simp
  | false =>
    cases hy : y.isNaN with
    | true => simp
    | false =>
      simp only [Bool.false_eq_true, ↓reduceIte, ne_eq, word_ne_packedNaN hx, word_ne_packedNaN hy,
        not_false_eq_true, true_and, isZero_iff]
      rw [← word_inj]
      constructor
      · rintro (h | ⟨hx, hy⟩ | ⟨hx, hy⟩)
        · exact .inl h
        · exact .inr ⟨.inl hx, .inr hy⟩
        · exact .inr ⟨.inr hx, .inl hy⟩
      · rintro (h | ⟨hx | hx, hy | hy⟩)
        · exact .inl h
        · exact .inl (hx.trans hy.symm)
        · exact .inr (.inl ⟨hx, hy⟩)
        · exact .inr (.inr ⟨hx, hy⟩)
        · exact .inl (hx.trans hy.symm)

theorem sameNumber_comm (x y : Double) : x.sameNumber y = y.sameNumber x := by
  rw [Bool.eq_iff_iff, sameNumber_iff, sameNumber_iff]
  constructor
  · rintro ⟨hx, hy, rfl | ⟨hx', hy'⟩⟩
    · exact ⟨hy, hx, .inl rfl⟩
    · exact ⟨hy, hx, .inr ⟨hy', hx'⟩⟩
  · rintro ⟨hy, hx, rfl | ⟨hy', hx'⟩⟩
    · exact ⟨hx, hy, .inl rfl⟩
    · exact ⟨hx, hy, .inr ⟨hx', hy'⟩⟩

theorem sameNumber_self {x : Double} (h : x.isNaN = false) : x.sameNumber x = true :=
  (sameNumber_iff x x).2 ⟨h, h, .inl rfl⟩

end TableScript.Double
