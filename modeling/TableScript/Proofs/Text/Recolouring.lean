import Mathlib.Data.Nat.Bitwise
import TableScript.Text.Style

/-!
# Recolouring

A style is read bit by bit: each operation on styles says which bits its result has (`bit_union`,
`bit_withoutColour`, `bit_withColour`, `bit_apply`), and styles with the same bits are equal
(`ext_bit`).

The colour field holds an index of four bits, but an index of eight bits is written into it. What
does not fit is left beside the field (`leftover`), where no later colour takes it away
(`withColour_leftover`). So a colour in place of any other changes the colour alone exactly when it
leaves nothing that is not there already. That is so for indices below 16 and, on styles made with
such indices, only for them: these styles have no bit beyond the field (`Reached.within`).
-/

namespace TableScript
namespace Style

variable {s t : Style} {c d : UInt8} {i : Nat}

/-! ## Bits -/

/-- Whether a bit of the word is set. -/
def bit (s : Style) (i : Nat) : Bool := s.bits.toNat.testBit i

/-- The bits from 7 to 11 say whether there is a colour, and which. -/
def InColour (i : Nat) : Prop := 7 ≤ i ∧ i < 12

instance : DecidablePred InColour := fun i => inferInstanceAs (Decidable (7 ≤ i ∧ i < 12))

theorem bit_of_ge (s : Style) (h : 32 ≤ i) : s.bit i = false :=
  Nat.testBit_lt_two_pow (Nat.lt_of_lt_of_le s.bits.toNat_lt (Nat.pow_le_pow_right (by decide) h))

theorem ext_bit (h : ∀ i, s.bit i = t.bit i) : s = t := by
  obtain ⟨s⟩ := s
  obtain ⟨t⟩ := t
  exact congrArg mk (UInt32.toNat_inj.1 (Nat.eq_of_testBit_eq h))

theorem bit_plain (i : Nat) : plain.bit i = false := Nat.zero_testBit i

theorem bit_union (s t : Style) (i : Nat) : (s.union t).bit i = (s.bit i || t.bit i) := by
  rw [bit, union, UInt32.toNat_or, Nat.testBit_or]
  rfl

theorem bit_inter (s t : Style) (i : Nat) : (s.inter t).bit i = (s.bit i && t.bit i) := by
  rw [bit, inter, UInt32.toNat_and, Nat.testBit_and]
  rfl

/-- A style with a single bit. -/
theorem bit_two_pow {k : Nat} (hs : s.bits.toNat = 2 ^ k) (i : Nat) : s.bit i = decide (i = k) := by
  rw [bit, hs, Nat.testBit_two_pow]
  simp only [eq_comm]

/-- The bits of one style that another does not have. -/
theorem bit_inter_complement (s t : Style) (i : Nat) :
    (s.inter t.complement).bit i = (s.bit i && !t.bit i) := by
  rw [bit_inter]
  rcases Nat.lt_or_ge i 32 with hi | hi
  · have hcomplement : t.complement.bits.toNat = 2 ^ 32 - (t.bits.toNat + 1) := by
      rw [complement, UInt32.toNat_not, Nat.sub_sub, Nat.add_comm 1]
      rfl
    rw [bit, bit, hcomplement, Nat.testBit_two_pow_sub_succ t.bits.toNat_lt, decide_eq_true hi,
      Bool.true_and]
    rfl
  · rw [bit_of_ge s hi, Bool.false_and, Bool.false_and]

theorem bit_colourFlag (i : Nat) : (⟨colourFlag⟩ : Style).bit i = decide (i = 7) :=
  bit_two_pow rfl i

theorem bit_colourMask (i : Nat) : (⟨colourMask⟩ : Style).bit i = decide (8 ≤ i ∧ i < 12) := by
  have hword : ∀ i < 32, (⟨colourMask⟩ : Style).bit i = decide (8 ≤ i ∧ i < 12) := by decide
  rcases Nat.lt_or_ge i 32 with hi | hi
  · exact hword i hi
  · rw [bit_of_ge _ hi, decide_eq_false (by omega)]

theorem bit_withoutColour (s : Style) (i : Nat) :
    s.withoutColour.bit i = (s.bit i && !decide (InColour i)) := by
  change (s.inter (complement (union ⟨colourFlag⟩ ⟨colourMask⟩))).bit i = _
  rw [bit_inter_complement, bit_union, bit_colourFlag, bit_colourMask, ← Bool.decide_or]
  have hfield : i = 7 ∨ 8 ≤ i ∧ i < 12 ↔ InColour i := by
    unfold InColour
    omega
  simp only [hfield]

/-- A colour's index, written from bit 8 upwards. -/
theorem bit_index (c : UInt8) (i : Nat) :
    (⟨c.toUInt32 <<< colourShift⟩ : Style).bit i = (decide (8 ≤ i) && c.toNat.testBit (i - 8)) := by
  have hword : c.toNat <<< 8 < 2 ^ 32 := by
    have hc := c.toNat_lt
    rw [Nat.shiftLeft_eq]
    omega
  have hshift : (c.toUInt32 <<< colourShift).toNat = c.toNat <<< 8 := by
    rw [UInt32.toNat_shiftLeft, UInt8.toNat_toUInt32]
    exact Nat.mod_eq_of_lt hword
  rw [bit, hshift, Nat.testBit_shiftLeft]

theorem bit_withColour (s : Style) (c : UInt8) (i : Nat) :
    (s.withColour c).bit i =
      (s.bit i && !decide (InColour i) || decide (i = 7) ||
        decide (8 ≤ i) && c.toNat.testBit (i - 8)) := by
  change ((s.withoutColour.union ⟨colourFlag⟩).union ⟨c.toUInt32 <<< colourShift⟩).bit i = _
  rw [bit_union, bit_union, bit_withoutColour, bit_colourFlag, bit_index]

theorem inter_colourFlag_eq_plain_iff : s.inter ⟨colourFlag⟩ = plain ↔ s.bit 7 = false := by
  constructor
  · intro h
    have h7 : (s.inter ⟨colourFlag⟩).bit 7 = false := h ▸ bit_plain 7
    rwa [bit_inter, bit_colourFlag, decide_eq_true rfl, Bool.and_true] at h7
  · intro h7
    refine ext_bit fun i => ?_
    rw [bit_inter, bit_colourFlag, bit_plain]
    by_cases hi : i = 7
    · rw [hi, h7, Bool.false_and]
    · rw [decide_eq_false hi, Bool.and_false]

/-- There is a colour when bit 7 is set. -/
theorem colour?_eq (s : Style) :
    s.colour? =
      if s.bit 7 then some ((s.bits &&& colourMask) >>> colourShift).toUInt8 else none := by
  have hword : (s.bits &&& colourFlag != 0) = s.bit 7 := by
    rw [Bool.eq_iff_iff, bne_iff_ne, ne_eq, ← Bool.not_eq_false, not_iff_not,
      ← inter_colourFlag_eq_plain_iff]
    exact ⟨congrArg mk, congrArg bits⟩
  rw [colour?, hword]

theorem isSome_colour? (s : Style) : s.colour?.isSome = s.bit 7 := by
  rw [colour?_eq]
  cases s.bit 7 <;> rfl

theorem bit_apply (s t : Style) (i : Nat) :
    (s.apply t).bit i =
      (!t.isPlain && ((s.bit i && !(t.bit 7 && decide (InColour i))) || t.bit i)) := by
  unfold apply
  rw [isSome_colour?]
  cases t.isPlain
  case true => exact bit_plain i
  case false =>
    cases t.bit 7
    case true =>
      change (s.withoutColour.union t).bit i = _
      rw [bit_union, bit_withoutColour, Bool.true_and]
      rfl
    case false =>
      change (s.union t).bit i = _
      rw [bit_union, Bool.false_and, Bool.not_false, Bool.and_true]
      rfl

theorem contains_iff : s.contains t ↔ ∀ i, t.bit i → s.bit i := by
  have hword : s.contains t ↔ s.inter t = t := by
    rw [contains, beq_iff_eq]
    exact ⟨congrArg mk, congrArg bits⟩
  rw [hword]
  constructor
  · intro h i hi
    rw [← h, bit_inter, Bool.and_eq_true] at hi
    exact hi.1
  · intro h
    refine ext_bit fun i => ?_
    rw [bit_inter]
    cases hi : t.bit i
    · exact Bool.and_false _
    · rw [h i hi, Bool.and_true]

theorem contains_plain (s : Style) : s.contains plain :=
  contains_iff.2 fun i hi => absurd ((bit_plain i).symm.trans hi) Bool.false_ne_true

theorem union_eq_self (h : s.contains t) : s.union t = s := by
  refine ext_bit fun i => ?_
  rw [bit_union]
  cases hi : t.bit i
  · exact Bool.or_false _
  · rw [contains_iff.1 h i hi, Bool.or_true]

/-! ## What a colour leaves -/

/-- The bits of a colour's index that the colour field has no room for. -/
def leftover (c : UInt8) : Style := ⟨(c.toUInt32 <<< colourShift) &&& ~~~colourMask⟩

theorem bit_leftover (c : UInt8) (i : Nat) :
    (leftover c).bit i = (decide (12 ≤ i) && c.toNat.testBit (i - 8)) := by
  change (inter ⟨c.toUInt32 <<< colourShift⟩ (complement ⟨colourMask⟩)).bit i = _
  rw [bit_inter_complement, bit_index, bit_colourMask]
  grind

theorem leftover_eq_plain_iff : leftover c = plain ↔ c < 16 := by
  constructor
  · intro h
    refine Nat.lt_pow_two_of_testBit (n := 4) _ fun j hj => ?_
    have hbit : (leftover c).bit (j + 8) = false := h ▸ bit_plain (j + 8)
    rw [bit_leftover, decide_eq_true (by omega), Bool.true_and, Nat.add_sub_cancel] at hbit
    exact hbit
  · intro hc
    refine ext_bit fun i => ?_
    rw [bit_leftover, bit_plain]
    by_cases hi : 12 ≤ i
    · have hlt : c.toNat < 2 ^ (i - 8) :=
        Nat.lt_of_lt_of_le (m := 2 ^ 4) hc (Nat.pow_le_pow_right (by decide) (by omega))
      rw [Nat.testBit_lt_two_pow hlt, Bool.and_false]
    · rw [decide_eq_false hi, Bool.false_and]

theorem bit_withColour_outside (s : Style) (c : UInt8) (hi : ¬ InColour i) :
    (s.withColour c).bit i = (s.bit i || (leftover c).bit i) := by
  rw [bit_withColour, bit_leftover]
  unfold InColour at hi ⊢
  grind

theorem withoutColour_withColour (s : Style) (c : UInt8) :
    (s.withColour c).withoutColour = s.withoutColour.union (leftover c) := by
  refine ext_bit fun i => ?_
  rw [bit_withoutColour, bit_union, bit_withoutColour]
  by_cases hi : InColour i
  · have hleft : (leftover c).bit i = false := by
      rw [bit_leftover, decide_eq_false (Nat.not_le_of_lt hi.2), Bool.false_and]
    rw [decide_eq_true hi, Bool.not_true, Bool.and_false, Bool.and_false, hleft]
    rfl
  · rw [bit_withColour_outside s c hi, decide_eq_false hi]
    simp

theorem withColour_withColour (s : Style) (c d : UInt8) :
    (s.withColour c).withColour d = (s.withColour d).union (leftover c) := by
  have hover (u : Style) : u.withColour d =
      (u.withoutColour.union ⟨colourFlag⟩).union ⟨d.toUInt32 <<< colourShift⟩ := rfl
  rw [hover, withoutColour_withColour, hover s]
  refine ext_bit fun i => ?_
  simp only [bit_union]
  ac_rfl

/-- A colour in place of any other changes nothing else: the bits beside the colour field stay,
without the colour the style is what it was without, and so it is with another colour. -/
structure RecoloursOnly (s : Style) (c : UInt8) : Prop where
  outside : ∀ i, ¬ InColour i → (s.withColour c).bit i = s.bit i
  removed : (s.withColour c).withoutColour = s.withoutColour
  replaced : ∀ d, (s.withColour c).withColour d = s.withColour d

theorem not_inColour_of_leftover (h : (leftover c).bit i) : ¬ InColour i := by
  intro hin
  rw [bit_leftover, decide_eq_false (Nat.not_le_of_lt hin.2)] at h
  exact Bool.false_ne_true h

/-- What lies beside the field stays there when the colour changes. -/
theorem contains_leftover (h : s.contains (leftover c)) :
    s.withoutColour.contains (leftover c) ∧ ∀ d, (s.withColour d).contains (leftover c) := by
  simp only [contains_iff] at h ⊢
  refine ⟨fun i hi => ?_, fun d i hi => ?_⟩
  · rw [bit_withoutColour, h i hi, decide_eq_false (not_inColour_of_leftover hi)]
    rfl
  · rw [bit_withColour_outside s d (not_inColour_of_leftover hi), h i hi, Bool.true_or]

/-- A colour changes the colour alone exactly when what it leaves is there already. -/
theorem recoloursOnly_iff : RecoloursOnly s c ↔ s.contains (leftover c) := by
  constructor
  · intro h
    refine contains_iff.2 fun i hi => ?_
    have hout := not_inColour_of_leftover hi
    rw [← h.outside i hout, bit_withColour_outside s c hout, hi, Bool.or_true]
  · intro h
    obtain ⟨hremoved, hreplaced⟩ := contains_leftover h
    refine ⟨fun i hi => ?_, ?_, fun d => ?_⟩
    · rw [bit_withColour_outside s c hi, ← bit_union, union_eq_self h]
    · rw [withoutColour_withColour, union_eq_self hremoved]
    · rw [withColour_withColour, union_eq_self (hreplaced d)]

/-! ## Names -/

theorem paletteIndex?_lt {name : String} (h : paletteIndex? name = some c) : c < 16 := by
  obtain ⟨k, hk, rfl⟩ := Option.map_eq_some_iff.1 h
  obtain ⟨hlt, -⟩ := List.idxOf?_eq_some_iff.1 hk
  have hsmall : ∀ k < palette.length, k.toUInt8 < 16 := by decide
  exact hsmall k hlt

/-- What a name stands for. -/
inductive Named : String → Style → Prop
  | plain : Named "plain" plain
  | bold : Named "bold" bold
  | italic : Named "italic" italic
  | underline : Named "underline" underline
  | colour {name : String} {c : UInt8} : paletteIndex? name = some c →
    Named name (Style.plain.withColour c)

theorem named_of_ofName? {name : String} (h : ofName? name = some s) : Named name s := by
  unfold ofName? at h
  split_ifs at h with hplain hbold hitalic hunderline
  · rw [hplain, ← Option.some.inj h]
    exact .plain
  · rw [hbold, ← Option.some.inj h]
    exact .bold
  · rw [hitalic, ← Option.some.inj h]
    exact .italic
  · rw [hunderline, ← Option.some.inj h]
    exact .underline
  · obtain ⟨c, hc, rfl⟩ := Option.map_eq_some_iff.1 h
    exact .colour hc

/-! ## Styles that operations make -/

/-- The styles made from named ones by colours with these indices, by taking the colour away, and by
putting styles on top of each other or together. -/
inductive Reached (allowed : UInt8 → Prop) : Style → Prop
  | named {name : String} {s : Style} : ofName? name = some s → Reached allowed s
  | withColour {s : Style} {c : UInt8} : Reached allowed s → allowed c →
    Reached allowed (s.withColour c)
  | withoutColour {s : Style} : Reached allowed s → Reached allowed s.withoutColour
  | apply {s t : Style} : Reached allowed s → Reached allowed t → Reached allowed (s.apply t)
  | union {s t : Style} : Reached allowed s → Reached allowed t → Reached allowed (s.union t)

/-- No bit beyond the colour field is set. -/
def Within (s : Style) : Prop := ∀ i, 12 ≤ i → s.bit i = false

theorem within_of_lt (h : s.bits < 0x1000) : s.Within := fun _ hi =>
  Nat.testBit_lt_two_pow (Nat.lt_of_lt_of_le (m := 2 ^ 12) h (Nat.pow_le_pow_right (by decide) hi))

theorem Within.union (hs : s.Within) (ht : t.Within) : (s.union t).Within := fun i hi => by
  rw [bit_union, hs i hi, ht i hi, Bool.or_false]

theorem Within.withoutColour (hs : s.Within) : s.withoutColour.Within := fun i hi => by
  rw [bit_withoutColour, hs i hi, Bool.false_and]

theorem Within.withColour (hs : s.Within) (hc : c < 16) : (s.withColour c).Within := fun i hi => by
  rw [bit_withColour_outside s c fun hin => Nat.not_le_of_lt hin.2 hi, hs i hi,
    leftover_eq_plain_iff.2 hc, bit_plain, Bool.or_false]

theorem Within.apply (hs : s.Within) (ht : t.Within) : (s.apply t).Within := fun i hi => by
  rw [bit_apply, hs i hi, ht i hi, Bool.false_and, Bool.or_false, Bool.and_false]

theorem Named.within {name : String} (h : Named name s) : s.Within := by
  have hplain : Style.plain.Within := fun i _ => bit_plain i
  cases h with
  | plain => exact hplain
  | bold => exact within_of_lt (by decide)
  | italic => exact within_of_lt (by decide)
  | underline => exact within_of_lt (by decide)
  | colour hc => exact hplain.withColour (paletteIndex?_lt hc)

/-- Colours of the palette leave nothing beside the field. -/
theorem Reached.within (h : Reached (· < 16) s) : s.Within := by
  induction h with
  | named hname => exact (named_of_ofName? hname).within
  | withColour _ hc ih => exact ih.withColour hc
  | withoutColour _ ih => exact ih.withoutColour
  | apply _ _ ihs iht => exact ihs.apply iht
  | union _ _ ihs iht => exact ihs.union iht

theorem Within.contains_leftover_iff (h : s.Within) : s.contains (leftover c) ↔ c < 16 := by
  rw [← leftover_eq_plain_iff]
  constructor
  · intro hleft
    refine ext_bit fun i => ?_
    rw [bit_plain]
    by_contra hset
    rw [Bool.not_eq_false] at hset
    -- a bit of the leftover is a bit of the style, and beyond the field
    have hbit := contains_iff.1 hleft i hset
    rw [bit_leftover, Bool.and_eq_true, decide_eq_true_iff] at hset
    exact Bool.false_ne_true ((h i hset.1).symm.trans hbit)
  · intro hplain
    rw [hplain]
    exact s.contains_plain

/-- **Recolouring.** A colour in place of any other sets the colour field, and beside it the bits of
its index for which the field has no room; these stay when the colour is taken away or replaced. So
it changes the colour alone exactly when these bits are set before; on a style made with indices
below 16, exactly when its own index is below 16. -/
theorem withColour_leftover (s : Style) (c : UInt8) :
    (∀ i, ¬ InColour i → (s.withColour c).bit i = (s.bit i || (leftover c).bit i)) ∧
    (s.withColour c).withoutColour = s.withoutColour.union (leftover c) ∧
    (∀ d, (s.withColour c).withColour d = (s.withColour d).union (leftover c)) ∧
    (RecoloursOnly s c ↔ s.contains (leftover c)) ∧
    (c < 16 → RecoloursOnly s c) ∧
    (Reached (· < 16) s → RecoloursOnly s c → c < 16) := by
  refine ⟨fun i hi => bit_withColour_outside s c hi, withoutColour_withColour s c,
    withColour_withColour s c, recoloursOnly_iff, fun hc => ?_, fun hs h => ?_⟩
  · rw [recoloursOnly_iff, leftover_eq_plain_iff.2 hc]
    exact s.contains_plain
  · exact hs.within.contains_leftover_iff.1 (recoloursOnly_iff.1 h)

/-- The colour 16 on the plain style: without it, bit 12 is left. -/
theorem colour_left_behind :
    ¬ ∀ s, Reached (fun _ => True) s → ∀ c, RecoloursOnly s c := by
  intro h
  have hname : ofName? "plain" = some plain := by decide
  exact absurd (h plain (.named hname) 16).removed (by decide)

end Style
end TableScript
