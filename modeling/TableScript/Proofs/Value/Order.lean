import Mathlib.Order.Compare
import TableScript.Proofs.Number.Mixed
import TableScript.Value.Rows

/-!
# The order of values is a total preorder

Sorting needs an order in which any two values compare and which is transitive, across integers,
doubles and all other kinds.

1. Every value has a place: the position of its kind, then a number, then a text. Integers and
   doubles compare by their numbers, whichever way they are compared (`compareAlike_number`). On the
   values that can be sorted, `Value.order` is the order of places (`order_eq_comparePlaces`), which
   is a total preorder of all values;
2. the place of a number is the place of the real number that it is, or one of the ends
   (`NumberRank.compare_eq`), so numbers are in the order of what they are (`order_number`);
3. `order_preorder` puts these together.
-/

namespace TableScript

namespace Value

/-- The number a value counts as among those of its kind. -/
def placeNumber : Value → NumberRank
  | bool b => .finite b.toNat
  | int n => .ofInt n
  | float x => .ofDouble x
  | _ => .finite 0

/-- The text a value counts as among those of its kind. -/
def placeText : Value → String
  | str t => t.plain
  | _ => ""

/-- The order of values of one kind by their places. -/
def comparePlacesAlike : Value → Value → Ordering :=
  compareLex (fun a b => a.placeNumber.compare b.placeNumber) (compareOn placeText)

/-- The order of values by their places. -/
def comparePlaces : Value → Value → Ordering := compareLex (compareOn rank?) comparePlacesAlike

instance : Std.TransCmp fun a b : Value => a.placeNumber.compare b.placeNumber where
  eq_swap := Std.OrientedCmp.eq_swap
  isLE_trans := Std.TransCmp.isLE_trans

instance : Std.TransCmp comparePlacesAlike := inferInstanceAs (Std.TransCmp (compareLex _ _))

instance : Std.TransCmp comparePlaces := inferInstanceAs (Std.TransCmp (compareLex _ _))

/-- Numbers compare by their places, be they integers or doubles. -/
theorem compareAlike_number {a b : Value} (ha : a.rank? = some 2) (hb : b.rank? = some 2) :
    a.compareAlike b = a.placeNumber.compare b.placeNumber := by
  cases a <;> cases b <;>
    simp only [rank?, reduceCtorEq, Option.some.injEq, Nat.reduceEqDiff] at ha hb
  case int.int m n => exact Double.compare_toInt m n
  case int.float n x => exact Double.orderInt_eq n x
  case float.int x n =>
    change (Double.orderInt n x).swap = (NumberRank.ofDouble x).compare (.ofInt n)
    rw [Double.orderInt_eq, NumberRank.swap_compare]
  case float.float x y => exact Double.order_eq x y

theorem compareAlike_eq {a b : Value} (h : a.rank? = b.rank?) (ha : a.rank? ≠ none) :
    a.compareAlike b = comparePlacesAlike a b := by
  by_cases hnumber : a.rank? = some 2
  · have htext : a.placeText = b.placeText := by
      cases a <;> cases b <;> simp_all [rank?, placeText]
    rw [compareAlike_number hnumber (h ▸ hnumber), comparePlacesAlike, compareLex, compareOn, htext]
    simp
  -- the kinds agree, so few pairs of constructors are left
  cases a <;> cases b <;> simp only [rank?, reduceCtorEq, Option.some.injEq, Nat.reduceEqDiff,
    ne_eq, not_true_eq_false] at h ha hnumber
  case str.str t u => rfl
  case bool.bool p q => cases p <;> cases q <;> rfl
  case list.list => rfl
  case map.map => rfl
  case null.null => rfl

theorem order_eq_comparePlaces {a b : Value} (ha : a.rank? ≠ none) (hb : b.rank? ≠ none) :
    a.order b = comparePlaces a b := by
  obtain ⟨i, hi⟩ := Option.ne_none_iff_exists'.1 ha
  obtain ⟨j, hj⟩ := Option.ne_none_iff_exists'.1 hb
  have hkinds : compare (some i) (some j) = compare i j := rfl
  simp only [order, comparePlaces, compareLex, compareOn, hi, hj, hkinds]
  by_cases hij : i = j
  · subst hij
    rw [if_pos rfl, compareAlike_eq (hi.trans hj.symm) ha]
    simp
  · rw [if_neg hij]
    have hne : compare i j ≠ .eq := by simpa using hij
    cases hc : compare i j with
    | eq => exact absurd hc hne
    | lt => rfl
    | gt => rfl

theorem order_of_rank? {a b : Value} {r : Nat} (ha : a.rank? = some r) (hb : b.rank? = some r) :
    a.order b = a.compareAlike b := by
  rw [order, ha, hb]
  exact if_pos rfl

end Value

/-! ## The numbers themselves -/

/-- The real number that a finite double is: sign, significand and a power of two. The significand
lies between one and two, but for the numbers that are too small for that. -/
noncomputable def Double.toReal (x : Double) : ℝ :=
  (if x.isNegative then -1 else 1) *
    if x.exponentField = 0 then x.fraction / 2 ^ 52 * (2 : ℝ) ^ (-1022 : ℤ)
    else (1 + x.fraction / 2 ^ 52) * (2 : ℝ) ^ ((x.exponentField : ℤ) - 1023)

/-- A finite double is its count of units, each of them `2⁻¹⁰⁷⁴`. -/
theorem Double.toReal_eq {x : Double} {u : Int} (hx : NumberRank.ofDouble x = .finite u) :
    x.toReal = u * (2 : ℝ) ^ (-1074 : ℤ) := by
  have hmagnitude : (x.magnitude : ℝ) * (2 : ℝ) ^ (-1074 : ℤ) =
      if x.exponentField = 0 then x.fraction / 2 ^ 52 * (2 : ℝ) ^ (-1022 : ℤ)
      else (1 + x.fraction / 2 ^ 52) * (2 : ℝ) ^ ((x.exponentField : ℤ) - 1023) := by
    have hunit : (2 : ℝ) ^ (-1074 : ℤ) = 2 ^ (-1022 : ℤ) / 2 ^ 52 := by
      rw [← zpow_natCast, ← zpow_sub₀ two_ne_zero]
      norm_num
    rw [magnitude, Nat.pow_eq, hunit]
    by_cases hfield : x.exponentField = 0
    · rw [if_pos hfield, significand, if_pos hfield, shift, hfield]
      push_cast
      ring
    · have hpower : (2 : ℝ) ^ ((x.exponentField : ℤ) - 1023) = 2 ^ x.shift * 2 ^ (-1022 : ℤ) := by
        rw [← zpow_natCast, ← zpow_add₀ two_ne_zero, shift]
        congr 1
        omega
      rw [if_neg hfield, significand, if_neg hfield, hpower, Nat.pow_eq]
      push_cast
      field_simp
      ring
  rw [toReal, ← hmagnitude, eq_of_ofDouble hx]
  split <;> push_cast <;> ring

/-- The real number at a place, with the infinities at both ends. -/
noncomputable def NumberRank.toEReal : NumberRank → EReal
  | negInfinite => ⊥
  | finite u => ((u * (2 : ℝ) ^ (-1074 : ℤ) : ℝ) : EReal)
  | posInfinite => ⊤
  | nan => ⊤

/-- An infinite double is at one of the ends, and a finite one at the number that it is. -/
theorem NumberRank.toEReal_ofDouble {x : Double} (hx : x.isNaN = false) :
    (ofDouble x).toEReal =
      if x.isInfinite then if x.isNegative then ⊥ else ⊤ else (x.toReal : EReal) := by
  cases hinfinite : x.isInfinite with
  | true =>
    have hunits : x.units? = none := by
      have hfield : x.exponentField = 2047 := by simp_all [Double.isInfinite]
      simp [Double.units?, Double.isFinite, hfield]
    rw [ofDouble, hunits, hx]
    cases x.isNegative <;> rfl
  | false =>
    have hfinite : x.isFinite = true := by
      simp only [Double.isNaN, Double.isInfinite, Double.isFinite] at *
      grind
    obtain ⟨u, hu⟩ : ∃ u, x.units? = some u := ⟨_, if_pos hfinite⟩
    have hplace := Double.units?_eq_some_iff.1 hu
    rw [hplace, if_neg Bool.false_ne_true, Double.toReal_eq hplace]
    rfl

theorem NumberRank.compare_eq {r q : NumberRank} (hr : r ≠ .nan) (hq : q ≠ .nan) :
    r.compare q = Ord.compare r.toEReal q.toEReal := by
  have hunit : (0 : ℝ) < 2 ^ (-1074 : ℤ) := zpow_pos two_pos _
  cases r <;> cases q <;> first | exact absurd rfl hr | exact absurd rfl hq | skip
  case finite.finite u v =>
    refine Double.compare_congr ?_ ?_ <;>
      rw [toEReal, toEReal, EReal.coe_lt_coe_iff, mul_lt_mul_iff_left₀ hunit, Int.cast_lt]
  case negInfinite.finite => exact (compare_lt_iff_lt.2 (EReal.bot_lt_coe _)).symm
  case posInfinite.finite => exact (compare_gt_iff_gt.2 (EReal.coe_lt_top _)).symm
  case finite.negInfinite => exact (compare_gt_iff_gt.2 (EReal.bot_lt_coe _)).symm
  case finite.posInfinite => exact (compare_lt_iff_lt.2 (EReal.coe_lt_top _)).symm
  case negInfinite.posInfinite => exact (compare_lt_iff_lt.2 bot_lt_top).symm
  case posInfinite.negInfinite => exact (compare_gt_iff_gt.2 bot_lt_top).symm
  case negInfinite.negInfinite => exact (compare_eq_iff_eq.2 rfl).symm
  case posInfinite.posInfinite => exact (compare_eq_iff_eq.2 rfl).symm

namespace Value

/-- The number that a value is, exactly; NaN and values of other kinds are none. -/
noncomputable def number? : Value → Option EReal
  | int n => some ((n.toInt : ℝ) : EReal)
  | float x =>
    if x.isNaN then none
    else if x.isInfinite then some (if x.isNegative then ⊥ else ⊤)
    else some (x.toReal : EReal)
  | _ => none

theorem number?_eq_some {a : Value} {p : EReal} (h : a.number? = some p) :
    a.rank? = some 2 ∧ a.placeNumber ≠ .nan ∧ a.placeNumber.toEReal = p := by
  cases a with
  | int n =>
    have hunit : (Double.one : ℝ) * 2 ^ (-1074 : ℤ) = 1 := by
      have hone : (Double.one : ℝ) = 2 ^ (Double.scale : ℤ) := by
        unfold Double.one
        generalize Double.scale = scale
        simp
      have hscale : (Double.scale : ℤ) + -1074 = 0 := rfl
      rw [hone, ← zpow_add₀ two_ne_zero, hscale, zpow_zero]
    have hreal : ((n.toInt * Double.one : Int) * (2 : ℝ) ^ (-1074 : ℤ) : ℝ) = n.toInt := by
      rw [Int.cast_mul, mul_assoc, Int.cast_natCast, hunit, mul_one]
    refine ⟨rfl, nofun, ?_⟩
    rw [← Option.some.inj h, ← hreal]
    rfl
  | float x =>
    rw [number?] at h
    split at h
    · cases h
    · rename_i hnan
      have hplace : NumberRank.ofDouble x ≠ .nan := mt Double.ofDouble_eq_nan_iff.1 hnan
      refine ⟨rfl, hplace, ?_⟩
      rw [placeNumber, NumberRank.toEReal_ofDouble (Bool.not_eq_true _ ▸ hnan)]
      split at h
      · rename_i hinfinite
        rw [if_pos hinfinite, Option.some.inj h]
      · rename_i hfinite
        rw [if_neg hfinite, Option.some.inj h]
  | _ => cases h

theorem order_number {a b : Value} {p q : EReal} (ha : a.number? = some p)
    (hb : b.number? = some q) : a.order b = compare p q := by
  obtain ⟨hrank, hnan, rfl⟩ := number?_eq_some ha
  obtain ⟨hrank', hnan', rfl⟩ := number?_eq_some hb
  rw [order_of_rank? hrank hrank', compareAlike_number hrank hrank',
    NumberRank.compare_eq hnan hnan']

/-- Neither a function nor an error. -/
def IsSortable (v : Value) : Prop := (∀ f, v ≠ .fn f) ∧ ∀ e, v ≠ .error e

theorem IsSortable.rank?_ne_none {v : Value} (h : v.IsSortable) : v.rank? ≠ none := by
  cases v with
  | fn f => exact absurd rfl (h.1 f)
  | error e => exact absurd rfl (h.2 e)
  | _ => exact nofun

/-- **The order of values is a total preorder.** On values that are neither functions nor errors it
is reflexive, antisymmetric up to swapping, and transitive; equal values compare alike to every
third; and numbers are in the order of what they are exactly. -/
theorem order_preorder {a b c : Value} (ha : a.IsSortable) (hb : b.IsSortable)
    (hc : c.IsSortable) :
    a.order a = .eq ∧ a.order b = (b.order a).swap ∧
    (a.order b ≠ .gt → b.order c ≠ .gt → a.order c ≠ .gt) ∧
    (a.order b = .eq → a.order c = b.order c) ∧
    ∀ p q, a.number? = some p → b.number? = some q → a.order b = compare p q := by
  have hplaces {v w : Value} (hv : v.IsSortable) (hw : w.IsSortable) :
      v.order w = comparePlaces v w :=
    order_eq_comparePlaces hv.rank?_ne_none hw.rank?_ne_none
  rw [hplaces ha ha, hplaces ha hb, hplaces hb ha, hplaces hb hc, hplaces ha hc]
  refine ⟨Std.ReflCmp.compare_self, Std.OrientedCmp.eq_swap, ?_, ?_, fun p q hp hq => ?_⟩
  · simp only [← Ordering.isLE_iff_ne_gt]
    exact Std.TransCmp.isLE_trans
  · exact Std.TransCmp.congr_left
  · rw [← hplaces ha hb]
    exact order_number hp hq

/-- `2 ^ 53` as a double is below the integer next to it, and NaN is above both. -/
theorem order_preorder_large :
    (Value.float ⟨0x4340000000000000⟩).order (.int 9007199254740993) = .lt ∧
    (Value.float ⟨0x4340000000000000⟩).order (.float .nan) ≠ .gt := by
  have hsortable (n : Int64) : (Value.int n).IsSortable := ⟨nofun, nofun⟩
  have hsortable' (x : Double) : (Value.float x).IsSortable := ⟨nofun, nofun⟩
  obtain ⟨-, -, htrans, -, hnumbers⟩ := order_preorder (hsortable' ⟨0x4340000000000000⟩)
    (hsortable 9007199254740993) (hsortable' .nan)
  have hreal : (⟨0x4340000000000000⟩ : Double).toReal = 2 ^ 53 := by
    have hfields : (⟨0x4340000000000000⟩ : Double).exponentField = 1076 ∧
        (⟨0x4340000000000000⟩ : Double).fraction = 0 ∧
        (⟨0x4340000000000000⟩ : Double).isNegative = false := by
      decide +kernel
    rw [Double.toReal, hfields.1, hfields.2.1, hfields.2.2]
    norm_num
  have hnumber : (Value.float ⟨0x4340000000000000⟩).number? = some ((2 ^ 53 : ℝ) : EReal) := by
    have hfinite : (⟨0x4340000000000000⟩ : Double).isNaN = false ∧
        (⟨0x4340000000000000⟩ : Double).isInfinite = false := by
      decide +kernel
    rw [number?, hfinite.1, hfinite.2, hreal]
    rfl
  have hless : (Value.float ⟨0x4340000000000000⟩).order (.int 9007199254740993) = .lt := by
    have hint : Int64.toInt 9007199254740993 = 9007199254740993 := rfl
    rw [hnumbers _ _ hnumber rfl, compare_lt_iff_lt, EReal.coe_lt_coe_iff, hint]
    norm_num
  refine ⟨hless, htrans (by simp [hless]) (by decide +kernel)⟩

end Value
end TableScript
