import TableScript.Eval.Builtins

/-!
# Ranges are exact

A range holds the integers `start + k * step` that lie strictly before the stop, in their order and
without any other, up to the ends of the words (`range_exact`).

1. `Counts` says so of a list of words; it is what counting adds to what was counted before
   (`countFrom_counts`).
2. Counting ends at the stop, behind which no later integer lies before it (`counts_nil`).
3. It also ends where the next integer fits no word. That one is past every stop
   (`not_before_of_addChecked?`), so nothing is missing.
-/

namespace TableScript

variable {stop step x : Int} {i : Int64} {ws : List Int64}

/-- Whether an integer lies strictly before a stop, in the direction of a step. -/
def Before (stop step x : Int) : Prop := (0 < step ∧ x < stop) ∨ (step < 0 ∧ stop < x)

instance : Decidable (Before stop step x) := inferInstanceAs (Decidable (_ ∨ _))

/-- The words are the integers `x + k * step` before a stop, in their order. -/
def Counts (stop step x : Int) (ws : List Int64) : Prop :=
  ∀ k : Nat, ws[k]?.map Int64.toInt =
    if Before stop step (x + k * step) then some (x + k * step) else none

/-! ## Counting -/

/-- What is not before a stop stays so with every further step. -/
theorem not_before_add (h : ¬ Before stop step x) (k : Nat) :
    ¬ Before stop step (x + k * step) := by
  rintro (⟨hstep, hlt⟩ | ⟨hstep, hlt⟩)
  · have hk : 0 ≤ (k : Int) * step := Int.mul_nonneg (by omega) (by omega)
    exact h (.inl ⟨hstep, by omega⟩)
  · have hk : (k : Int) * step ≤ 0 := Int.mul_nonpos_of_nonneg_of_nonpos (by omega) (by omega)
    exact h (.inr ⟨hstep, by omega⟩)

theorem counts_nil (h : ¬ Before stop step x) : Counts stop step x [] := fun k => by
  rw [if_neg (not_before_add h k)]
  rfl

theorem counts_cons (h : Before stop step i.toInt) (hws : Counts stop step (i.toInt + step) ws) :
    Counts stop step i.toInt (i :: ws) := by
  intro k
  cases k with
  | zero => simp [h]
  | succ k =>
    have hk : i.toInt + ((k + 1 : Nat) : Int) * step = i.toInt + step + k * step := by
      rw [Int.natCast_add, Int.add_mul]
      omega
    rw [List.getElem?_cons_succ, hws k, hk]

/-- An integer that fits no word is past every stop. -/
theorem not_before_of_addChecked? (stop : Int64) {step : Int64} (h : addChecked? i step = none) :
    ¬ Before stop.toInt step.toInt (i.toInt + step.toInt) := by
  have hlow := stop.le_toInt
  have hhigh := stop.toInt_lt
  have hi := i.le_toInt
  have hi' := i.toInt_lt
  unfold addChecked? at h
  rw [Int64.toInt_minValue, Int64.toInt_maxValue] at h
  split at h
  case isTrue => cases h
  case isFalse hfits =>
    unfold Before
    omega

/-- Counting adds the integers from `i` on to those counted before. -/
theorem countFrom_counts (stop step i : Int64) (counted : Array Int64) :
    ∃ ws, (countFrom stop step i counted).toList = counted.toList ++ ws ∧
      Counts stop.toInt step.toInt i.toInt ws := by
  fun_induction countFrom stop step i counted with
  | case1 i counted hbefore next hnext ih =>
    obtain ⟨ws, heq, hws⟩ := ih
    rw [toInt_of_addChecked? hnext] at hws
    exact ⟨i :: ws, by simp [heq], counts_cons (isBefore_iff.1 hbefore) hws⟩
  | case2 i counted hbefore hnone =>
    have hlast := counts_nil (not_before_of_addChecked? stop hnone)
    exact ⟨[i], by simp, counts_cons (isBefore_iff.1 hbefore) hlast⟩
  | case3 i counted hbefore =>
    exact ⟨[], by simp, counts_nil (mt isBefore_iff.2 hbefore)⟩

theorem rangeWords_counts (start stop step : Int64) :
    Counts stop.toInt step.toInt start.toInt (rangeWords start stop step) := by
  obtain ⟨ws, heq, hws⟩ := countFrom_counts stop step start #[]
  rw [rangeWords, heq]
  exact hws

/-! ## The function -/

namespace Builtin

/-- **Ranges are exact up to the ends of the words.** With a step other than zero, a new list holds
exactly the integers `start + k * step` that lie strictly before the stop in the direction of the
step, computed without wrapping around, in their order. A step of zero is the only failure. -/
theorem range_exact (start stop step : Int64) (span : Option Span) (m : Machine) :
    (step ≠ 0 → ∃ (a : Nat) (m' : Machine) (ws : List Int64),
      Builtin.range.call { args := [.int start, .int stop, .int step], span } m =
        .ok [.list a] m' ∧
      m'.store.items a = ws.map .int ∧ Counts stop.toInt step.toInt start.toInt ws) ∧
    (step = 0 → ∃ m',
      Builtin.range.call { args := [.int start, .int stop, .int step], span } m =
        .error (.unwind (.failure (.typeMismatch "range() step cannot be 0") span)) m') := by
  have hcall : Builtin.range.call { args := [.int start, .int stop, .int step], span } m =
      Run.atSpan span (rangeList start stop step) m := rfl
  constructor
  · intro hstep
    obtain ⟨a, m', hlist, hitems⟩ := returnList_eq ((rangeWords start stop step).map .int) m
    refine ⟨a, m', _, ?_, hitems, rangeWords_counts start stop step⟩
    rw [hcall, rangeList, if_neg hstep, Run.atSpan, hlist]
  · intro hstep
    rw [hcall, rangeList, if_pos hstep]
    exact ⟨_, rfl⟩

/-- Downwards to the least word, where one more step would wrap around. -/
theorem range_exact_least :
    (-3 : Int64) ≠ 0 ∧ ∃ (a : Nat) (m' : Machine) (ws : List Int64),
      Builtin.range.call
        { args := [.int (Int64.minValue + 4), .int Int64.minValue, .int (-3)] } {} =
        .ok [.list a] m' ∧
      m'.store.items a = ws.map .int ∧
      Counts Int64.minValue.toInt (Int64.toInt (-3)) (Int64.minValue + 4).toInt ws :=
  have hstep : (-3 : Int64) ≠ 0 := by decide
  ⟨hstep, (range_exact (Int64.minValue + 4) Int64.minValue (-3) none {}).1 hstep⟩

end Builtin
end TableScript
