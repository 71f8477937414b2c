/-!
# Ranges of integers

The integers from a start towards a stop in steps, counted in words. Counting ends at the stop, or
where the next integer would not fit a word. It comes to an end, as every step brings it nearer to
the stop (`ahead_lt`).
-/

namespace TableScript

/-- The sum of two words, if it fits a word. -/
def addChecked? (a b : Int64) : Option Int64 :=
  if Int64.minValue.toInt ≤ a.toInt + b.toInt ∧ a.toInt + b.toInt ≤ Int64.maxValue.toInt then
    some (.ofInt (a.toInt + b.toInt))
  else none

theorem toInt_of_addChecked? {a b c : Int64} (h : addChecked? a b = some c) :
    c.toInt = a.toInt + b.toInt := by
  unfold addChecked? at h
  split at h
  case isTrue hfits =>
    rw [Int64.toInt_minValue, Int64.toInt_maxValue] at hfits
    rw [← Option.some.inj h, Int64.toInt_ofInt_of_le hfits.1 (by omega)]
  case isFalse => cases h

/-- Whether an integer lies strictly before a stop, in the direction of a step. -/
def isBefore (stop step i : Int64) : Bool := (0 < step && i < stop) || (step < 0 && stop < i)

theorem isBefore_iff {stop step i : Int64} :
    isBefore stop step i = true ↔
      (0 < step.toInt ∧ i.toInt < stop.toInt) ∨ (step.toInt < 0 ∧ stop.toInt < i.toInt) := by
  simp only [isBefore, Bool.or_eq_true, Bool.and_eq_true, decide_eq_true_eq,
    Int64.lt_iff_toInt_lt, Int64.toInt_zero]

/-- How far ahead a stop is. -/
def ahead (stop step i : Int64) : Nat :=
  if 0 < step then (stop.toInt - i.toInt).toNat else (i.toInt - stop.toInt).toNat

theorem ahead_lt {stop step i next : Int64} (h : isBefore stop step i = true)
    (hnext : addChecked? i step = some next) : ahead stop step next < ahead stop step i := by
  have hsum := toInt_of_addChecked? hnext
  have hpos : 0 < step ↔ 0 < step.toInt := Int64.lt_iff_toInt_lt
  unfold ahead
  rcases isBefore_iff.1 h with ⟨hstep, hi⟩ | ⟨hstep, hi⟩
  · rw [if_pos (hpos.2 hstep), if_pos (hpos.2 hstep)]
    omega
  · rw [if_neg (by rw [hpos]; omega), if_neg (by rw [hpos]; omega)]
    omega

/-- Counts on from `i`, behind the integers counted so far. -/
def countFrom (stop step i : Int64) (counted : Array Int64) : Array Int64 :=
  if _h : isBefore stop step i then
    match _hnext : addChecked? i step with
    | some next => countFrom stop step next (counted.push i)
    | none => counted.push i
  else counted
termination_by ahead stop step i
decreasing_by exact ahead_lt _h _hnext

/-- The integers `start, start + step, …` strictly before `stop`, in the direction of `step`. -/
def rangeWords (start stop step : Int64) : List Int64 := (countFrom stop step start #[]).toList

end TableScript
