import Mathlib.Order.Bounds.Defs
import TableScript.Text.EditDistance

/-!
# The edit distance is the least number of edits

`editDistance` finds the least number of insertions, deletions and substitutions of characters that
make one text of another (`editDistance_least`).

1. Edits happen anywhere and in any order. They can be put in order: an `Aligned` pair of texts is
   edited once, from the front to the back. Alignments compose (`Aligned.trans`), so any number of
   edits is at least the cost of an alignment (`Edits.exists_aligned`).
2. `levenshtein`, the recursion on the first characters of both texts, is the cost of the best
   alignment (`levenshtein_le`, `aligned_levenshtein`). Alignments can be read backwards, so it is a
   recursion on the last characters as well (`levenshtein_concat`).
3. That recursion fills the table. A row holds the distances of one prefix from the prefixes of the
   target up to some place (`Filled`); filling an entry moves the place (`Filled.set`), a whole row
   gives the row of the next prefix (`filled_fillRow`), and the last row is that of the whole text
   (`filled_fillRows`).
-/

namespace TableScript

variable {a b c : List Char} {m n : Nat}

theorem mismatch_self (c : Char) : mismatch c c = 0 := if_pos rfl

theorem mismatch_le_one (c d : Char) : mismatch c d ≤ 1 := by
  unfold mismatch
  split <;> omega

theorem mismatch_comm (c d : Char) : mismatch c d = mismatch d c := by
  simp only [mismatch, eq_comm]

theorem mismatch_triangle (c d e : Char) : mismatch c e ≤ mismatch c d + mismatch d e := by
  unfold mismatch
  by_cases hcd : c = d
  · rw [hcd]
    omega
  · rw [if_neg hcd]
    split <;> omega

/-! ## Edits -/

/-- One character of a text is inserted, deleted or substituted. -/
inductive Edit : List Char → List Char → Prop
  | insert (before : List Char) (c : Char) (after : List Char) :
    Edit (before ++ after) (before ++ c :: after)
  | delete (before : List Char) (c : Char) (after : List Char) :
    Edit (before ++ c :: after) (before ++ after)
  | substitute (before : List Char) (c d : Char) (after : List Char) :
    Edit (before ++ c :: after) (before ++ d :: after)

/-- So many edits, one after the other, make one text of another. -/
inductive Edits : Nat → List Char → List Char → Prop
  | none (a : List Char) : Edits 0 a a
  | next {n : Nat} {a b c : List Char} : Edit a b → Edits n b c → Edits (n + 1) a c

theorem Edit.cons (x : Char) (h : Edit a b) : Edit (x :: a) (x :: b) := by
  cases h with
  | insert before c after => exact .insert (x :: before) c after
  | delete before c after => exact .delete (x :: before) c after
  | substitute before c d after => exact .substitute (x :: before) c d after

theorem Edits.cons (x : Char) (h : Edits n a b) : Edits n (x :: a) (x :: b) := by
  induction h with
  | none a => exact .none (x :: a)
  | next hedit _ ih => exact .next (hedit.cons x) ih

/-! ## Alignments -/

/-- One text is edited into another from the front to the back, at this cost: characters are paired
with each other, inserted or deleted. -/
inductive Aligned : Nat → List Char → List Char → Prop
  | nil : Aligned 0 [] []
  | pair (x y : Char) {n : Nat} {a b : List Char} :
    Aligned n a b → Aligned (n + mismatch x y) (x :: a) (y :: b)
  | insert (y : Char) {n : Nat} {a b : List Char} : Aligned n a b → Aligned (n + 1) a (y :: b)
  | delete (x : Char) {n : Nat} {a b : List Char} : Aligned n a b → Aligned (n + 1) (x :: a) b

namespace Aligned

theorem refl (a : List Char) : Aligned 0 a a := by
  induction a with
  | nil => exact .nil
  | cons x a ih => simpa only [mismatch_self] using ih.pair x x

theorem symm (h : Aligned n a b) : Aligned n b a := by
  induction h with
  | nil => exact .nil
  | pair x y _ ih => exact mismatch_comm x y ▸ ih.pair y x
  | insert y _ ih => exact ih.delete y
  | delete x _ ih => exact ih.insert x

theorem append {a' b' : List Char} (h : Aligned m a b) (h' : Aligned n a' b') :
    Aligned (m + n) (a ++ a') (b ++ b') := by
  induction h with
  | nil => rwa [Nat.zero_add]
  | pair x y _ ih => exact Nat.add_right_comm _ _ n ▸ ih.pair x y
  | insert y _ ih => exact Nat.add_right_comm _ 1 n ▸ ih.insert y
  | delete x _ ih => exact Nat.add_right_comm _ 1 n ▸ ih.delete x

theorem reverse (h : Aligned n a b) : Aligned n a.reverse b.reverse := by
  induction h with
  | nil => exact .nil
  | pair x y _ ih =>
    rw [List.reverse_cons, List.reverse_cons]
    exact ih.append (Nat.zero_add (mismatch x y) ▸ nil.pair x y)
  | insert y _ ih =>
    have h := ih.append (nil.insert y)
    rwa [List.append_nil, ← List.reverse_cons] at h
  | delete x _ ih =>
    have h := ih.append (nil.delete x)
    rwa [List.append_nil, ← List.reverse_cons] at h

/-- What is done to the middle text is done to one of the outer ones, or undoes what was done. -/
theorem trans {m n : Nat} {a b c : List Char} (h : Aligned m a b) (h' : Aligned n b c) :
    ∃ k ≤ m + n, Aligned k a c := by
  match h, h' with
  | .nil, .nil => exact ⟨0, Nat.le_refl 0, .nil⟩
  | h, .insert z h' =>
    obtain ⟨k, hk, hac⟩ := h.trans h'
    exact ⟨k + 1, by omega, hac.insert z⟩
  | .delete x h, h' =>
    obtain ⟨k, hk, hac⟩ := h.trans h'
    exact ⟨k + 1, by omega, hac.delete x⟩
  | .pair x y h, .pair _ z h' =>
    obtain ⟨k, hk, hac⟩ := h.trans h'
    have hcost := mismatch_triangle x y z
    exact ⟨k + mismatch x z, by omega, hac.pair x z⟩
  | .pair x y h, .delete _ h' =>
    obtain ⟨k, hk, hac⟩ := h.trans h'
    exact ⟨k + 1, by omega, hac.delete x⟩
  | .insert y h, .pair _ z h' =>
    obtain ⟨k, hk, hac⟩ := h.trans h'
    exact ⟨k + 1, by omega, hac.insert z⟩
  | .insert y h, .delete _ h' =>
    obtain ⟨k, hk, hac⟩ := h.trans h'
    exact ⟨k, by omega, hac⟩
termination_by a.length + b.length + c.length
decreasing_by all_goals simp only [List.length_cons]; omega

theorem edits (h : Aligned n a b) : Edits n a b := by
  induction h with
  | nil => exact .none []
  | @pair x y n a b _ ih =>
    by_cases hxy : x = y
    · rw [← hxy, mismatch_self]
      exact ih.cons x
    · rw [mismatch, if_neg hxy]
      exact .next (.substitute [] x y a) (ih.cons y)
  | insert y _ ih => exact .next (.insert [] y _) (ih.cons y)
  | delete x _ ih => exact .next (.delete [] x _) ih

end Aligned

theorem Edit.exists_aligned (h : Edit a b) : ∃ k ≤ 1, Aligned k a b := by
  cases h with
  | insert before c after =>
    exact ⟨0 + 1, Nat.le_refl 1, (Aligned.refl before).append ((Aligned.refl after).insert c)⟩
  | delete before c after =>
    exact ⟨0 + 1, Nat.le_refl 1, (Aligned.refl before).append ((Aligned.refl after).delete c)⟩
  | substitute before c d after =>
    refine ⟨0 + (0 + mismatch c d), ?_,
      (Aligned.refl before).append ((Aligned.refl after).pair c d)⟩
    have hcost := mismatch_le_one c d
    omega

/-- Edits anywhere and in any order can be done from the front to the back. -/
theorem Edits.exists_aligned (h : Edits n a b) : ∃ k ≤ n, Aligned k a b := by
  induction h with
  | none a => exact ⟨0, Nat.le_refl 0, .refl a⟩
  | next hedit _ ih =>
    obtain ⟨j, hj, hab⟩ := hedit.exists_aligned
    obtain ⟨i, hi, hbc⟩ := ih
    obtain ⟨k, hk, hac⟩ := hab.trans hbc
    exact ⟨k, by omega, hac⟩

/-! ## The recursion -/

/-- The distance of two texts by recursion: their first characters are paired, or that of one text
is deleted or inserted. -/
def levenshtein : List Char → List Char → Nat
  | [], b => b.length
  | a, [] => a.length
  | x :: a, y :: b =>
    min (min (levenshtein a b + mismatch x y) (levenshtein a (y :: b) + 1))
      (levenshtein (x :: a) b + 1)
  termination_by a b => a.length + b.length

theorem levenshtein_nil_left (b : List Char) : levenshtein [] b = b.length := by
  rw [levenshtein]

theorem levenshtein_nil_right (a : List Char) : levenshtein a [] = a.length := by
  cases a <;> rw [levenshtein]
  exact List.cons_ne_nil _ _

theorem levenshtein_cons_cons (x y : Char) (a b : List Char) :
    levenshtein (x :: a) (y :: b) =
      min (min (levenshtein a b + mismatch x y) (levenshtein a (y :: b) + 1))
        (levenshtein (x :: a) b + 1) := by
  rw [levenshtein]

theorem levenshtein_cons_left_le (x : Char) (a b : List Char) :
    levenshtein (x :: a) b ≤ levenshtein a b + 1 := by
  cases b with
  | nil =>
    rw [levenshtein_nil_right, levenshtein_nil_right]
    exact Nat.le_refl _
  | cons y b =>
    rw [levenshtein_cons_cons]
    omega

theorem levenshtein_cons_right_le (y : Char) (a b : List Char) :
    levenshtein a (y :: b) ≤ levenshtein a b + 1 := by
  cases a with
  | nil =>
    rw [levenshtein_nil_left, levenshtein_nil_left]
    exact Nat.le_refl _
  | cons x a =>
    rw [levenshtein_cons_cons]
    omega

theorem levenshtein_le (h : Aligned n a b) : levenshtein a b ≤ n := by
  induction h with
  | nil => exact Nat.le_of_eq (levenshtein_nil_left [])
  | pair x y _ ih =>
    rw [levenshtein_cons_cons]
    omega
  | @insert y n a b _ ih =>
    have hstep := levenshtein_cons_right_le y a b
    omega
  | @delete x n a b _ ih =>
    have hstep := levenshtein_cons_left_le x a b
    omega

theorem aligned_levenshtein (a b : List Char) : Aligned (levenshtein a b) a b := by
  match a, b with
  | [], [] =>
    rw [levenshtein_nil_left]
    exact .nil
  | [], y :: b =>
    have ih := aligned_levenshtein [] b
    rw [levenshtein_nil_left] at ih ⊢
    exact ih.insert y
  | x :: a, [] =>
    have ih := aligned_levenshtein a []
    rw [levenshtein_nil_right] at ih ⊢
    exact ih.delete x
  | x :: a, y :: b =>
    -- one of the three costs is the least
    rw [levenshtein_cons_cons]
    rcases Nat.le_total (min (levenshtein a b + mismatch x y) (levenshtein a (y :: b) + 1))
      (levenshtein (x :: a) b + 1) with h | h
    · rw [Nat.min_eq_left h]
      rcases Nat.le_total (levenshtein a b + mismatch x y) (levenshtein a (y :: b) + 1) with h | h
      · rw [Nat.min_eq_left h]
        exact (aligned_levenshtein a b).pair x y
      · rw [Nat.min_eq_right h]
        exact (aligned_levenshtein a (y :: b)).delete x
    · rw [Nat.min_eq_right h]
      exact (aligned_levenshtein (x :: a) b).insert y
termination_by a.length + b.length

theorem levenshtein_reverse_le (a b : List Char) :
    levenshtein a.reverse b.reverse ≤ levenshtein a b :=
  levenshtein_le (aligned_levenshtein a b).reverse

theorem levenshtein_reverse (a b : List Char) :
    levenshtein a.reverse b.reverse = levenshtein a b := by
  refine Nat.le_antisymm (levenshtein_reverse_le a b) ?_
  have h := levenshtein_reverse_le a.reverse b.reverse
  rwa [List.reverse_reverse, List.reverse_reverse] at h

/-- The recursion on the last characters of both texts. -/
theorem levenshtein_concat (x y : Char) (a b : List Char) :
    levenshtein (a ++ [x]) (b ++ [y]) =
      min (min (levenshtein a b + mismatch x y) (levenshtein a (b ++ [y]) + 1))
        (levenshtein (a ++ [x]) b + 1) := by
  rw [← levenshtein_reverse (a ++ [x]) (b ++ [y]), ← levenshtein_reverse a b,
    ← levenshtein_reverse a (b ++ [y]), ← levenshtein_reverse (a ++ [x]) b]
  simp only [List.reverse_concat]
  exact levenshtein_cons_cons x y a.reverse b.reverse

/-! ## The rows -/

/-- A row of the table, filled up to some place: its entries are the distances of one text from the
prefixes of another. -/
structure Filled (row : Array Nat) (a b : List Char) (n : Nat) : Prop where
  size_eq : row.size = b.length + 1
  entry : ∀ k ≤ n, row[k]? = some (levenshtein a (b.take k))

variable {row above : Array Nat}

theorem Filled.getElem! (h : Filled row a b n) {k : Nat} (hk : k ≤ n) :
    row[k]! = levenshtein a (b.take k) := by
  rw [getElem!_def, h.entry k hk]

theorem filled_start (hsize : row.size = b.length + 1) : Filled (row.set! 0 a.length) a b 0 where
  size_eq := by rw [Array.set!_eq_setIfInBounds, Array.size_setIfInBounds, hsize]
  entry k hk := by
    obtain rfl := Nat.le_zero.1 hk
    rw [Array.set!_eq_setIfInBounds, Array.getElem?_setIfInBounds_self_of_lt (by omega),
      List.take_zero, levenshtein_nil_right]

theorem Filled.set (h : Filled row a b n) (hn : n < b.length) :
    Filled (row.set! (n + 1) (levenshtein a (b.take (n + 1)))) a b (n + 1) where
  size_eq := by rw [Array.set!_eq_setIfInBounds, Array.size_setIfInBounds, h.size_eq]
  entry k hk := by
    have hsize := h.size_eq
    rw [Array.set!_eq_setIfInBounds]
    rcases Nat.lt_succ_iff_lt_or_eq.1 (Nat.lt_succ_of_le hk) with hlt | rfl
    · rw [Array.getElem?_setIfInBounds_ne (by omega), h.entry k (Nat.le_of_lt_succ hlt)]
    · rw [Array.getElem?_setIfInBounds_self_of_lt (by omega)]

/-- The first row: to make a text of nothing, each of its characters is inserted. -/
theorem filled_range (b : List Char) : Filled (Array.range (b.length + 1)) [] b b.length where
  size_eq := Array.size_range
  entry k hk := by
    rw [levenshtein_nil_left, List.length_take_of_le hk, Array.getElem?_range,
      if_pos (Nat.lt_succ_of_le hk)]

theorem filled_fillRow (x : Char) (before rest : List Char)
    (habove : Filled above a (before ++ rest) (before ++ rest).length)
    (hrow : Filled row (a ++ [x]) (before ++ rest) before.length) :
    Filled (fillRow x above before.length row rest) (a ++ [x]) (before ++ rest)
      (before ++ rest).length := by
  induction rest generalizing before row with
  | nil => simpa only [List.append_nil, fillRow] using hrow
  | cons y rest ih =>
    have hlt : before.length < (before ++ y :: rest).length := by simp
    have hbefore : (before ++ y :: rest).take before.length = before := List.take_left
    have hlength : (before ++ [y]).length = before.length + 1 := List.length_append
    have hwith : (before ++ y :: rest).take (before.length + 1) = before ++ [y] := by
      rw [List.append_cons before, ← hlength, List.take_left]
    -- the three entries that are read, and the one that is written
    have hcorner := habove.getElem! (Nat.le_of_lt hlt)
    have hup : above[before.length + 1]! = _ := habove.getElem! hlt
    have hleft := hrow.getElem! (Nat.le_refl _)
    have hentry := hrow.set hlt
    rw [hbefore] at hcorner hleft
    rw [hwith] at hup hentry
    rw [levenshtein_concat, ← hcorner, ← hup, ← hleft] at hentry
    rw [List.append_cons before] at habove hentry ⊢
    rw [fillRow, ← hlength]
    rw [← hlength] at hentry
    exact ih (before ++ [y]) habove hentry

theorem filled_fillRows (b rest : List Char) {spare : Array Nat}
    (habove : Filled above a b b.length) (hspare : spare.size = b.length + 1) :
    Filled (fillRows b a.length above spare rest) (a ++ rest) b b.length := by
  induction rest generalizing a above spare with
  | nil => simpa only [List.append_nil, fillRows] using habove
  | cons x rest ih =>
    have hlength : (a ++ [x]).length = a.length + 1 := List.length_append
    have hstart : Filled (spare.set! 0 (a.length + 1)) (a ++ [x]) b 0 :=
      hlength ▸ filled_start hspare
    have hfilled := filled_fillRow x [] b habove hstart
    have h := ih hfilled habove.size_eq
    rw [hlength] at h
    rw [fillRows, List.append_cons]
    exact h

theorem editDistance_eq (a b : String) : editDistance a b = levenshtein a.toList b.toList := by
  unfold editDistance
  split
  case isTrue hempty =>
    rw [hempty]
    exact (levenshtein_nil_left b.toList).symm
  case isFalse =>
    have hlast := filled_fillRows b.toList a.toList (filled_range b.toList)
      (Array.size_replicate (n := b.toList.length + 1) (v := 0))
    have hentry := hlast.getElem! (Nat.le_refl _)
    rwa [List.nil_append, List.take_length] at hentry

/-! ## The distance -/

theorem isLeast_levenshtein (a b : List Char) : IsLeast {n | Edits n a b} (levenshtein a b) := by
  refine ⟨(aligned_levenshtein a b).edits, fun n hn => ?_⟩
  obtain ⟨k, hk, haligned⟩ := Edits.exists_aligned hn
  exact Nat.le_trans (levenshtein_le haligned) hk

theorem levenshtein_comm_le (a b : List Char) : levenshtein b a ≤ levenshtein a b :=
  levenshtein_le (aligned_levenshtein a b).symm

theorem levenshtein_eq_zero_iff : levenshtein a b = 0 ↔ a = b := by
  constructor
  · intro h
    have hedits := (aligned_levenshtein a b).edits
    rw [h] at hedits
    cases hedits
    rfl
  · rintro rfl
    exact Nat.le_zero.1 (levenshtein_le (.refl a))

theorem levenshtein_triangle (a b c : List Char) :
    levenshtein a c ≤ levenshtein a b + levenshtein b c := by
  obtain ⟨k, hk, hac⟩ := (aligned_levenshtein a b).trans (aligned_levenshtein b c)
  exact Nat.le_trans (levenshtein_le hac) hk

/-- **The edit distance.** The table ends with the least number of insertions, deletions and
substitutions that make one text of the other, which is also what the recursion on both texts gives;
so the distance is a metric. -/
theorem editDistance_least (a b : String) :
    IsLeast {n | Edits n a.toList b.toList} (editDistance a b) ∧
    editDistance a b = levenshtein a.toList b.toList ∧
    editDistance a b = editDistance b a ∧
    (editDistance a b = 0 ↔ a = b) ∧
    ∀ c : String, editDistance a c ≤ editDistance a b + editDistance b c := by
  simp only [editDistance_eq, true_and]
  refine ⟨isLeast_levenshtein a.toList b.toList, ?_, ?_, fun c => ?_⟩
  · exact Nat.le_antisymm (levenshtein_comm_le _ _) (levenshtein_comm_le _ _)
  · rw [levenshtein_eq_zero_iff, String.toList_inj]
  · exact levenshtein_triangle a.toList b.toList c.toList

/-- Two substitutions and an insertion. -/
example : editDistance "kitten" "sitting" = 3 := by decide +kernel

end TableScript
