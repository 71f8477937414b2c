import Mathlib.Data.String.Basic
import TableScript.Fault.Report

/-!
# Bytes and characters

A character takes one to four bytes, so a text has at least as many bytes as characters
(`length_le_utf8Len`), and as many only if each character takes one (`utf8Len_eq_length_iff`).
A byte offset at which a character starts cuts a text into what stands before and after it
(`splitAtByte?_append`).
-/

namespace TableScript

open String (utf8Len utf8Len_cons)

theorem length_le_utf8Len (cs : List Char) : cs.length ≤ utf8Len cs := by
  induction cs with
  | nil => exact Nat.le_refl 0
  | cons c cs ih =>
    have hc := c.utf8Size_pos
    rw [utf8Len_cons, List.length_cons]
    omega

theorem utf8Len_eq_length_iff {cs : List Char} :
    utf8Len cs = cs.length ↔ ∀ c ∈ cs, c.utf8Size = 1 := by
  induction cs with
  | nil => simp
  | cons c cs ih =>
    have hc := c.utf8Size_pos
    have hcs := length_le_utf8Len cs
    rw [utf8Len_cons, List.length_cons, List.forall_mem_cons, ← ih]
    omega

theorem splitAtByte?_zero (cs : List Char) : splitAtByte? cs 0 = some ([], cs) := by
  cases cs <;> rfl

/-- Cutting at the bytes of a part in front cuts behind this part. -/
theorem splitAtByte?_append (before after : List Char) :
    splitAtByte? (before ++ after) (utf8Len before) = some (before, after) := by
  induction before with
  | nil => exact splitAtByte?_zero after
  | cons c before ih =>
    have hc := c.utf8Size_pos
    obtain ⟨n, hn⟩ := Nat.exists_eq_add_one_of_ne_zero (show utf8Len (c :: before) ≠ 0 by
      rw [utf8Len_cons]; omega)
    rw [utf8Len_cons] at hn
    rw [utf8Len_cons, hn, List.cons_append, splitAtByte?, if_pos (by omega),
      show n + 1 - c.utf8Size = utf8Len before by omega, ih]
    rfl

end TableScript
