import Mathlib.Data.List.Basic
import TableScript.Text.Rich

/-!
# Rich text as a list of styled characters

How a text is divided into segments shows nowhere but in its looks. Read as the list of its
characters, each with its look (`RichText.chars`), every operation on texts is one on lists:

1. dropping empty segments drops no character (`chars_ofSegments`);
2. cutting every segment at what is left of the bounds cuts the list at the bounds (`chars_slice`);
3. the plain text is the list without the looks (`toList_plain`). No segment is empty, so there is
   none exactly when there is no character (`isEmpty_iff`).

`styled_characters` says so of all operations.
-/

namespace TableScript

/-- The characters of a segment with their looks. -/
def Segment.chars (s : Segment) : List (Char × Look) := s.text.toList.map (·, s.look)

theorem Segment.chars_eq_nil {s : Segment} (h : s.text = "") : s.chars = [] := by
  simp [chars, h]

namespace RichText

variable {t u : RichText}

theorem chars_ofSegments (segments : List Segment) :
    (ofSegments segments).chars = segments.flatMap Segment.chars := by
  change (segments.filter (·.text ≠ "")).flatMap Segment.chars = _
  induction segments with
  | nil => rfl
  | cons s rest ih =>
    by_cases h : s.text = ""
    · rw [List.filter_cons_of_neg (by simp [h]), ih, List.flatMap_cons, Segment.chars_eq_nil h,
        List.nil_append]
    · rw [List.filter_cons_of_pos (by simp [h]), List.flatMap_cons, ih, List.flatMap_cons]

theorem chars_append (t u : RichText) : (t ++ u).chars = t.chars ++ u.chars :=
  List.flatMap_append

theorem chars_ofString (s : String) : (ofString s).chars = s.toList.map (·, ({} : Look)) := by
  rw [ofString, chars_ofSegments]
  exact List.flatMap_singleton _ _

theorem chars_push (t : RichText) (s : String) :
    (t.push s).chars = t.chars ++ s.toList.map (·, ({} : Look)) := by
  rw [push, chars_append, chars_ofString]

/-! ## Cutting -/

/-- Each segment is cut at what the ones before it leave of the bounds. -/
theorem flatMap_sliceSegments (start stop : Nat) (segments : List Segment) :
    (sliceSegments start stop segments).flatMap Segment.chars =
      ((segments.flatMap Segment.chars).take stop).drop start := by
  induction segments generalizing start stop with
  | nil => simp [sliceSegments]
  | cons s rest ih =>
    have hlength : s.chars.length = s.text.toList.length := List.length_map _
    have hcut : (String.ofList ((s.text.toList.take stop).drop start)).toList.map (·, s.look) =
        (s.chars.take stop).drop start := by
      rw [String.toList_ofList, List.map_drop, List.map_take, Segment.chars]
    rw [sliceSegments, List.flatMap_cons, List.flatMap_cons, ih, List.take_append, List.drop_append,
      hlength]
    refine congrArg₂ (· ++ ·) hcut ?_
    rw [List.length_take, hlength]
    -- past the end of this segment the bounds are shortened by all of it, before it nothing is left
    rcases Nat.le_total stop s.text.toList.length with h | h
    · rw [Nat.sub_eq_zero_of_le h, List.take_zero, List.drop_nil, List.drop_nil]
    · rw [Nat.min_eq_right h]

theorem chars_slice (t : RichText) (start stop : Nat) :
    (t.slice start stop).chars = (t.chars.take stop).drop start := by
  rw [slice, chars_ofSegments, flatMap_sliceSegments]
  rfl

/-! ## Looks and repetition -/

theorem chars_mapLook (f : Look → Look) (t : RichText) :
    (t.mapLook f).chars = t.chars.map fun (c, l) => (c, f l) := by
  unfold chars mapLook
  rw [List.flatMap_map, List.map_flatMap]
  simp only [List.map_map]
  rfl

theorem chars_replicate (t : RichText) (n : Int) :
    (t.replicate n).chars = (List.replicate n.toNat t.chars).flatten := by
  change ((List.replicate n.toNat t.segments).flatten).flatMap Segment.chars = _
  induction n.toNat with
  | zero => rfl
  | succ k ih =>
    rw [List.replicate_succ, List.flatten_cons, List.flatMap_append, ih, List.replicate_succ,
      List.flatten_cons]
    rfl

theorem chars_mapText (f : String → String) (t : RichText) :
    (t.mapText f).chars = t.segments.flatMap fun s => (f s.text).toList.map (·, s.look) := by
  rw [mapText, chars_ofSegments, List.flatMap_map]
  rfl

/-! ## Plain text -/

theorem toList_plain (t : RichText) : t.plain.toList = t.chars.map Prod.fst := by
  rw [plain, String.toList_join, List.flatMap_map, chars, List.map_flatMap]
  refine congrArg (t.segments.flatMap ·) (funext fun s => ?_)
  rw [List.map_map]
  exact (List.map_id _).symm

theorem length_eq (t : RichText) : t.length = t.chars.length := by
  rw [length, ← String.length_toList, toList_plain, List.length_map]

theorem length_eq_of_plain_eq (h : t.plain = u.plain) : t.length = u.length :=
  congrArg String.length h

@[simp] theorem plain_append (t u : RichText) : (t ++ u).plain = t.plain ++ u.plain := by
  rw [← String.toList_inj, String.toList_append, toList_plain, toList_plain, toList_plain,
    chars_append, List.map_append]

@[simp] theorem plain_ofString (s : String) : (ofString s).plain = s := by
  rw [← String.toList_inj, toList_plain, chars_ofString, List.map_map]
  exact List.map_id _

@[simp] theorem plain_push (t : RichText) (s : String) : (t.push s).plain = t.plain ++ s := by
  rw [push, plain_append, plain_ofString]

@[simp] theorem plain_slice (t : RichText) (start stop : Nat) :
    (t.slice start stop).plain = String.ofList ((t.plain.toList.take stop).drop start) := by
  rw [← String.toList_inj, String.toList_ofList, toList_plain, toList_plain, chars_slice,
    List.map_drop, List.map_take]

@[simp] theorem plain_replicate (t : RichText) (n : Int) :
    (t.replicate n).plain = String.ofList (List.replicate n.toNat t.plain.toList).flatten := by
  rw [← String.toList_inj, String.toList_ofList, toList_plain, toList_plain, chars_replicate,
    List.map_flatten, List.map_replicate]

/-- No segment is empty, so a text without characters has no segments. -/
theorem isEmpty_iff_chars : t.isEmpty = true ↔ t.chars = [] := by
  rw [isEmpty, List.isEmpty_iff, chars, List.flatMap_eq_nil_iff]
  constructor
  · intro h s hs
    rw [h] at hs
    cases hs
  · intro h
    refine List.eq_nil_iff_forall_not_mem.2 fun s hs => t.nonempty s hs ?_
    exact String.toList_eq_nil_iff.1 (List.map_eq_nil_iff.1 (h s hs))

theorem isEmpty_iff : t.isEmpty = true ↔ t.plain = "" := by
  rw [isEmpty_iff_chars, ← String.toList_eq_nil_iff, toList_plain, List.map_eq_nil_iff]

theorem map_chars_charAt? (t : RichText) (i : Nat) :
    (t.charAt? i).map chars = t.chars[i]?.map ([·]) := by
  have hchars : (t.slice i (i + 1)).chars = t.chars[i]?.toList := by
    rw [chars_slice, List.drop_take, Nat.add_sub_cancel_left, List.take_one, List.head?_drop]
  unfold charAt?
  extract_lets c
  cases hi : t.chars[i]? with
  | none =>
    rw [hi] at hchars
    rw [if_pos (isEmpty_iff_chars.2 hchars)]
    rfl
  | some x =>
    rw [hi] at hchars
    have hne : ¬c.isEmpty = true := fun h => by
      rw [isEmpty_iff_chars, hchars] at h
      cases h
    rw [if_neg hne]
    exact congrArg some hchars

theorem map_plain_charAt? (t : RichText) (i : Nat) :
    (t.charAt? i).map plain = t.plain.toList[i]?.map fun c => String.ofList [c] := by
  have hplain : plain = (fun cs => String.ofList (cs.map Prod.fst)) ∘ chars := by
    funext u
    rw [Function.comp_apply, ← toList_plain, String.ofList_toList]
  rw [toList_plain, List.getElem?_map, Option.map_map, hplain, ← Option.map_map, map_chars_charAt?,
    Option.map_map]
  rfl

theorem charAt?_eq_none_iff {i : Nat} : t.charAt? i = none ↔ t.length ≤ i := by
  rw [← Option.map_eq_none_iff (f := chars), map_chars_charAt?, Option.map_eq_none_iff,
    List.getElem?_eq_none_iff, length_eq]

/-! ## All operations -/

/-- **Rich text is a list of styled characters.** Joining, cutting, picking a character, repeating,
adding bare text and changing looks are what they are on lists, whatever the segments. Changing the
texts of segments keeps their looks. Whichever operation made a text, none of its segments is empty,
and it counts as empty exactly when its plain text is. -/
theorem styled_characters (t u : RichText) :
    (t ++ u).chars = t.chars ++ u.chars ∧
    (∀ start stop, (t.slice start stop).chars = (t.chars.take stop).drop start) ∧
    (∀ i, (t.charAt? i).map chars = t.chars[i]?.map ([·]) ∧ (t.charAt? i = none ↔ t.length ≤ i)) ∧
    (∀ n, (t.replicate n).chars = (List.replicate (max n 0).toNat t.chars).flatten) ∧
    (∀ s : String, (t.push s).chars = t.chars ++ s.toList.map (·, ({} : Look))) ∧
    (∀ style, (t.withStyle style).chars =
      t.chars.map fun (c, l) => (c, { l with style := l.style.apply style })) ∧
    (∀ rgb, (t.withRgb rgb).chars = t.chars.map fun (c, l) => (c, { l with rgb := some rgb })) ∧
    (∀ link, (t.withLink link).chars =
      t.chars.map fun (c, l) => (c, { l with link := some link })) ∧
    t.length = t.chars.length ∧
    (∀ f, (t.mapText f).chars = t.segments.flatMap fun s => (f s.text).toList.map (·, s.look)) ∧
    ∀ v : RichText, (∀ s ∈ v.segments, s.text ≠ "") ∧ (v.isEmpty = true ↔ v.plain = "") := by
  refine ⟨chars_append t u, chars_slice t, fun i => ⟨map_chars_charAt? t i, charAt?_eq_none_iff⟩,
    fun n => ?_, chars_push t, fun style => chars_mapLook _ t, fun rgb => chars_mapLook _ t,
    fun link => chars_mapLook _ t, length_eq t, fun f => chars_mapText f t,
    fun v => ⟨v.nonempty, isEmpty_iff⟩⟩
  rw [chars_replicate, show (max n 0).toNat = n.toNat by omega]

end RichText
end TableScript
