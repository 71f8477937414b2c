import TableScript.Proofs.Text.Characters
import TableScript.Value.Index

/-!
# Lists and strings as sequences

A list is the sequence of its elements, a string that of its characters with their looks
(`Store.sequence?`). Indexing and slicing are two different walks for the two, with one outcome:

1. an index selects the item it names, counted from the end if it is negative, or names a place
   outside (`index_inside`, `index_outside`);
2. a slice is the run of items between its bounds, wherever they lie (`slice_run`); what is before a
   bound and what is from it on make up the whole (`extract_append_extract`);
3. the places are computed in words without overflow, as long as the length fits a word
   (`resolveIndexWord_eq`, `clampBoundWord_eq`).

`sequence_laws` puts these together.
-/

namespace TableScript

/-- An item of a sequence: an element of a list, or a character of a string with its look. -/
inductive Item where
  | element (v : Value)
  | character (c : Char) (look : Look)

/-- A value is an item by itself: the element, or the string of the one character. -/
def Item.Is : Item → Value → Prop
  | .element v, w => w = v
  | .character c look, w => ∃ t, w = .str t ∧ t.chars = [(c, look)]

/-- The place that an index or a bound names: a negative one counts from the end. -/
def wrapped (i : Int64) (length : Nat) : Int :=
  if i.toInt < 0 then length + i.toInt else i.toInt

/-- The place of a bound, moved to the nearest end if it lies outside. -/
def clamped (bound : Option Int64) (default length : Nat) : Nat :=
  match bound with
  | none => default
  | some i => (max 0 (min (length : Int) (wrapped i length))).toNat

/-! ## Places -/

theorem resolveIndex_inside {i : Int64} {length : Nat} (hlow : -(length : Int) ≤ i.toInt)
    (hhigh : i.toInt < length) : resolveIndex i length = .ok (wrapped i length).toNat := by
  unfold resolveIndex wrapped
  extract_lets position
  have hposition : position = if i.toInt < 0 then length + i.toInt else i.toInt := by
    unfold position
    split <;> omega
  rw [if_pos, hposition]
  split at hposition <;> omega

theorem resolveIndex_outside {i : Int64} {length : Nat}
    (h : ¬ (-(length : Int) ≤ i.toInt ∧ i.toInt < length)) :
    resolveIndex i length = .error (.indexOutOfBounds i length) := by
  unfold resolveIndex
  extract_lets position
  rw [if_neg]
  unfold position
  split <;> omega

theorem clampBound_eq (bound : Option Int64) (default length : Nat) :
    clampBound bound default length = clamped bound default length := by
  cases bound with
  | none => rfl
  | some i =>
    unfold clampBound clamped wrapped
    dsimp only
    split <;> omega

/-- What is before a place and what is from it on make up the whole. -/
theorem extract_append_extract {α : Type} (xs : List α) (n : Nat) :
    xs.extract 0 n ++ xs.extract n xs.length = xs := by
  rw [List.extract_eq_take_drop, List.extract_eq_take_drop, List.drop_zero, Nat.sub_zero,
    ← List.length_drop, List.take_length, List.take_append_drop]

/-! ## Places in words -/

/-- `resolveIndex` in words, with a sum that would wrap around. -/
def resolveIndexWord (i : Int64) (length : Nat) : Except Fault Nat :=
  let position := if i < 0 then i + Int64.ofNat length else i
  if position < 0 ∨ Int64.ofNat length ≤ position then .error (.indexOutOfBounds i length)
  else .ok position.toNatClampNeg

/-- `clampBound` in words, with a sum that would wrap around. -/
def clampBoundWord (bound : Option Int64) (default length : Nat) : Nat :=
  match bound with
  | none => default
  | some i =>
    if i < 0 then (max (i + Int64.ofNat length) 0).toNatClampNeg else min i.toNatClampNeg length

section Words

variable {i : Int64} {length : Nat}

theorem toInt_neg_iff : i < 0 ↔ i.toInt < 0 := by
  rw [Int64.lt_iff_toInt_lt, Int64.toInt_zero]

theorem toNatClampNeg_max_zero (i : Int64) : (max i 0).toNatClampNeg = i.toInt.toNat := by
  rw [← Int64.toNat_toInt]
  show (if i ≤ 0 then 0 else i).toInt.toNat = i.toInt.toNat
  split
  · next h =>
    rw [Int64.le_iff_toInt_le, Int64.toInt_zero] at h
    rw [Int64.toInt_zero]
    omega
  · rfl

theorem toInt_ofNat_length (h : (length : Int) ≤ Int64.maxValue.toInt) :
    (Int64.ofNat length).toInt = length := by
  have hmax : Int64.maxValue.toInt = 2 ^ 63 - 1 := by decide
  exact Int64.toInt_ofNat_of_lt (by omega)

/-- A negative word and a length that fits a word have their sum in a word. -/
theorem toInt_add_length (hi : i < 0) (h : (length : Int) ≤ Int64.maxValue.toInt) :
    (i + Int64.ofNat length).toInt = i.toInt + length := by
  have hmax : Int64.maxValue.toInt = 2 ^ 63 - 1 := by decide
  have hmin : -2 ^ 63 ≤ i.toInt := i.le_toInt
  have hnegative : i.toInt < 0 := toInt_neg_iff.1 hi
  rw [Int64.toInt_add, toInt_ofNat_length h]
  apply Int.bmod_eq_of_le <;> omega

theorem resolveIndexWord_eq (h : (length : Int) ≤ Int64.maxValue.toInt) :
    resolveIndexWord i length = resolveIndex i length := by
  have hposition : (if i < 0 then i + Int64.ofNat length else i).toInt =
      if i.toInt < 0 then i.toInt + length else i.toInt := by
    by_cases hi : i < 0
    · rw [if_pos hi, if_pos (toInt_neg_iff.1 hi), toInt_add_length hi h]
    · rw [if_neg hi, if_neg (mt toInt_neg_iff.2 hi)]
  unfold resolveIndexWord resolveIndex
  extract_lets position place
  have hplace : position.toInt = place := hposition
  have houtside : (position < 0 ∨ Int64.ofNat length ≤ position) ↔
      ¬ (0 ≤ place ∧ place < length) := by
    rw [toInt_neg_iff, Int64.le_iff_toInt_le, toInt_ofNat_length h, hplace]
    omega
  by_cases hinside : 0 ≤ place ∧ place < length
  · rw [if_neg (mt houtside.1 (not_not_intro hinside)), if_pos hinside, ← hplace,
      Int64.toNat_toInt]
  · rw [if_pos (houtside.2 hinside), if_neg hinside]

theorem clampBoundWord_eq (h : (length : Int) ≤ Int64.maxValue.toInt) (bound : Option Int64)
    (default : Nat) : clampBoundWord bound default length = clampBound bound default length := by
  cases bound with
  | none => rfl
  | some i =>
    unfold clampBoundWord clampBound
    dsimp only
    by_cases hi : i < 0
    · rw [if_pos hi, if_pos (toInt_neg_iff.1 hi), toNatClampNeg_max_zero, toInt_add_length hi h]
    · rw [if_neg hi, if_neg (mt toInt_neg_iff.2 hi), Int64.toNat_toInt]

end Words

namespace Store

variable {st : Store} {target : Value} {xs : List Item}

/-- The sequence that a list or a string is. -/
def sequence? (st : Store) : Value → Option (List Item)
  | .list a => st.lists[a]?.map fun items => items.map .element
  | .str t => some (t.chars.map fun (c, look) => .character c look)
  | _ => none

/-- A sequence is a list or a string, with these items. -/
theorem sequence?_eq_some_iff : st.sequence? target = some xs ↔
    (∃ a, target = .list a ∧ a < st.lists.size ∧ xs = (st.items a).map .element) ∨
    ∃ t, target = .str t ∧ xs = t.chars.map fun (c, look) => .character c look := by
  cases target with
  | list a =>
    by_cases ha : a < st.lists.size
    · simp [sequence?, items, Array.getD, ha, eq_comm]
    · simp [sequence?, ha]
  | str t => simp [sequence?, eq_comm]
  | _ => simp [sequence?]

/-! ## Indexing -/

theorem index_inside (h : st.sequence? target = some xs) {i : Int64}
    (hlow : -(xs.length : Int) ≤ i.toInt) (hhigh : i.toInt < xs.length) :
    ∃ item v, xs[(wrapped i xs.length).toNat]? = some item ∧
      st.index target (.int i) = .ok v ∧ item.Is v := by
  have hresolved := resolveIndex_inside hlow hhigh
  have hplace : (wrapped i xs.length).toNat < xs.length := by
    unfold wrapped
    split <;> omega
  generalize (wrapped i xs.length).toNat = n at hresolved hplace
  obtain ⟨a, rfl, -, rfl⟩ | ⟨t, rfl, rfl⟩ := sequence?_eq_some_iff.1 h
  · rw [List.length_map] at hresolved hplace
    have hitem : (st.items a)[n]? = some (st.items a)[n] := List.getElem?_eq_getElem hplace
    refine ⟨.element (st.items a)[n], (st.items a)[n], ?_, ?_, rfl⟩
    · rw [List.getElem?_map, hitem, Option.map_some]
    · simp [index, Value.requireInt, hresolved, hitem, bind, Except.bind]
  · rw [List.length_map] at hresolved hplace
    have hchar : t.chars[n]? = some t.chars[n] := List.getElem?_eq_getElem hplace
    have hchars := t.map_chars_charAt? n
    rw [hchar, Option.map_some] at hchars
    obtain ⟨u, hu, huchars⟩ := Option.map_eq_some_iff.1 hchars
    refine ⟨.character t.chars[n].1 t.chars[n].2, .str u, ?_, ?_, u, rfl, huchars⟩
    · rw [List.getElem?_map, hchar, Option.map_some]
    · rw [← t.length_eq] at hresolved
      simp [index, Value.requireInt, hresolved, hu, bind, Except.bind]

theorem index_outside (h : st.sequence? target = some xs) {i : Int64}
    (hi : ¬ (-(xs.length : Int) ≤ i.toInt ∧ i.toInt < xs.length)) :
    st.index target (.int i) = .error (.indexOutOfBounds i xs.length) := by
  have hresolved := resolveIndex_outside hi
  obtain ⟨a, rfl, -, rfl⟩ | ⟨t, rfl, rfl⟩ := sequence?_eq_some_iff.1 h
  · rw [List.length_map] at hresolved ⊢
    simp [index, Value.requireInt, hresolved, bind, Except.bind]
  · rw [List.length_map, ← t.length_eq] at hresolved ⊢
    simp [index, Value.requireInt, hresolved, bind, Except.bind]

/-! ## Slicing -/

theorem sequence?_newList (st : Store) (items : List Value) :
    (st.newList items).2.sequence? (st.newList items).1 = some (items.map .element) := by
  simp [newList, sequence?]

/-- A new list leaves the sequences there are alone. -/
theorem sequence?_newList_of_some (h : st.sequence? target = some xs) (items : List Value) :
    (st.newList items).2.sequence? target = some xs := by
  cases target with
  | list a =>
    unfold sequence? at h ⊢
    obtain ⟨old, hold, rfl⟩ := Option.map_eq_some_iff.1 h
    obtain ⟨ha, -⟩ := Array.getElem?_eq_some_iff.1 hold
    show (st.lists.push items)[a]?.map _ = _
    rw [Array.getElem?_push_lt ha, ← Array.getElem?_eq_getElem ha, hold, Option.map_some]
  | _ => exact h

/-- **A slice is the run of items between its bounds**, as a list or a string of its own; other
sequences stay as they are. -/
theorem slice_run (h : st.sequence? target = some xs) (start stop : Option Int64) :
    ∃ v st', slice target start stop st = .ok v st' ∧
      st'.sequence? v = some (xs.extract (clamped start 0 xs.length)
        (clamped stop xs.length xs.length)) ∧
      ∀ u ys, st.sequence? u = some ys → st'.sequence? u = some ys := by
  obtain ⟨a, rfl, -, rfl⟩ | ⟨t, rfl, rfl⟩ := sequence?_eq_some_iff.1 h
  · rw [List.length_map]
    refine ⟨_, _, rfl, ?_, fun u ys hu => sequence?_newList_of_some hu _⟩
    refine (sequence?_newList st _).trans ?_
    rw [clampBound_eq, clampBound_eq, List.map_drop, List.map_take, List.drop_take,
      ← List.extract_eq_take_drop]
  · rw [List.length_map]
    refine ⟨_, _, rfl, ?_, fun u ys hu => hu⟩
    rw [sequence?, RichText.chars_slice, clampBound_eq, clampBound_eq, t.length_eq, List.map_drop,
      List.map_take, List.drop_take, ← List.extract_eq_take_drop]

/-- Cutting a sequence in two loses nothing, wherever the cut is. -/
theorem slice_slice (h : st.sequence? target = some xs) (k : Int64) :
    ∃ v st' w st'' ys zs, slice target none (some k) st = .ok v st' ∧
      slice target (some k) none st' = .ok w st'' ∧ st''.sequence? v = some ys ∧
      st''.sequence? w = some zs ∧ ys ++ zs = xs := by
  obtain ⟨v, st', hfirst, hv, hkept⟩ := slice_run h none (some k)
  obtain ⟨w, st'', hsecond, hw, hkept'⟩ := slice_run (hkept target xs h) (some k) none
  refine ⟨v, st', w, st'', _, _, hfirst, hsecond, hkept' v _ hv, hw, ?_⟩
  exact extract_append_extract xs _

/-- **Indexing and slicing.** Of a list or a string with `n` items, an index `i` selects an item
exactly when `-n ≤ i < n`: item `i`, or item `n + i` if `i` is negative; any other index is out of
bounds. A slice never fails and is the run of items between its bounds, each of which counts from
the end if negative and is moved to the nearest end if it lies outside; it is empty where they
cross. The slice up to a bound and the slice from it on make up the whole, for every bound. As long
as `n` fits a word, no sum on the way to a place overflows, so that words give the same places. -/
theorem sequence_laws (h : st.sequence? target = some xs) :
    (∀ i : Int64, (-(xs.length : Int) ≤ i.toInt ∧ i.toInt < xs.length → ∃ item v,
        xs[(if i.toInt < 0 then xs.length + i.toInt else i.toInt).toNat]? = some item ∧
        st.index target (.int i) = .ok v ∧ item.Is v) ∧
      (¬ (-(xs.length : Int) ≤ i.toInt ∧ i.toInt < xs.length) →
        st.index target (.int i) = .error (.indexOutOfBounds i xs.length))) ∧
    (∀ start stop, ∃ v st' run, slice target start stop st = .ok v st' ∧
      st'.sequence? v = some run ∧
      run = xs.extract (clamped start 0 xs.length) (clamped stop xs.length xs.length) ∧
      (clamped stop xs.length xs.length ≤ clamped start 0 xs.length → run = [])) ∧
    (∀ k, ∃ v st' w st'' ys zs, slice target none (some k) st = .ok v st' ∧
      slice target (some k) none st' = .ok w st'' ∧ st''.sequence? v = some ys ∧
      st''.sequence? w = some zs ∧ ys ++ zs = xs) ∧
    ((xs.length : Int) ≤ Int64.maxValue.toInt → ∀ i : Int64,
      (i < 0 → (i + Int64.ofNat xs.length).toInt = i.toInt + xs.length) ∧
      resolveIndexWord i xs.length = resolveIndex i xs.length ∧
      ∀ default, clampBoundWord (some i) default xs.length =
        clampBound (some i) default xs.length) := by
  refine ⟨fun i => ⟨fun hi => index_inside h hi.1 hi.2, index_outside h⟩, fun start stop => ?_,
    slice_slice h, fun hfits i => ⟨fun hi => toInt_add_length hi hfits, resolveIndexWord_eq hfits,
      clampBoundWord_eq hfits (some i)⟩⟩
  obtain ⟨v, st', hslice, hrun, -⟩ := slice_run h start stop
  refine ⟨v, st', _, hslice, hrun, rfl, fun hcross => ?_⟩
  rw [List.extract_eq_take_drop, Nat.sub_eq_zero_of_le hcross, List.take_zero]

/-- The text `héllo` with its second half in bold. -/
def halfBold : RichText :=
  .ofSegments [{ text := "hé" }, { text := "llo", look := { style := .bold } }]

theorem sequence_laws_halfBold :
    (∃ v, Store.index {} (.str halfBold) (.int (-3)) = .ok v ∧
      (Item.character 'l' { style := .bold }).Is v) ∧
    Store.index {} (.str halfBold) (.int 5) = .error (.indexOutOfBounds 5 5) ∧
    resolveIndexWord Int64.minValue 5 = .error (.indexOutOfBounds Int64.minValue 5) := by
  have hchars : halfBold.chars = [('h', {}), ('é', {}), ('l', { style := .bold }),
      ('l', { style := .bold }), ('o', { style := .bold })] := by
    rw [halfBold, RichText.chars_ofSegments]
    rfl
  have hitems : (({} : Store).sequence? (.str halfBold)) =
      some (halfBold.chars.map fun (c, look) => .character c look) := rfl
  rw [hchars] at hitems
  obtain ⟨hindex, -, -, hwords⟩ := sequence_laws hitems
  obtain ⟨item, v, hitem, hv, his⟩ := (hindex (-3)).1 (by decide)
  obtain rfl : Item.character 'l' { style := .bold } = item := Option.some.inj hitem
  refine ⟨⟨v, hv, his⟩, (hindex 5).2 (by decide), ?_⟩
  exact (hwords (by decide) Int64.minValue).2.1.trans (resolveIndex_outside (by decide))

end Store
end TableScript
