import Mathlib.Data.List.Induction
import TableScript.Proofs.Text.Recolouring

/-!
# Layers of styles

Styles named one after the other lie on top of each other. What such a sequence shows is decided by
the names behind the last `plain`: the last colour among them, and every emphasis among them
(`layered_names`).

1. `Shows` says this bit by bit: a bit is set by a name that marks it, or by the last colour.
2. One more name keeps it (`Shows.apply`): an emphasis sets its bit beside the colour field, and a
   colour clears the field, where no emphasis is (`not_inColour_of_marks`), before it is written.
3. So it holds of every sequence, by its length (`layered?_shows`), and the bits of the field are
   read as the colour they were written for (`colour?_withColour`).
-/

namespace TableScript
namespace Style

variable {s t : Style} {c : UInt8} {i : Nat} {name : String} {kept names : List String}

/-! ## What names show -/

/-- The styles with these names on top of each other, the first on the plain style. There is none if
a name is no style's. -/
def layered? (names : List String) : Option Style :=
  names.foldlM (fun s name => (ofName? name).map s.apply) plain

/-- The names behind the last `plain`. -/
def sincePlain (names : List String) : List String :=
  (names.reverse.takeWhile (· ≠ "plain")).reverse

/-- The last colour among names. -/
def lastColour? (names : List String) : Option UInt8 := (names.filterMap paletteIndex?).getLast?

/-- The bit that a name marks, if it is that of an emphasis. -/
def markedBit? (name : String) : Option Nat :=
  if name = "underline" then some 0
  else if name = "bold" then some 2
  else if name = "italic" then some 3
  else none

/-- Each bit is set by a name that marks it or by the last colour, and no other bit is set. -/
def Shows (s : Style) (kept : List String) : Prop :=
  ∀ i, s.bit i =
    (kept.any (markedBit? · = some i) || (lastColour? kept).any fun c => (plain.withColour c).bit i)

theorem sincePlain_concat (names : List String) (name : String) :
    sincePlain (names ++ [name]) = if name = "plain" then [] else sincePlain names ++ [name] := by
  unfold sincePlain
  rw [List.reverse_concat, List.takeWhile_cons]
  by_cases h : name = "plain"
  · simp [h]
  · simp [h]

theorem lastColour?_concat (names : List String) (name : String) :
    lastColour? (names ++ [name]) = (paletteIndex? name).or (lastColour? names) := by
  unfold lastColour?
  rw [List.filterMap_append, List.getLast?_append]
  cases h : paletteIndex? name <;> simp [h]

theorem lastColour?_lt (h : lastColour? names = some c) : c < 16 := by
  obtain ⟨name, -, hname⟩ := List.mem_filterMap.1 (List.mem_of_getLast? h)
  exact paletteIndex?_lt hname

theorem layered?_concat (names : List String) (name : String) :
    layered? (names ++ [name]) =
      (layered? names).bind fun s => (ofName? name).map s.apply := by
  unfold layered?
  rw [List.foldlM_append]
  simp only [List.foldlM_cons, List.foldlM_nil, bind_pure]
  rfl

/-! ## Marks and colours do not meet -/

theorem markedBit?_eq_some_iff {k : Nat} : markedBit? name = some k ↔
    name = "underline" ∧ 0 = k ∨ name = "bold" ∧ 2 = k ∨ name = "italic" ∧ 3 = k := by
  unfold markedBit?
  split_ifs with hunderline hbold hitalic
  · simp [hunderline]
  · simp [hbold]
  · simp [hitalic]
  · simp [hunderline, hbold, hitalic]

theorem not_inColour_of_marks (h : markedBit? name = some i) : ¬ InColour i := by
  rcases markedBit?_eq_some_iff.1 h with ⟨-, rfl⟩ | ⟨-, rfl⟩ | ⟨-, rfl⟩ <;> decide

theorem markedBit?_of_colour (h : paletteIndex? name = some c) : markedBit? name = none := by
  have hunderline : paletteIndex? "underline" = none := by decide
  have hbold : paletteIndex? "bold" = none := by decide
  have hitalic : paletteIndex? "italic" = none := by decide
  unfold markedBit?
  rw [if_neg fun hname => ?_, if_neg fun hname => ?_, if_neg fun hname => ?_]
  · exact absurd (h.symm.trans (hname ▸ hunderline)) (Option.some_ne_none c)
  · exact absurd (h.symm.trans (hname ▸ hbold)) (Option.some_ne_none c)
  · exact absurd (h.symm.trans (hname ▸ hitalic)) (Option.some_ne_none c)

theorem inColour_of_colour (hc : c < 16) (h : (plain.withColour c).bit i) : InColour i := by
  by_contra hout
  rw [bit_withColour_outside plain c hout, leftover_eq_plain_iff.2 hc, bit_plain] at h
  exact Bool.false_ne_true h

theorem any_marks_eq_false (hi : InColour i) :
    (kept.any fun name => markedBit? name = some i) = false := by
  rw [List.any_eq_false]
  intro name _ hname
  exact not_inColour_of_marks (of_decide_eq_true hname) hi

theorem any_colour_eq_false (hi : ¬ InColour i) :
    (lastColour? kept).any (fun c => (plain.withColour c).bit i) = false := by
  cases hlast : lastColour? kept with
  | none => rfl
  | some c => exact Bool.not_eq_true _ ▸ mt (inColour_of_colour (lastColour?_lt hlast)) hi

theorem bit_seven_withColour (c : UInt8) : (plain.withColour c).bit 7 = true := by
  rw [bit_withColour]
  rfl

theorem isPlain_eq_false (h : s.bit i) : s.isPlain = false := by
  rw [isPlain, beq_eq_false_iff_ne]
  intro hword
  have hplain : s = plain := congrArg mk hword
  rw [hplain, bit_plain] at h
  exact Bool.false_ne_true h

/-- A colour is read back from the field it was written to. -/
theorem colour?_withColour (hc : c < 16) : (plain.withColour c).colour? = some c := by
  have hall : ∀ n < 16, (plain.withColour (UInt8.ofNat n)).colour? = some (UInt8.ofNat n) := by
    decide
  have h := hall c.toNat hc
  rwa [UInt8.ofNat_toNat] at h

/-- Only the bits of the field decide which colour there is. -/
theorem colour?_congr (h : ∀ i, InColour i → s.bit i = t.bit i) : s.colour? = t.colour? := by
  have hmask : ∀ i, (⟨colourMask⟩ : Style).bit i → InColour i := by
    intro i hi
    rw [bit_colourMask, decide_eq_true_iff] at hi
    exact ⟨by omega, hi.2⟩
  have hfield : s.inter ⟨colourMask⟩ = t.inter ⟨colourMask⟩ := by
    refine ext_bit fun i => ?_
    rw [bit_inter, bit_inter]
    cases hi : (⟨colourMask⟩ : Style).bit i
    · rw [Bool.and_false, Bool.and_false]
    · rw [h i (hmask i hi)]
  have hbits : s.bits &&& colourMask = t.bits &&& colourMask := congrArg bits hfield
  rw [colour?_eq, colour?_eq, h 7 (by decide), hbits]

/-! ## One more name -/

theorem shows_plain : plain.Shows [] := bit_plain

/-- An emphasis on top sets its bit. -/
theorem Shows.mark {k : Nat} (h : s.Shows kept) (hname : markedBit? name = some k)
    (hcolour : paletteIndex? name = none) (hplain : t.isPlain = false) (ht : t.bits.toNat = 2 ^ k) :
    (s.apply t).Shows (kept ++ [name]) := by
  have hbit := bit_two_pow ht
  have hout : t.bit 7 = false := by
    rw [hbit, decide_eq_false fun h7 => not_inColour_of_marks (h7 ▸ hname) (by decide)]
  intro i
  have hmark : (markedBit? name = some i) ↔ i = k := by rw [hname, Option.some_inj, eq_comm]
  rw [bit_apply, hplain, hout, h i, hbit, lastColour?_concat, hcolour, List.any_append]
  simp only [List.any_cons, List.any_nil, hmark, Bool.false_and, Bool.not_false, Bool.true_and,
    Bool.and_true, Bool.or_false, Option.none_or]
  ac_rfl

/-- A colour on top takes the place of the colour there was. -/
theorem Shows.colour (h : s.Shows kept) (hname : paletteIndex? name = some c) :
    (s.apply (plain.withColour c)).Shows (kept ++ [name]) := by
  have h7 := bit_seven_withColour c
  intro i
  rw [bit_apply, isPlain_eq_false h7, h7, h i, lastColour?_concat, hname, List.any_append]
  simp only [List.any_cons, List.any_nil, markedBit?_of_colour hname, Option.some_or,
    Option.any_some, reduceCtorEq, decide_false, Bool.or_false, Bool.true_and, Bool.not_false]
  by_cases hi : InColour i
  · rw [any_marks_eq_false hi, decide_eq_true hi, Bool.not_true, Bool.and_false]
  · rw [any_colour_eq_false hi, decide_eq_false hi, Bool.not_false, Bool.and_true, Bool.or_false]

/-- One more name lies on top, or starts anew. -/
theorem Shows.apply (h : s.Shows (sincePlain names)) (ht : Named name t) :
    (s.apply t).Shows (sincePlain (names ++ [name])) := by
  rw [sincePlain_concat]
  cases ht with
  | plain => exact shows_plain
  | bold => exact h.mark (k := 2) rfl (by decide) rfl rfl
  | italic => exact h.mark (k := 3) rfl (by decide) rfl rfl
  | underline => exact h.mark (k := 0) rfl (by decide) rfl rfl
  | colour hc =>
    have hplain : paletteIndex? "plain" = none := by decide
    have hnot : name ≠ "plain" := fun hname =>
      absurd (hc.symm.trans (hname ▸ hplain)) (Option.some_ne_none _)
    rw [if_neg hnot]
    exact h.colour hc

/-! ## All names -/

theorem layered?_shows (h : ∀ name ∈ names, (ofName? name).isSome) :
    ∃ s, layered? names = some s ∧ s.Shows (sincePlain names) := by
  induction names using List.reverseRecOn with
  | nil => exact ⟨plain, rfl, shows_plain⟩
  | append_singleton names name ih =>
    obtain ⟨s, hs, hshows⟩ := ih fun n hn => h n (List.mem_append_left _ hn)
    obtain ⟨t, ht⟩ := Option.isSome_iff_exists.1 (h name (by simp))
    refine ⟨s.apply t, ?_, hshows.apply (named_of_ofName? ht)⟩
    rw [layered?_concat, hs, ht]
    rfl

theorem Shows.colour?_eq (h : s.Shows kept) : s.colour? = lastColour? kept := by
  have hfield : ∀ i, InColour i →
      s.bit i = (lastColour? kept).any fun c => (plain.withColour c).bit i := by
    intro i hi
    rw [h i, any_marks_eq_false hi, Bool.false_or]
  cases hlast : lastColour? kept with
  | none =>
    have hnone : s.colour? = plain.colour? := colour?_congr fun i hi => by
      rw [hfield i hi, hlast, bit_plain]
      rfl
    exact hnone
  | some c =>
    rw [← colour?_withColour (lastColour?_lt hlast)]
    refine colour?_congr fun i hi => ?_
    rw [hfield i hi, hlast]
    rfl

/-- An emphasis is shown when its name is among the names. -/
theorem Shows.contains_iff {k : Nat} (h : s.Shows kept) (ht : t.bits.toNat = 2 ^ k)
    (hmark : ∀ n, markedBit? n = some k ↔ n = name) : s.contains t ↔ name ∈ kept := by
  have hout : ¬ InColour k := not_inColour_of_marks ((hmark name).2 rfl)
  have hbit : s.bit k ↔ name ∈ kept := by
    rw [h k, any_colour_eq_false hout, Bool.or_false, List.any_eq_true]
    simp only [hmark, decide_eq_true_iff, exists_eq_right]
  rw [Style.contains_iff, ← hbit]
  simp only [bit_two_pow ht, decide_eq_true_iff, forall_eq]

theorem Shows.marked_or_colour (h : s.Shows kept) (hi : s.bit i) :
    bold.bit i ∨ italic.bit i ∨ underline.bit i ∨ s.colour?.isSome ∧ InColour i := by
  rw [h.colour?_eq]
  rw [h i, Bool.or_eq_true, List.any_eq_true] at hi
  rcases hi with ⟨name, -, hname⟩ | hcolour
  · rcases markedBit?_eq_some_iff.1 (of_decide_eq_true hname) with ⟨-, rfl⟩ | ⟨-, rfl⟩ | ⟨-, rfl⟩
    · exact .inr (.inr (.inl rfl))
    · exact .inl rfl
    · exact .inr (.inl rfl)
  · refine .inr (.inr (.inr ?_))
    cases hlast : lastColour? kept with
    | none =>
      rw [hlast] at hcolour
      exact absurd hcolour Bool.false_ne_true
    | some c =>
      rw [hlast] at hcolour
      exact ⟨rfl, inColour_of_colour (lastColour?_lt hlast) hcolour⟩

/-- **Layers of styles.** The styles with these names on top of each other show the last colour
behind the last `plain`, and the emphases named there; no bit is set but theirs. -/
theorem layered_names (h : ∀ name ∈ names, (ofName? name).isSome) :
    ∃ s, layered? names = some s ∧
      s.colour? = lastColour? (sincePlain names) ∧
      (s.contains bold ↔ "bold" ∈ sincePlain names) ∧
      (s.contains italic ↔ "italic" ∈ sincePlain names) ∧
      (s.contains underline ↔ "underline" ∈ sincePlain names) ∧
      ∀ i, s.bit i →
        bold.bit i ∨ italic.bit i ∨ underline.bit i ∨ s.colour?.isSome ∧ InColour i := by
  obtain ⟨s, hs, hshows⟩ := layered?_shows h
  refine ⟨s, hs, hshows.colour?_eq, hshows.contains_iff (k := 2) rfl ?_,
    hshows.contains_iff (k := 3) rfl ?_, hshows.contains_iff (k := 0) rfl ?_, fun i hi => ?_⟩
  · simp [markedBit?_eq_some_iff]
  · simp [markedBit?_eq_some_iff]
  · simp [markedBit?_eq_some_iff]
  · exact hshows.marked_or_colour hi

theorem layered_names_mixed :
    (∀ name ∈ ["bold", "red", "plain", "italic", "green", "pink"], (ofName? name).isSome) ∧
    sincePlain ["bold", "red", "plain", "italic", "green", "pink"] = ["italic", "green", "pink"] ∧
    lastColour? ["italic", "green", "pink"] = some 9 ∧
    ∃ s, layered? ["bold", "red", "plain", "italic", "green", "pink"] = some s ∧
      s.colour? = some 9 ∧
      (s.contains bold ↔ "bold" ∈ ["italic", "green", "pink"]) ∧
      (s.contains italic ↔ "italic" ∈ ["italic", "green", "pink"]) ∧
      (s.contains underline ↔ "underline" ∈ ["italic", "green", "pink"]) ∧
      ∀ i, s.bit i →
        bold.bit i ∨ italic.bit i ∨ underline.bit i ∨ s.colour?.isSome ∧ InColour i :=
  ⟨by decide, by decide, by decide, layered_names (by decide)⟩

end Style
end TableScript
