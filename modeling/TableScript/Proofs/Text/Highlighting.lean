import TableScript.Proofs.Pattern.Extents
import TableScript.Proofs.Text.Bytes
import TableScript.Proofs.Text.Characters
import TableScript.Text.Highlight

/-!
# Highlighting

Styling what a pattern matches changes the looks of the matched characters and nothing else
(`highlight_restyles`), whatever the segments of the text.

1. `styleExtents` goes through the text once; read as a list of characters, its result has at each
   position the old character, with the style on top exactly inside an extent
   (`getElem?_styleExtents`).
2. Matches are ranges of bytes, extents count characters. Between characters the two are ordered
   alike (`byteOffset_lt_iff`), so the extents of matches are in order again, and cover the
   characters inside the matches (`inOrder_charExtents`, `covers_charExtents`).
3. The matches of a compiled pattern are in order (`Regex.findAll_inOrder`).
-/

namespace TableScript

open Pattern (InOrder inOrder_iff)
open String (utf8Len utf8Len_append)

/-! ## Ranges of bytes and of characters -/

variable {cs : List Char} {i j : Nat}

/-- How many bytes stand before a character. -/
def byteOffset (cs : List Char) (i : Nat) : Nat := utf8Len (cs.take i)

/-- How many characters stand before a byte. -/
def charPosition (cs : List Char) (byte : Nat) : Nat :=
  ((splitAtByte? cs byte).map (·.1.length)).getD cs.length

theorem charPosition_byteOffset (h : i ≤ cs.length) : charPosition cs (byteOffset cs i) = i := by
  have hsplit := splitAtByte?_append (cs.take i) (cs.drop i)
  rw [List.take_append_drop] at hsplit
  rw [charPosition, byteOffset, hsplit]
  exact List.length_take_of_le h

theorem byteOffset_lt (h : i < j) (hj : j ≤ cs.length) : byteOffset cs i < byteOffset cs j := by
  have hcut : cs.take j = cs.take i ++ (cs.take j).drop i := by
    conv_lhs => rw [← List.take_append_drop i (cs.take j), List.take_take, Nat.min_eq_left h.le]
  have hlength := length_le_utf8Len ((cs.take j).drop i)
  rw [List.length_drop, List.length_take_of_le hj] at hlength
  rw [byteOffset, byteOffset, hcut, utf8Len_append]
  omega

theorem byteOffset_lt_iff (hi : i ≤ cs.length) (hj : j ≤ cs.length) :
    byteOffset cs i < byteOffset cs j ↔ i < j := by
  refine ⟨fun h => ?_, fun h => byteOffset_lt h hj⟩
  by_contra hij
  rcases Nat.eq_or_lt_of_le (Nat.le_of_not_lt hij) with rfl | hlt
  · exact Nat.lt_irrefl _ h
  · exact Nat.lt_asymm h (byteOffset_lt hlt hi)

theorem byteOffset_le_iff (hi : i ≤ cs.length) (hj : j ≤ cs.length) :
    byteOffset cs i ≤ byteOffset cs j ↔ i ≤ j := by
  rw [← Nat.not_lt, byteOffset_lt_iff hj hi, Nat.not_lt]

/-- A place between characters has as many bytes before it as the characters before it. -/
theorem exists_byteOffset {s : String} {byte : Nat} (h : String.Pos.Raw.IsValid s ⟨byte⟩) :
    ∃ i ≤ s.toList.length, byte = byteOffset s.toList i := by
  obtain ⟨before, after, rfl, hbyte⟩ := String.Pos.Raw.isValid_iff_exists_append.1 h
  refine ⟨before.toList.length, by simp, ?_⟩
  rw [byteOffset, String.toList_append, List.take_left, String.utf8Len_toList]
  exact congrArg String.Pos.Raw.byteIdx hbyte

theorem isValid_byteOffset (s : String) (i : Nat) :
    String.Pos.Raw.IsValid s ⟨byteOffset s.toList i⟩ := by
  refine String.Pos.Raw.isValid_iff_exists_append.2
    ⟨String.ofList (s.toList.take i), String.ofList (s.toList.drop i), ?_, ?_⟩
  · rw [← String.ofList_append, List.take_append_drop, String.ofList_toList]
  · rw [byteOffset, ← String.utf8ByteSize_ofList]
    rfl

/-! ## Matches -/

/-- Ranges of bytes as a search in a text finds them: in order, without overlap, and starting and
stopping between characters. Some of them may be empty. -/
structure AreMatches (s : String) (ranges : List Span) : Prop where
  ordered : ranges.Pairwise fun r r' => r.stop ≤ r'.start
  forward : ∀ r ∈ ranges, r.start ≤ r.stop
  valid : ∀ r ∈ ranges, String.Pos.Raw.IsValid s ⟨r.start⟩ ∧ String.Pos.Raw.IsValid s ⟨r.stop⟩

/-- The characters of a range of bytes. -/
def charExtent (cs : List Char) (r : Span) : Nat × Nat :=
  (charPosition cs r.start, charPosition cs r.stop)

/-- The bytes of an extent. -/
def byteRange (cs : List Char) (e : Nat × Nat) : Span := ⟨byteOffset cs e.1, byteOffset cs e.2⟩

/-- The extents of the ranges that are not empty. -/
def charExtents (cs : List Char) (ranges : List Span) : List (Nat × Nat) :=
  (ranges.filter fun r => r.start ≠ r.stop).map (charExtent cs)

/-- A range between characters is the range of an extent. -/
theorem AreMatches.exists_extent {s : String} {ranges : List Span} (h : AreMatches s ranges)
    {r : Span} (hr : r ∈ ranges) :
    ∃ e : Nat × Nat, e.1 ≤ e.2 ∧ e.2 ≤ s.toList.length ∧ r = byteRange s.toList e ∧
      charExtent s.toList r = e := by
  obtain ⟨hstart, hstop⟩ := h.valid r hr
  obtain ⟨i, hi, hri⟩ := exists_byteOffset hstart
  obtain ⟨j, hj, hrj⟩ := exists_byteOffset hstop
  have hij := h.forward r hr
  rw [hri, hrj, byteOffset_le_iff hi hj] at hij
  refine ⟨(i, j), hij, hj, ?_, ?_⟩
  · rw [byteRange, ← hri, ← hrj]
  · rw [charExtent, hri, hrj, charPosition_byteOffset hi, charPosition_byteOffset hj]

/-- The extents of matches are in order. -/
theorem AreMatches.inOrder_charExtents {s : String} {ranges : List Span}
    (h : AreMatches s ranges) :
    InOrder 0 s.toList.length (charExtents s.toList ranges) := by
  refine inOrder_iff.2 ⟨Nat.zero_le _, ?_, ?_⟩
  · refine List.pairwise_map.2 ((h.ordered.imp_of_mem ?_).filter _)
    intro r r' hr hr' hle
    obtain ⟨e, -, he, rfl, hextent⟩ := h.exists_extent hr
    obtain ⟨e', hle', he', rfl, hextent'⟩ := h.exists_extent hr'
    rw [hextent, hextent']
    exact (byteOffset_le_iff he (Nat.le_trans hle' he')).1 hle
  · intro e he
    obtain ⟨r, hr, rfl⟩ := List.mem_map.1 he
    obtain ⟨e, hle, hlast, -, hextent⟩ := h.exists_extent (List.mem_filter.1 hr).1
    rw [hextent]
    exact ⟨Nat.zero_le _, hle, hlast⟩

/-- In order, extents are the extents of their ranges, those of nothing left out. -/
theorem charExtents_byteRange {extents : List (Nat × Nat)}
    (h : InOrder 0 cs.length extents) :
    charExtents cs (extents.map (byteRange cs)) = extents.filter fun e => e.1 ≠ e.2 := by
  have hbounds := (inOrder_iff.1 h).2.2
  have hne : ∀ e ∈ extents, (byteRange cs e).start ≠ (byteRange cs e).stop ↔ e.1 ≠ e.2 := by
    intro e he
    obtain ⟨-, hle, hlast⟩ := hbounds e he
    have hstart : byteOffset cs e.1 ≤ byteOffset cs e.2 ↔ e.1 ≤ e.2 :=
      byteOffset_le_iff (Nat.le_trans hle hlast) hlast
    have hstop : byteOffset cs e.2 ≤ byteOffset cs e.1 ↔ e.2 ≤ e.1 :=
      byteOffset_le_iff hlast (Nat.le_trans hle hlast)
    simp only [byteRange]
    omega
  have hfilter : extents.filter ((fun r : Span => r.start ≠ r.stop) ∘ byteRange cs) =
      extents.filter fun e => e.1 ≠ e.2 :=
    List.filter_congr fun e he => decide_eq_decide.2 (hne e he)
  rw [charExtents, List.filter_map, List.map_map, hfilter]
  refine (List.map_congr_left fun e he => ?_).trans (List.map_id _)
  obtain ⟨-, hle, hlast⟩ := hbounds e (List.mem_filter.1 he).1
  exact Prod.ext (charPosition_byteOffset (Nat.le_trans hle hlast)) (charPosition_byteOffset hlast)

theorem areMatches_byteRange {s : String} {extents : List (Nat × Nat)}
    (h : InOrder 0 s.toList.length extents) :
    AreMatches s (extents.map (byteRange s.toList)) := by
  obtain ⟨-, hpairs, hbounds⟩ := inOrder_iff.1 h
  refine ⟨List.pairwise_map.2 (hpairs.imp_of_mem fun {e e'} he he' hle => ?_), ?_, ?_⟩
  · exact (byteOffset_le_iff (hbounds e he).2.2
      (Nat.le_trans (hbounds e' he').2.1 (hbounds e' he').2.2)).2 hle
  · intro r hr
    obtain ⟨e, he, rfl⟩ := List.mem_map.1 hr
    obtain ⟨-, hle, hlast⟩ := hbounds e he
    exact (byteOffset_le_iff (Nat.le_trans hle hlast) hlast).2 hle
  · intro r hr
    obtain ⟨e, -, rfl⟩ := List.mem_map.1 hr
    exact ⟨isValid_byteOffset s e.1, isValid_byteOffset s e.2⟩

/-! ## Inside a match -/

/-- Whether a position is inside one of the extents. -/
def covers (extents : List (Nat × Nat)) (i : Nat) : Bool :=
  extents.any fun e => e.1 ≤ i && i < e.2

/-- Whether a byte is inside one of the ranges. -/
def isInside (ranges : List Span) (byte : Nat) : Bool :=
  ranges.any fun r => r.start ≤ byte && byte < r.stop

/-- A character is inside an extent when its first byte is inside the match. -/
theorem AreMatches.covers_charExtents {s : String} {ranges : List Span} (h : AreMatches s ranges)
    (hi : i < s.toList.length) :
    covers (charExtents s.toList ranges) i = isInside ranges (byteOffset s.toList i) := by
  rw [covers, charExtents, List.any_map, List.any_filter, isInside, Bool.eq_iff_iff,
    List.any_eq_true, List.any_eq_true]
  refine exists_congr fun r => and_congr_right fun hr => ?_
  obtain ⟨e, hle, hlast, rfl, hextent⟩ := h.exists_extent hr
  have hstart := byteOffset_le_iff (Nat.le_trans hle hlast) (Nat.le_of_lt hi)
  have hstop := byteOffset_lt_iff (Nat.le_of_lt hi) hlast
  rw [Function.comp_apply, hextent]
  simp only [Bool.and_eq_true, decide_eq_true_eq]
  simp only [byteRange]
  omega

namespace RichText

variable {t : RichText} {style : Style} {extents : List (Nat × Nat)} {first : Nat}

/-! ## The styled text -/

/-- Before the first extent nothing is covered. -/
theorem covers_eq_false {last : Nat} (h : InOrder first last extents) (hi : i < first) :
    covers extents i = false := by
  refine List.any_eq_false.2 fun e he => ?_
  have := ((inOrder_iff.1 h).2.2 e he).1
  simp only [Bool.and_eq_true, decide_eq_true_eq]
  omega

/-- A character with the style on top of its look, if it is covered. -/
def restyle (style : Style) (covered : Bool) (x : Char × Look) : Char × Look :=
  (x.1, if covered then { x.2 with style := x.2.style.apply style } else x.2)

theorem chars_withStyle (t : RichText) (style : Style) :
    (t.withStyle style).chars = t.chars.map (restyle style true) := by
  rw [withStyle, chars_mapLook]
  rfl

theorem length_chars_slice {last : Nat} (h : last ≤ t.chars.length) :
    (t.slice first last).chars.length = last - first := by
  rw [chars_slice, List.length_drop, List.length_take_of_le h]

theorem getElem?_chars_slice {last i : Nat} (h : first + i < last) :
    (t.slice first last).chars[i]? = t.chars[first + i]? := by
  rw [chars_slice, List.getElem?_drop, List.getElem?_take_of_lt h]

/-- From a position on, each character is there again, restyled if an extent covers it. -/
theorem getElem?_styleExtents (h : InOrder first t.length extents) (i : Nat) :
    (t.styleExtents style first extents).chars[i]? =
      t.chars[first + i]?.map (restyle style (covers extents (first + i))) := by
  induction extents generalizing first i with
  | nil =>
    rw [styleExtents, chars_slice, length_eq, List.take_length, List.getElem?_drop]
    exact Option.map_id_apply.symm
  | cons e rest ih =>
    obtain ⟨start, stop⟩ := e
    obtain ⟨hstart, hstop, hrest⟩ := h
    have hlast := (inOrder_iff.1 hrest).1
    rw [length_eq] at hlast
    have hbefore : (t.slice first start).chars.length = start - first :=
      length_chars_slice (Nat.le_trans hstop hlast)
    have hinside : ((t.slice start stop).withStyle style).chars.length = stop - start := by
      rw [chars_withStyle, List.length_map, length_chars_slice hlast]
    have hcovers : covers ((start, stop) :: rest) (first + i) =
        (decide (start ≤ first + i ∧ first + i < stop) || covers rest (first + i)) := by
      rw [covers, List.any_cons, Bool.decide_and]
      rfl
    rw [styleExtents, chars_append, chars_append, hcovers, List.append_assoc,
      List.getElem?_append, List.getElem?_append, hbefore, hinside]
    -- the position is before the extent, inside it or behind it
    by_cases h1 : i < start - first
    · rw [if_pos h1, covers_eq_false hrest (by omega), decide_eq_false (by omega),
        getElem?_chars_slice (by omega)]
      exact Option.map_id_apply.symm
    rw [if_neg h1]
    by_cases h2 : i - (start - first) < stop - start
    · rw [if_pos h2, decide_eq_true (by omega), chars_withStyle, List.getElem?_map,
        getElem?_chars_slice (by omega),
        show start + (i - (start - first)) = first + i by omega]
      rfl
    · rw [if_neg h2, decide_eq_false (by omega), ih hrest,
        show stop + (i - (start - first) - (stop - start)) = first + i by omega]
      rfl

/-- A text like another but for the style on top of the looks inside some ranges of bytes: the same
characters at the same places, and no segment empty. -/
structure Restyled (t : RichText) (style : Style) (ranges : List Span) (u : RichText) : Prop where
  plain_eq : u.plain = t.plain
  chars_eq : ∀ i, u.chars[i]? =
    t.chars[i]?.map (restyle style (isInside ranges (byteOffset t.plain.toList i)))
  nonempty : ∀ s ∈ u.segments, s.text ≠ ""

theorem restyled_charExtents {ranges : List Span} (h : AreMatches t.plain ranges) :
    Restyled t style ranges (t.styleExtents style 0 (charExtents t.plain.toList ranges)) := by
  have hlength : t.plain.toList.length = t.chars.length := by rw [toList_plain, List.length_map]
  have hchars : ∀ i, (t.styleExtents style 0 (charExtents t.plain.toList ranges)).chars[i]? =
      t.chars[i]?.map (restyle style (isInside ranges (byteOffset t.plain.toList i))) := by
    intro i
    rw [getElem?_styleExtents (length_eq t ▸ hlength ▸ h.inOrder_charExtents), Nat.zero_add]
    rcases Nat.lt_or_ge i t.chars.length with hi | hi
    · rw [h.covers_charExtents (hlength ▸ hi)]
    · rw [List.getElem?_eq_none hi]
      rfl
  refine ⟨?_, hchars, RichText.nonempty _⟩
  generalize t.styleExtents style 0 (charExtents t.plain.toList ranges) = u at hchars
  rw [← String.toList_inj, toList_plain, toList_plain t]
  refine List.ext_getElem? fun i => ?_
  rw [List.getElem?_map, List.getElem?_map, hchars, Option.map_map]
  rfl

/-- The matches of a pattern in a text, as ranges of bytes. -/
def matchRanges (pattern : Pattern.Regex) (s : String) : List Span :=
  ((pattern.findAll s.toList).map Pattern.Match.extent).map (byteRange s.toList)

/-- **Highlighting restyles the matches and nothing else.** Whatever the segments of a text, styling
the extents of any matches in it gives the text whose characters inside a match have the style put
on top of their look, and whose others look as before. Highlighting with a compiled pattern does so
with the matches of the pattern. -/
theorem highlight_restyles (t : RichText) (style : Style) :
    (∀ ranges, AreMatches t.plain ranges →
      Restyled t style ranges (t.styleExtents style 0 (charExtents t.plain.toList ranges))) ∧
    ∀ text pattern, Pattern.Regex.compile text = .ok pattern →
      AreMatches t.plain (matchRanges pattern t.plain) ∧
      Restyled t style (matchRanges pattern t.plain) (t.highlight pattern style) := by
  refine ⟨fun ranges h => restyled_charExtents h, fun text pattern hpattern => ?_⟩
  have horder := Pattern.Regex.findAll_inOrder hpattern t.plain.toList
  have hmatches := areMatches_byteRange horder
  have hextents : charExtents t.plain.toList (matchRanges pattern t.plain) =
      pattern.extents t.plain := by
    rw [matchRanges, charExtents_byteRange horder, List.filter_map]
    exact congrArg (List.map Pattern.Match.extent) (List.filter_congr fun m _ => decide_not)
  refine ⟨hmatches, ?_⟩
  rw [highlight, ← hextents]
  exact restyled_charExtents hmatches

/-- A text of two segments: matches of two bytes, of nothing and up to the end, and a pattern. -/
theorem highlight_restyles_across :
    let t : RichText := ⟨[⟨"né", { style := .italic }⟩, ⟨"→e", {}⟩], by decide⟩
    let ranges : List Span := [⟨1, 3⟩, ⟨3, 3⟩, ⟨3, 7⟩]
    (AreMatches t.plain ranges ∧
      Restyled t .bold ranges (t.styleExtents .bold 0 (charExtents t.plain.toList ranges))) ∧
    ∃ pattern, Pattern.Regex.compile "é→?" = .ok pattern ∧
      AreMatches t.plain (matchRanges pattern t.plain) ∧
      Restyled t .bold (matchRanges pattern t.plain) (t.highlight pattern .bold) := by
  intro t ranges
  have h : AreMatches t.plain ranges := ⟨by decide, by decide, by decide⟩
  have hcompiles : (Pattern.Regex.compile "é→?").toBool = true := by decide +kernel
  refine ⟨⟨h, (highlight_restyles t .bold).1 ranges h⟩, ?_⟩
  cases hpattern : Pattern.Regex.compile "é→?" with
  | error e =>
    rw [hpattern] at hcompiles
    cases hcompiles
  | ok pattern => exact ⟨pattern, rfl, (highlight_restyles t .bold).2 _ pattern hpattern⟩

end RichText
end TableScript
