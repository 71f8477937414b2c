import TableScript.Eval.Builtins
import TableScript.Proofs.Text.Characters

/-!
# Joining undoes splitting

A text is split at the leftmost occurrences of a separator that do not overlap (`splitChars_cut`).
So joined again the pieces make up the text, and no piece has the separator in it (`join_split`).

1. Occurrences are found from the left: those before the current position were refused, one by one.
   `splitChars_cut_piece` carries this along with the piece gathered since the last cut.
2. `Cut` says what the pieces are without the search for them; the two properties follow by
   induction on the cuts.
-/

namespace TableScript

variable {sep piece cs s : List Char} {pieces : List (List Char)}

/-- The pieces of a text cut at the leftmost occurrences of a separator, each behind the one
before. -/
inductive Cut (sep : List Char) : List Char → List (List Char) → Prop
  /-- A text without an occurrence stays whole. -/
  | whole {s : List Char} : ¬ sep <:+: s → Cut sep s [s]
  /-- No occurrence starts before the one at which a piece ends. -/
  | piece {before after : List Char} {pieces : List (List Char)} :
    (∀ k < before.length, ¬ sep <+: (before ++ (sep ++ after)).drop k) → Cut sep after pieces →
    Cut sep (before ++ (sep ++ after)) (before :: pieces)

/-! ## What the search finds -/

theorem splitChars_skip (n : Nat) (cs : List Char) :
    splitChars sep piece n cs = splitChars sep piece 0 (cs.drop n) := by
  induction cs generalizing n with
  | nil => rw [List.drop_nil, splitChars, splitChars]
  | cons c cs ih =>
    cases n with
    | zero => rw [List.drop_zero]
    | succ n => rw [splitChars, ih, List.drop_succ_cons]

theorem splitChars_occurrence (hsep : sep ≠ []) (after : List Char) :
    splitChars sep piece 0 (sep ++ after) = piece.reverse :: splitChars sep [] 0 after := by
  obtain ⟨c, rest, rfl⟩ := List.exists_cons_of_ne_nil hsep
  have hstarts : (c :: rest).isPrefixOf (c :: (rest ++ after)) = true :=
    List.isPrefixOf_iff_prefix.2 (List.prefix_append (c :: rest) after)
  rw [List.cons_append, splitChars]
  simp only [hstarts, if_true, List.length_cons, Nat.add_sub_cancel]
  rw [splitChars_skip, List.drop_left]

theorem splitChars_refused {c : Char} (h : ¬ sep <+: c :: cs) :
    splitChars sep piece 0 (c :: cs) = splitChars sep (c :: piece) 0 cs := by
  rw [splitChars]
  simp only [mt List.isPrefixOf_iff_prefix.1 h]
  rfl

/-- An occurrence starts somewhere. -/
theorem exists_prefix_drop (hsep : sep ≠ []) (h : sep <:+: s) :
    ∃ k < s.length, sep <+: s.drop k := by
  obtain ⟨before, after, rfl⟩ := h
  have hpos := List.length_pos_iff.2 hsep
  refine ⟨before.length, by simp only [List.length_append]; omega, ?_⟩
  rw [List.append_assoc, List.drop_left]
  exact List.prefix_append sep after

/-- With a piece in which no occurrence starts gathered already, the search cuts the piece and what
follows it. -/
theorem splitChars_cut_piece (hsep : sep ≠ []) (piece cs : List Char)
    (hpiece : ∀ k < piece.length, ¬ sep <+: (piece.reverse ++ cs).drop k) :
    Cut sep (piece.reverse ++ cs) (splitChars sep piece 0 cs) := by
  match cs with
  | [] =>
    rw [splitChars, List.append_nil]
    refine .whole fun h => ?_
    obtain ⟨k, hk, hstarts⟩ := exists_prefix_drop hsep h
    rw [List.append_nil] at hpiece
    exact hpiece k (List.length_reverse ▸ hk) hstarts
  | c :: rest =>
    by_cases hstarts : sep <+: c :: rest
    · obtain ⟨after, hafter⟩ := hstarts
      have hlength := congrArg List.length hafter
      have hpos := List.length_pos_iff.2 hsep
      rw [← hafter] at hpiece ⊢
      rw [splitChars_occurrence hsep]
      refine .piece (fun k hk => hpiece k (List.length_reverse ▸ hk)) ?_
      exact splitChars_cut_piece hsep [] after fun k hk => absurd hk (Nat.not_lt_zero k)
    · have hmoved : piece.reverse ++ c :: rest = (c :: piece).reverse ++ rest := by simp
      rw [splitChars_refused hstarts, hmoved]
      refine splitChars_cut_piece hsep (c :: piece) rest fun k hk => ?_
      rw [← hmoved]
      -- no occurrence starts in the piece, nor at the character that joins it
      rcases Nat.lt_succ_iff_lt_or_eq.1 hk with hk | rfl
      · exact hpiece k hk
      · rwa [← List.length_reverse, List.drop_left]
termination_by cs.length
decreasing_by
  all_goals simp only [List.length_append, List.length_cons] at *; omega

theorem splitChars_cut (hsep : sep ≠ []) (s : List Char) : Cut sep s (splitChars sep [] 0 s) :=
  splitChars_cut_piece hsep [] s fun k hk => absurd hk (Nat.not_lt_zero k)

/-! ## What the pieces are -/

theorem Cut.ne_nil (h : Cut sep s pieces) : pieces ≠ [] := by
  cases h <;> exact List.cons_ne_nil _ _

theorem Cut.intercalate_eq (h : Cut sep s pieces) : sep.intercalate pieces = s := by
  induction h with
  | whole _ => exact List.intercalate_singleton
  | @piece before after pieces _ hcut ih =>
    rw [List.intercalate_cons_of_ne_nil hcut.ne_nil, ih, List.append_assoc]

theorem Cut.separator_free (h : Cut sep s pieces) (hsep : sep ≠ []) {p : List Char}
    (hp : p ∈ pieces) : ¬ sep <:+: p := by
  induction h with
  | whole hwhole => rwa [List.mem_singleton.1 hp]
  | @piece before after pieces hleft _ ih =>
    rcases List.mem_cons.1 hp with rfl | hp
    · intro hinfix
      obtain ⟨k, hk, hstarts⟩ := exists_prefix_drop hsep hinfix
      refine hleft k hk ?_
      rw [List.drop_append_of_le_length (Nat.le_of_lt hk)]
      exact hstarts.trans (List.prefix_append _ _)
    · exact ih hp

/-- Without a separator the pieces are the characters. -/
theorem intercalate_singletons (cs : List Char) :
    ([] : List Char).intercalate (cs.map fun c => [c]) = cs := by
  induction cs with
  | nil => rfl
  | cons c cs ih =>
    cases cs with
    | nil => exact List.intercalate_singleton
    | cons d cs =>
      rw [List.map_cons] at ih
      rw [List.map_cons, List.map_cons, List.intercalate_cons_cons, ih]
      rfl

theorem intercalate_splitText (s sep : String) : sep.intercalate (splitText s sep) = s := by
  unfold splitText
  rw [← String.toList_inj, String.toList_intercalate]
  split
  case isTrue hempty =>
    subst hempty
    have hpieces : (s.toList.map fun c => String.ofList [c]).map String.toList =
        s.toList.map fun c => [c] := by
      rw [List.map_map]
      exact List.map_congr_left fun c _ => String.toList_ofList
    rw [hpieces]
    exact intercalate_singletons s.toList
  case isFalse hsep =>
    have hcut := splitChars_cut (mt String.toList_eq_nil_iff.1 hsep) s.toList
    have hpieces : ((splitChars sep.toList [] 0 s.toList).map String.ofList).map String.toList =
        splitChars sep.toList [] 0 s.toList := by
      rw [List.map_map]
      exact (List.map_congr_left fun cs _ => String.toList_ofList).trans (List.map_id _)
    rw [hpieces]
    exact hcut.intercalate_eq

theorem not_infix_of_mem_splitText {s sep p : String} (hsep : sep ≠ "") (hp : p ∈ splitText s sep) :
    ¬ sep.toList <:+: p.toList := by
  have hne := mt String.toList_eq_nil_iff.1 hsep
  rw [splitText, if_neg hsep] at hp
  obtain ⟨piece, hpiece, rfl⟩ := List.mem_map.1 hp
  rw [String.toList_ofList]
  exact (splitChars_cut hne s.toList).separator_free hne hpiece

/-- Of occurrences that overlap the left one counts. -/
example : splitText "aaabaa" "aa" = ["", "ab", ""] := by decide +kernel

/-! ## The functions -/

namespace Builtin

/-- **Joining undoes splitting.** A string split at a separator gives a list of strings; joined with
the separator these have the plain text of the string, and unless the separator is empty, none of
them has it in its text. -/
theorem join_split (s sep : RichText) (m : Machine) :
    ∃ (a : Nat) (m' : Machine) (pieces : List String) (t : RichText),
      Builtin.split.call { args := [.str s, .str sep] } m = .ok [.list a] m' ∧
      m'.store.items a = pieces.map Value.ofString ∧
      Builtin.join.call { args := [.list a, .str sep] } m' = .ok [.str t] m' ∧
      t.plain = s.plain ∧
      (sep.plain ≠ "" → ∀ p ∈ pieces, ¬ sep.plain.toList <:+: p.toList) := by
  obtain ⟨a, m', hlist, hitems⟩ :=
    returnList_eq ((splitText s.plain sep.plain).map Value.ofString) m
  refine ⟨a, m', splitText s.plain sep.plain, .ofString s.plain, ?_, hitems, ?_,
    RichText.plain_ofString _, fun hsep p => not_infix_of_mem_splitText hsep⟩
  · change Run.atSpan none (returnList ((splitText s.plain sep.plain).map Value.ofString)) m = _
    rw [Run.atSpan, hlist]
  · have htexts : ((splitText s.plain sep.plain).map Value.ofString).map m'.store.text =
        splitText s.plain sep.plain := by
      rw [List.map_map]
      exact (List.map_congr_left fun p _ => RichText.plain_ofString p).trans (List.map_id _)
    have hjoin : Builtin.join.call { args := [.list a, .str sep] } m' =
        .ok [.ofString (sep.plain.intercalate ((m'.store.items a).map m'.store.text))] m' := rfl
    rw [hjoin, hitems, htexts, intercalate_splitText, Value.ofString]

end Builtin
end TableScript
