import TableScript.Proofs.Text.Characters
import TableScript.Text.Case

/-!
# Case and segments

The case of a text is changed segment by segment. Upper case is a matter of each character, so the
segments do not show. In lower case a capital sigma looks at the letters around it, and only at
those of its own segment.

1. `lowerAmid`: the lower case of a part of a text, between what stands before and after it. All
   that depends on the surroundings is which capital sigmas end a word (`lowerAmid_eq_iff`);
2. so the segments one by one make the lower case of the whole text exactly when each capital sigma
   ends a word in its segment where it ends one in the whole (`plain_lower_iff`).
-/

namespace TableScript

/-- A capital sigma ends a word; what precedes it comes last character first. -/
def endsWord (before after : List Char) : Bool := startsCased before && !startsCased after

/-- A character in lower case; for a capital sigma, whether it ends a word is given. -/
def lowerCharAs (final : Bool) (c : Char) : List Char :=
  if c = 'Σ' then if final then ['ς'] else ['σ'] else lowerChar c

theorem length_lowerCharAs (final final' : Bool) (c : Char) :
    (lowerCharAs final c).length = (lowerCharAs final' c).length := by
  unfold lowerCharAs
  split
  · cases final <;> cases final' <;> rfl
  · rfl

theorem lowerCharAs_eq_iff {final final' : Bool} {c : Char} :
    lowerCharAs final c = lowerCharAs final' c ↔ (c = 'Σ' → final = final') := by
  unfold lowerCharAs
  by_cases hc : c = 'Σ'
  · simp only [hc, forall_const]
    cases final <;> cases final' <;> decide
  · simp [hc]

/-- Lower case of a part of a text that stands between `before`, last character first, and
`after`. -/
def lowerAmid (before after : List Char) : List Char → List Char
  | [] => []
  | c :: rest =>
    lowerCharAs (endsWord before (rest ++ after)) c ++ lowerAmid (c :: before) after rest

theorem lowerChars_append (before cs after : List Char) : lowerChars before (cs ++ after) =
    lowerAmid before after cs ++ lowerChars (cs.reverse ++ before) after := by
  induction cs generalizing before with
  | nil => rfl
  | cons c cs ih =>
    rw [List.cons_append, lowerChars, ih, lowerAmid, List.append_assoc, List.reverse_cons,
      List.append_assoc]
    rfl

theorem lowerChars_eq_lowerAmid (before cs : List Char) :
    lowerChars before cs = lowerAmid before [] cs := by
  rw [← List.append_nil cs, lowerChars_append, List.append_nil]
  exact List.append_nil _

theorem length_lowerAmid (before after before' after' cs : List Char) :
    (lowerAmid before after cs).length = (lowerAmid before' after' cs).length := by
  induction cs generalizing before before' with
  | nil => rfl
  | cons c cs ih =>
    rw [lowerAmid, lowerAmid, List.length_append, List.length_append, length_lowerCharAs,
      ih (c :: before) (c :: before')]

/-- The places in a list are its first one and the places in the rest. -/
theorem forall_cons_eq_append_cons {α : Type} {a : α} {rest : List α}
    {P : List α → α → List α → Prop} : (∀ xs b ys, a :: rest = xs ++ b :: ys → P xs b ys) ↔
      P [] a rest ∧ ∀ xs b ys, rest = xs ++ b :: ys → P (a :: xs) b ys := by
  constructor
  · intro h
    exact ⟨h [] a rest rfl, fun xs b ys hrest => h (a :: xs) b ys (congrArg (a :: ·) hrest)⟩
  · rintro ⟨hfirst, hrest⟩ xs b ys h
    cases xs with
    | nil =>
      obtain ⟨rfl, rfl⟩ := List.cons.inj h
      exact hfirst
    | cons x xs =>
      obtain ⟨rfl, htail⟩ := List.cons.inj h
      exact hrest xs b ys htail

/-- Surroundings show in lower case only in which capital sigmas end a word. -/
theorem lowerAmid_eq_iff {before after before' after' cs : List Char} :
    lowerAmid before after cs = lowerAmid before' after' cs ↔
      ∀ xs c ys, cs = xs ++ c :: ys → c = 'Σ' →
        endsWord (xs.reverse ++ before) (ys ++ after) =
          endsWord (xs.reverse ++ before') (ys ++ after') := by
  induction cs generalizing before before' with
  | nil => simp [lowerAmid]
  | cons c cs ih =>
    have hrest : ∀ xs before : List Char,
        (c :: xs).reverse ++ before = xs.reverse ++ c :: before := by
      simp
    rw [lowerAmid, lowerAmid, List.append_eq_append_iff_of_size_eq_left (length_lowerCharAs ..),
      lowerCharAs_eq_iff, ih, forall_cons_eq_append_cons]
    simp only [hrest]
    rfl

namespace RichText

/-- The characters of segments. -/
def textOf (segments : List Segment) : List Char := segments.flatMap (·.text.toList)

/-- Each capital sigma ends a word in its segment where it ends one in the whole text. -/
def SigmasSettled (t : RichText) : Prop :=
  ∀ pre s post, t.segments = pre ++ s :: post → ∀ xs c ys, s.text.toList = xs ++ c :: ys →
    c = 'Σ' → endsWord xs.reverse ys =
      endsWord (xs.reverse ++ (textOf pre).reverse) (ys ++ textOf post)

theorem toList_plain_eq_textOf (t : RichText) : t.plain.toList = textOf t.segments := by
  rw [plain, String.toList_join, List.flatMap_map]
  rfl

theorem toList_plain_mapText (f : String → String) (t : RichText) :
    (t.mapText f).plain.toList = t.segments.flatMap fun s => (f s.text).toList := by
  rw [toList_plain, chars_mapText, List.map_flatMap]
  refine congrArg (t.segments.flatMap ·) (funext fun s => ?_)
  rw [List.map_map]
  exact List.map_id _

/-- Upper case does not look past a character. -/
theorem plain_upper (t : RichText) : (t.mapText upper).plain = upper t.plain := by
  rw [← String.toList_inj, toList_plain_mapText, upper, String.toList_ofList,
    toList_plain_eq_textOf, textOf, List.flatMap_assoc]
  refine congrArg (t.segments.flatMap ·) (funext fun s => ?_)
  rw [upper, String.toList_ofList]

/-- Segments in lower case one by one, against all of them as one text that follows `before`. -/
theorem flatMap_lower_eq_iff (before : List Char) (segments : List Segment) :
    (segments.flatMap fun s => (lower s.text).toList) = lowerChars before (textOf segments) ↔
      ∀ pre s post, segments = pre ++ s :: post →
        lowerAmid [] [] s.text.toList =
          lowerAmid ((textOf pre).reverse ++ before) (textOf post) s.text.toList := by
  induction segments generalizing before with
  | nil => simp [textOf, lowerChars]
  | cons s rest ih =>
    have htext : textOf (s :: rest) = s.text.toList ++ textOf rest := rfl
    have hpast : ∀ pre, (textOf (s :: pre)).reverse ++ before =
        (textOf pre).reverse ++ (s.text.toList.reverse ++ before) := by
      intro pre
      rw [textOf, List.flatMap_cons, List.reverse_append, List.append_assoc]
      rfl
    rw [List.flatMap_cons, htext, lowerChars_append, lower, String.toList_ofList,
      lowerChars_eq_lowerAmid, List.append_eq_append_iff_of_size_eq_left (length_lowerAmid ..), ih,
      forall_cons_eq_append_cons]
    simp only [hpast]
    rfl

/-- **Lower case and segments.** Segments in lower case are the text in lower case when all capital
sigmas are settled, and only then. -/
theorem plain_lower_iff (t : RichText) :
    (t.mapText lower).plain = lower t.plain ↔ t.SigmasSettled := by
  rw [← String.toList_inj, toList_plain_mapText, lower, String.toList_ofList,
    toList_plain_eq_textOf, flatMap_lower_eq_iff]
  simp only [lowerAmid_eq_iff, List.append_nil]
  rfl

end RichText
end TableScript
