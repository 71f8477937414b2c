import Mathlib.Data.List.TakeDrop
import Mathlib.Data.List.TakeWhile
import TableScript.Config

/-!
# Bad lines of a configuration

Loading a configuration reports exactly the lines that are neither blank nor comments nor valid
settings, and these have no effect: the text without them gives the same configuration and no
reports. Of the lines that set a key the last one wins (`load_skips_bad_lines`).

1. `Sets` says what a valid setting is. Whether a line is one does not depend on the configuration
   it is applied to, and neither does the report of a bad line (`exists_applyLine_of_isBad`).
2. A text is cut into lines that end in a line break, except for the last one (`Broken`). This stays
   so when lines are left out, so what is left is cut into the same lines (`brokenLines_flatten`).
-/

namespace TableScript

variable {cs line : List Char} {lines : List (List Char)}

/-! ## Lines of a text -/

/-- A line that is ended by a line break. -/
def IsEnded (line : List Char) : Prop := ∃ body, '\n' ∉ body ∧ line = body ++ ['\n']

/-- Lines of a text: all but the last are ended by a line break, and none is nothing at all. -/
structure Broken (lines : List (List Char)) : Prop where
  ended : lines.Pairwise fun line _ => IsEnded line
  ended_or_rest : ∀ line ∈ lines, IsEnded line ∨ (line ≠ [] ∧ '\n' ∉ line)

theorem brokenLines_cons (c : Char) (cs : List Char) :
    brokenLines (c :: cs) = putBefore c (brokenLines cs) := rfl

theorem Broken.putBefore (h : Broken lines) (c : Char) : Broken (putBefore c lines) := by
  unfold TableScript.putBefore
  split
  case isTrue hc =>
    have hline : IsEnded ['\n'] := ⟨[], List.not_mem_nil, rfl⟩
    exact ⟨.cons (fun _ _ => hline) h.ended, List.forall_mem_cons.2 ⟨.inl hline, h.ended_or_rest⟩⟩
  case isFalse hc =>
    have hended : ∀ {line}, IsEnded line → IsEnded (c :: line) := by
      rintro _ ⟨body, hbody, rfl⟩
      exact ⟨c :: body, List.not_mem_cons_of_ne_of_not_mem (Ne.symm hc) hbody, rfl⟩
    match lines, h with
    | [], _ =>
      refine ⟨List.pairwise_singleton _ _, fun line hline => .inr ?_⟩
      obtain rfl := List.mem_singleton.1 hline
      exact ⟨List.cons_ne_nil _ _, by simpa using Ne.symm hc⟩
    | line :: lines, ⟨hended', hall⟩ =>
      obtain ⟨hfirst, hothers⟩ := List.pairwise_cons.1 hended'
      obtain ⟨hline, hlines⟩ := List.forall_mem_cons.1 hall
      refine ⟨.cons (fun l hl => hended (hfirst l hl)) hothers,
        List.forall_mem_cons.2 ⟨hline.imp hended fun hrest => ?_, hlines⟩⟩
      exact ⟨List.cons_ne_nil _ _, List.not_mem_cons_of_ne_of_not_mem (Ne.symm hc) hrest.2⟩

theorem broken_brokenLines (cs : List Char) : Broken (brokenLines cs) := by
  induction cs with
  | nil => exact ⟨.nil, fun _ h => nomatch h⟩
  | cons c cs ih => exact ih.putBefore c

theorem flatten_putBefore (c : Char) (lines : List (List Char)) :
    (putBefore c lines).flatten = c :: lines.flatten := by
  unfold putBefore
  split
  case isTrue hc => rw [hc]; rfl
  case isFalse => cases lines <;> rfl

/-- The lines with their line breaks make up the text. -/
theorem flatten_brokenLines (cs : List Char) : (brokenLines cs).flatten = cs := by
  induction cs with
  | nil => rfl
  | cons c cs ih => rw [brokenLines_cons, flatten_putBefore, ih]

theorem Broken.sublist {lines' : List (List Char)} (h : Broken lines)
    (hsub : lines'.Sublist lines) : Broken lines' :=
  ⟨h.ended.sublist hsub, fun line hline => h.ended_or_rest line (hsub.mem hline)⟩

theorem brokenLines_ended (h : IsEnded line) (cs : List Char) :
    brokenLines (line ++ cs) = line :: brokenLines cs := by
  obtain ⟨body, hbody, rfl⟩ := h
  induction body with
  | nil => rfl
  | cons c body ih =>
    obtain ⟨hc, hbody⟩ := List.ne_and_not_mem_of_not_mem_cons hbody
    rw [List.cons_append, List.cons_append, brokenLines_cons, ih hbody]
    exact if_neg (Ne.symm hc)

theorem brokenLines_rest (hne : line ≠ []) (h : '\n' ∉ line) : brokenLines line = [line] := by
  induction line with
  | nil => exact absurd rfl hne
  | cons c line ih =>
    obtain ⟨hc, hline⟩ := List.ne_and_not_mem_of_not_mem_cons h
    rw [brokenLines_cons]
    by_cases hempty : line = []
    · rw [hempty]
      exact if_neg (Ne.symm hc)
    · rw [ih hempty hline]
      exact if_neg (Ne.symm hc)

theorem brokenLines_flatten (h : Broken lines) : brokenLines lines.flatten = lines := by
  induction lines with
  | nil => rfl
  | cons line lines ih =>
    have hlines := ih (h.sublist (List.sublist_cons_self line lines))
    rw [List.flatten_cons]
    rcases h.ended_or_rest line List.mem_cons_self with hended | hrest
    · rw [brokenLines_ended hended, hlines]
    · -- a line without a line break is the last one
      match lines, h.ended with
      | [], _ => rw [List.flatten_nil, List.append_nil, brokenLines_rest hrest.1 hrest.2]
      | next :: lines, hended =>
        obtain ⟨body, -, rfl⟩ := (List.pairwise_cons.1 hended).1 next List.mem_cons_self
        exact absurd (by simp) hrest.2

/-- A text without the lines that have these numbers, counted from one. -/
def withoutLines (text : String) (numbers : List Nat) : String :=
  String.ofList (((((brokenLines text.toList).zipIdx 1).filter fun line => line.2 ∉ numbers).map
    Prod.fst).flatten)

/-- Where no line is left out, the text is as it was. -/
theorem withoutLines_nil (text : String) : withoutLines text [] = text := by
  have hall : ((brokenLines text.toList).zipIdx 1).filter (fun line => line.2 ∉ []) =
      (brokenLines text.toList).zipIdx 1 := List.filter_eq_self.2 fun _ _ => by simp
  rw [withoutLines, hall, List.zipIdx_map_fst, flatten_brokenLines, String.ofList_toList]

/-- Leaving out lines leaves the others as they are. -/
theorem textLines_withoutLines (text : String) (numbers : List Nat) :
    textLines (withoutLines text numbers) =
      (((textLines text).zipIdx 1).filter fun line => line.2 ∉ numbers).map Prod.fst := by
  have hsub : ((((brokenLines text.toList).zipIdx 1).filter fun line => line.2 ∉ numbers).map
      Prod.fst).Sublist (brokenLines text.toList) := by
    have hfilter := (List.filter_sublist (l := (brokenLines text.toList).zipIdx 1)
      (p := fun line => line.2 ∉ numbers)).map Prod.fst
    rwa [List.zipIdx_map_fst] at hfilter
  rw [withoutLines, textLines, String.toList_ofList,
    brokenLines_flatten ((broken_brokenLines text.toList).sublist hsub), textLines,
    List.zipIdx_map, List.filter_map, List.map_map, List.map_map]
  rfl

namespace Config

/-! ## Settings -/

/-- The keys that can be set. -/
inductive Key where
  | shell
  | colour
  | quietShell
  | echo

namespace Key

/-- The key as it is written. -/
def name : Key → String
  | shell => "shell"
  | colour => "color"
  | quietShell => "quiet_shell"
  | echo => "echo"

/-- What is known of a key. -/
def Value : Key → Type
  | shell => Option String
  | colour => Option Bool
  | quietShell => Bool
  | echo => Bool

/-- What a key is set to by the text of a value, if this is a value of the key. -/
def read? : (k : Key) → String → Option k.Value
  | shell, text => if text = "" then none else some (some text)
  | colour, text => (readBool? text).map some
  | quietShell, text => readBool? text
  | echo, text => readBool? text

/-- What is said of a text that is no value of the key. -/
def refusal : Key → String → String
  | shell, _ => "shell: value cannot be empty"
  | k, text => k.name ++ ": expected a boolean, got '" ++ text ++ "'"

end Key

/-- What is set for a key. -/
def get (c : Config) : (k : Key) → k.Value
  | .shell => c.shell
  | .colour => c.colour
  | .quietShell => c.quietShell
  | .echo => c.echo

/-- Sets a key. -/
def put (c : Config) : (k : Key) → k.Value → Config
  | .shell, v => { c with shell := v }
  | .colour, v => { c with colour := v }
  | .quietShell, v => { c with quietShell := v }
  | .echo, v => { c with echo := v }

/-- A blank line or a comment. -/
def IsSkipped (raw : String) : Prop :=
  trim raw = "" ∨ (trim raw).startsWith ";" = true ∨ (trim raw).startsWith "#" = true

/-- A line that sets a key: its name, the first equals sign of the line, and a value, which may be
in quotes. -/
def Sets (raw : String) (k : Key) (v : k.Value) : Prop :=
  ¬ IsSkipped raw ∧ ∃ before after : List Char,
    (trim raw).toList = before ++ '=' :: after ∧ '=' ∉ before ∧
    trim (String.ofList before) = k.name ∧
    k.read? (unquote (trim (String.ofList after))) = some v

/-- A line that is neither blank nor a comment nor a valid setting. -/
def IsBad (raw : String) : Prop := ¬ IsSkipped raw ∧ ∀ k v, ¬ Sets raw k v

variable {c : Config} {raw text : String}

theorem get_put_self (c : Config) (k : Key) (v : k.Value) : (c.put k v).get k = v := by
  cases k <;> rfl

theorem get_put_ne {k k' : Key} (h : k' ≠ k) (c : Config) (v : k.Value) :
    (c.put k v).get k' = c.get k' := by
  cases k <;> cases k' <;> first | rfl | exact absurd rfl h

theorem readBool_map {α : Type} (f : Bool → α) (name text : String) :
    (readBool name text).map f =
      (readBool? text).elim (.error (name ++ ": expected a boolean, got '" ++ text ++ "'"))
        fun b => .ok (f b) := by
  unfold readBool
  cases readBool? text <;> rfl

theorem set_name (c : Config) (k : Key) (text : String) :
    c.set k.name text =
      (k.read? text).elim (.error (k.refusal text)) fun v => .ok (c.put k v) := by
  cases k with
  | shell =>
    change c.set "shell" text = Option.elim (if text = "" then none else some (some text)) _ _
    rw [set, if_pos rfl]
    split <;> rfl
  | colour =>
    change c.set "color" text = ((readBool? text).map some).elim _ _
    rw [set, if_neg (by decide), if_pos rfl, readBool_map]
    cases readBool? text <;> rfl
  | quietShell =>
    change c.set "quiet_shell" text = _
    rw [set, if_neg (by decide), if_neg (by decide), if_pos rfl, readBool_map]
    rfl
  | echo =>
    change c.set "echo" text = _
    rw [set, if_neg (by decide), if_neg (by decide), if_neg (by decide), if_pos rfl, readBool_map]
    rfl

theorem set_unknown {name : String} (h : ∀ k : Key, name ≠ k.name) (c : Config) (text : String) :
    c.set name text = .error ("unknown key '" ++ name ++ "'") := by
  have hshell : name ≠ "shell" := h .shell
  have hcolour : name ≠ "color" := h .colour
  have hquiet : name ≠ "quiet_shell" := h .quietShell
  have hecho : name ≠ "echo" := h .echo
  rw [set, if_neg hshell, if_neg hcolour, if_neg hquiet, if_neg hecho]

/-- Whether a key is set does not depend on the configuration. -/
theorem set_cases (name text : String) :
    (∃ (k : Key) (v : k.Value), name = k.name ∧ k.read? text = some v) ∨
      ∃ message, ∀ c : Config, c.set name text = .error message := by
  by_cases hname : ∃ k : Key, name = k.name
  · obtain ⟨k, rfl⟩ := hname
    cases hread : k.read? text with
    | some v => exact .inl ⟨k, v, rfl, hread⟩
    | none => exact .inr ⟨k.refusal text, fun c => by rw [set_name, hread]; rfl⟩
  · exact .inr ⟨_, fun c => set_unknown (fun k hk => hname ⟨k, hk⟩) c text⟩

/-! ## One line -/

theorem splitSetting?_of_append {before after : List Char} (h : '=' ∉ before)
    (hline : text.toList = before ++ '=' :: after) :
    splitSetting? text = some (String.ofList before, String.ofList after) := by
  have hbefore : ∀ c ∈ before, decide (c ≠ '=') = true := fun c hc =>
    decide_eq_true fun e => h (e ▸ hc)
  unfold splitSetting?
  rw [List.span_eq_takeWhile_dropWhile, hline, List.takeWhile_append_of_pos hbefore,
    List.dropWhile_append_of_pos hbefore]
  simp

theorem append_of_splitSetting? {before after : String}
    (h : splitSetting? text = some (before, after)) :
    text.toList = before.toList ++ '=' :: after.toList ∧ '=' ∉ before.toList := by
  unfold splitSetting? at h
  rw [List.span_eq_takeWhile_dropWhile] at h
  have hall := List.takeWhile_append_dropWhile (p := fun c => decide (c ≠ '=')) (l := text.toList)
  have hhead := List.head?_dropWhile_not (fun c => decide (c ≠ '=')) text.toList
  cases hrest : text.toList.dropWhile fun c => decide (c ≠ '=') with
  | nil =>
    rw [hrest] at h
    cases h
  | cons c value =>
    rw [hrest] at h hall hhead
    cases h
    obtain rfl : c = '=' := by simpa using hhead
    rw [String.toList_ofList, String.toList_ofList]
    exact ⟨hall.symm, fun hmem => by simpa using List.mem_takeWhile_imp hmem⟩

theorem isSkipped_iff :
    (decide (trim raw = "") || (trim raw).startsWith ";" || (trim raw).startsWith "#") = true ↔
      IsSkipped raw := by
  simp only [IsSkipped, Bool.or_eq_true, decide_eq_true_eq, or_assoc]

theorem applyLine_of_isSkipped (h : IsSkipped raw) (c : Config) : c.applyLine raw = .ok c := by
  have htext : Line.ofText raw = .skipped := by
    unfold Line.ofText
    dsimp only
    rw [if_pos (isSkipped_iff.2 h)]
  rw [applyLine, htext]

theorem applyLine_of_split (h : ¬ IsSkipped raw) {before after : String}
    (hsplit : splitSetting? (trim raw) = some (before, after)) (c : Config) :
    c.applyLine raw = c.set (trim before) (unquote (trim after)) := by
  have htext : Line.ofText raw = .setting (trim before) (unquote (trim after)) := by
    unfold Line.ofText
    dsimp only
    rw [if_neg (mt isSkipped_iff.1 h), hsplit]
  rw [applyLine, htext]

theorem applyLine_of_no_split (h : ¬ IsSkipped raw) (hsplit : splitSetting? (trim raw) = none)
    (c : Config) :
    c.applyLine raw = .error ("expected `key = value`, got `" ++ trim raw ++ "`") := by
  have htext : Line.ofText raw = .malformed (trim raw) := by
    unfold Line.ofText
    dsimp only
    rw [if_neg (mt isSkipped_iff.1 h), hsplit]
  rw [applyLine, htext]

theorem applyLine_of_sets {k : Key} {v : k.Value} (h : Sets raw k v) (c : Config) :
    c.applyLine raw = .ok (c.put k v) := by
  obtain ⟨hskipped, before, after, hline, hbefore, hname, hv⟩ := h
  rw [applyLine_of_split hskipped (splitSetting?_of_append hbefore hline), hname, set_name, hv]
  rfl

/-- The report of a bad line is the same in any configuration. -/
theorem exists_applyLine_of_isBad (h : IsBad raw) :
    ∃ message, ∀ c : Config, c.applyLine raw = .error message := by
  obtain ⟨hskipped, hsets⟩ := h
  cases hsplit : splitSetting? (trim raw) with
  | none => exact ⟨_, applyLine_of_no_split hskipped hsplit⟩
  | some p =>
    obtain ⟨before, after⟩ := p
    obtain ⟨hline, hbefore⟩ := append_of_splitSetting? hsplit
    rcases set_cases (trim before) (unquote (trim after)) with ⟨k, v, hname, hv⟩ | ⟨message, herror⟩
    · refine absurd ⟨hskipped, before.toList, after.toList, hline, hbefore, ?_, ?_⟩ (hsets k v)
      · rw [String.ofList_toList, hname]
      · rw [String.ofList_toList, hv]
    · exact ⟨message, fun c => (applyLine_of_split hskipped hsplit c).trans (herror c)⟩

theorem isSkipped_or_sets_or_isBad (raw : String) :
    IsSkipped raw ∨ (∃ k v, Sets raw k v) ∨ IsBad raw := by
  by_cases hskipped : IsSkipped raw
  · exact .inl hskipped
  · by_cases hsets : ∃ k v, Sets raw k v
    · exact .inr (.inl hsets)
    · exact .inr (.inr ⟨hskipped, fun k v h => hsets ⟨k, v, h⟩⟩)

/-! ## All lines -/

variable {n : Nat} {raws : List String}

/-- The configuration after a line; a bad one has no effect. -/
def after (c : Config) (raw : String) : Config := (c.applyLine raw).toOption.getD c

theorem after_of_isSkipped (h : IsSkipped raw) (c : Config) : c.after raw = c := by
  rw [after, applyLine_of_isSkipped h]
  rfl

theorem after_of_sets {k : Key} {v : k.Value} (h : Sets raw k v) (c : Config) :
    c.after raw = c.put k v := by
  rw [after, applyLine_of_sets h]
  rfl

theorem after_of_isBad (h : IsBad raw) (c : Config) : c.after raw = c := by
  obtain ⟨message, herror⟩ := exists_applyLine_of_isBad h
  rw [after, herror]
  rfl

theorem applyLine_of_not_isBad (h : ¬ IsBad raw) (c : Config) :
    c.applyLine raw = .ok (c.after raw) := by
  rcases isSkipped_or_sets_or_isBad raw with hskipped | ⟨k, v, hsets⟩ | hbad
  · rw [applyLine_of_isSkipped hskipped, after_of_isSkipped hskipped]
  · rw [applyLine_of_sets hsets, after_of_sets hsets]
  · exact absurd hbad h

theorem applyLines_cons_of_not_isBad (h : ¬ IsBad raw) (c : Config) (n : Nat) (raws : List String) :
    c.applyLines n (raw :: raws) = (c.after raw).applyLines (n + 1) raws := by
  rw [applyLines, applyLine_of_not_isBad h]

theorem applyLines_cons_of_isBad (h : IsBad raw) (c : Config) (n : Nat) (raws : List String) :
    ∃ message, c.applyLines n (raw :: raws) =
      ((c.applyLines (n + 1) raws).1, ⟨n, message⟩ :: (c.applyLines (n + 1) raws).2) := by
  obtain ⟨message, herror⟩ := exists_applyLine_of_isBad h
  exact ⟨message, by rw [applyLines, herror]⟩

/-- A number is that of a bad line, with the lines numbered from `n` on. -/
def IsBadAt (n : Nat) (raws : List String) (m : Nat) : Prop :=
  ∃ i raw, m = n + i ∧ raws[i]? = some raw ∧ IsBad raw

theorem not_isBadAt_nil {m : Nat} : ¬ IsBadAt n [] m := by
  rintro ⟨i, raw, -, hraw, -⟩
  cases hraw

theorem isBadAt_cons {m : Nat} :
    IsBadAt n (raw :: raws) m ↔ (m = n ∧ IsBad raw) ∨ IsBadAt (n + 1) raws m := by
  constructor
  · rintro ⟨i, raw', rfl, hraw, hbad⟩
    cases i with
    | zero => exact .inl ⟨rfl, Option.some.inj hraw ▸ hbad⟩
    | succ i => exact .inr ⟨i, raw', by omega, hraw, hbad⟩
  · rintro (⟨rfl, hbad⟩ | ⟨i, raw', rfl, hraw, hbad⟩)
    · exact ⟨0, raw, rfl, rfl, hbad⟩
    · exact ⟨i + 1, raw', by omega, hraw, hbad⟩

/-- The reports come in the order of the lines, one for each bad line. -/
theorem errors_applyLines (c : Config) (n : Nat) (raws : List String) :
    ((c.applyLines n raws).2.map (·.line)).Pairwise (· < ·) ∧
      ∀ m, m ∈ (c.applyLines n raws).2.map (·.line) ↔ IsBadAt n raws m := by
  induction raws generalizing c n with
  | nil => exact ⟨.nil, fun m => iff_of_false List.not_mem_nil not_isBadAt_nil⟩
  | cons raw raws ih =>
    by_cases hbad : IsBad raw
    · obtain ⟨message, heq⟩ := applyLines_cons_of_isBad hbad c n raws
      obtain ⟨hsorted, hmem⟩ := ih c (n + 1)
      rw [heq, List.map_cons]
      refine ⟨List.pairwise_cons.2 ⟨fun m hm => ?_, hsorted⟩, fun m => ?_⟩
      · obtain ⟨i, _, rfl, -⟩ := (hmem m).1 hm
        exact Nat.lt_of_lt_of_le (Nat.lt_succ_self n) (Nat.le_add_right _ i)
      · rw [List.mem_cons, hmem, isBadAt_cons, and_iff_left hbad]
    · obtain ⟨hsorted, hmem⟩ := ih (c.after raw) (n + 1)
      rw [applyLines_cons_of_not_isBad hbad]
      exact ⟨hsorted, fun m => by rw [hmem, isBadAt_cons, or_iff_right fun h => hbad h.2]⟩

theorem applyLines_config (c : Config) (n : Nat) (raws : List String) :
    (c.applyLines n raws).1 = raws.foldl after c := by
  induction raws generalizing c n with
  | nil => rfl
  | cons raw raws ih =>
    by_cases hbad : IsBad raw
    · obtain ⟨message, heq⟩ := applyLines_cons_of_isBad hbad c n raws
      rw [heq, List.foldl_cons, after_of_isBad hbad, ih]
    · rw [applyLines_cons_of_not_isBad hbad, List.foldl_cons, ih]

/-- Without bad lines there are no reports. -/
theorem applyLines_of_good (h : ∀ raw ∈ raws, ¬ IsBad raw) (c : Config) (n : Nat) :
    c.applyLines n raws = (raws.foldl after c, []) := by
  induction raws generalizing c n with
  | nil => rfl
  | cons raw raws ih =>
    obtain ⟨hraw, hraws⟩ := List.forall_mem_cons.1 h
    rw [applyLines_cons_of_not_isBad hraw, List.foldl_cons, ih hraws]

theorem get_foldl_after {k : Key} (h : ∀ raw ∈ raws, ∀ v, ¬ Sets raw k v) (c : Config) :
    (raws.foldl after c).get k = c.get k := by
  induction raws generalizing c with
  | nil => rfl
  | cons raw raws ih =>
    obtain ⟨hraw, hraws⟩ := List.forall_mem_cons.1 h
    rw [List.foldl_cons, ih hraws]
    rcases isSkipped_or_sets_or_isBad raw with hskipped | ⟨k', v, hsets⟩ | hbad
    · rw [after_of_isSkipped hskipped]
    · have hne : k ≠ k' := fun hk => by
        subst hk
        exact hraw v hsets
      rw [after_of_sets hsets, get_put_ne hne]
    · rw [after_of_isBad hbad]

/-- Bad lines may be left out. -/
theorem foldl_after_filter {numbered : List (String × Nat)} {p : String × Nat → Bool}
    (h : ∀ l ∈ numbered, p l = false → IsBad l.1) (c : Config) :
    ((numbered.filter p).map Prod.fst).foldl after c = (numbered.map Prod.fst).foldl after c := by
  induction numbered generalizing c with
  | nil => rfl
  | cons l numbered ih =>
    obtain ⟨hl, hnumbered⟩ := List.forall_mem_cons.1 h
    rw [List.map_cons, List.foldl_cons, ← ih hnumbered]
    cases hp : p l with
    | true => rw [List.filter_cons_of_pos hp, List.map_cons, List.foldl_cons]
    | false => rw [List.filter_cons_of_neg (by simp [hp]), after_of_isBad (hl hp)]

theorem load_withoutLines {text : String} {numbers : List Nat}
    (h : ∀ m, m ∈ numbers ↔ IsBadAt 1 (textLines text) m) :
    load (withoutLines text numbers) = ((load text).1, []) := by
  have hbad : ∀ raw m, (raw, m) ∈ (textLines text).zipIdx 1 → (m ∈ numbers ↔ IsBad raw) := by
    intro raw m hmem
    obtain ⟨hle, hraw⟩ := List.mk_mem_zipIdx_iff_le_and_getElem?_sub.1 hmem
    rw [h]
    constructor
    · rintro ⟨i, raw', rfl, hraw', hbad⟩
      rw [Nat.add_sub_cancel_left, hraw'] at hraw
      exact Option.some.inj hraw ▸ hbad
    · exact fun hbad => ⟨m - 1, raw, by omega, hraw, hbad⟩
  rw [load, load, textLines_withoutLines, applyLines_config, applyLines_of_good, foldl_after_filter,
    List.zipIdx_map_fst]
  · rintro ⟨raw, m⟩ hmem hp
    exact (hbad raw m hmem).1 (by simpa using hp)
  · intro raw hraw
    obtain ⟨⟨raw, m⟩, hmem, rfl⟩ := List.mem_map.1 hraw
    obtain ⟨hmem, hm⟩ := List.mem_filter.1 hmem
    exact fun h => of_decide_eq_true hm ((hbad raw m hmem).2 h)

/-- **Bad lines are reported and skipped.** Loading a text reports the lines that are neither blank
nor comments nor valid settings, by their numbers from one on in increasing order. The text without
these lines gives the same configuration and no reports. For each key the last line that sets it
wins, and a key that no line sets is as it is by default. -/
theorem load_skips_bad_lines (text : String) :
    ((load text).2.map (·.line)).Pairwise (· < ·) ∧
    (∀ n, n ∈ (load text).2.map (·.line) ↔
      ∃ i raw, n = 1 + i ∧ (textLines text)[i]? = some raw ∧ IsBad raw) ∧
    load (withoutLines text ((load text).2.map (·.line))) = ((load text).1, []) ∧
    ∀ k : Key,
      (∀ before raw after v, textLines text = before ++ raw :: after → Sets raw k v →
        (∀ later ∈ after, ∀ w, ¬ Sets later k w) → (load text).1.get k = v) ∧
      ((∀ raw ∈ textLines text, ∀ v, ¬ Sets raw k v) → (load text).1.get k = get {} k) := by
  obtain ⟨hsorted, hbad⟩ := errors_applyLines {} 1 (textLines text)
  refine ⟨hsorted, hbad, load_withoutLines hbad, fun k => ⟨?_, ?_⟩⟩
  · intro before raw later v htext hsets hlater
    rw [load, applyLines_config, htext, List.foldl_append, List.foldl_cons,
      get_foldl_after hlater, after_of_sets hsets, get_put_self]
  · intro hnone
    rw [load, applyLines_config, get_foldl_after hnone]

/-- The setting of the first line is kept by the bad second one. -/
example : load "color = on\r\ncolor = maybe\n# echo = no\njust words\necho = off" =
    ({ colour := some true, echo := false },
      [⟨2, "color: expected a boolean, got 'maybe'"⟩,
        ⟨4, "expected `key = value`, got `just words`"⟩]) := by
  decide +kernel

end Config
end TableScript
