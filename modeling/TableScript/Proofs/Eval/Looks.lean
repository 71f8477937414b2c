import TableScript.Eval.Builtins
import TableScript.Proofs.Eval.Alongside
import TableScript.Proofs.Text.Casing

/-!
# Looks do not show in text

The functions on texts see the plain text of strings. Called twice, with arguments that differ only
in how their strings are divided into segments and how these look, they come to results that differ
only in looks, or to the same failure.

1. calls are checked by number and kinds, so both are accepted or both fail alike
   (`Contract.check_eq`);
2. the functions are alongside themselves one by one, and `run_alongside` collects them;
3. lower case is the exception. It is alongside itself where each capital sigma ends a word in its
   segment when it ends one in the whole text, and `plain_lower_iff` leaves nothing else;
4. `looks_do_not_show` says so of operators, indexing, slicing and functions.
-/

namespace TableScript

variable {R : Pairing} {c c' : CallArgs} {v w : Value}

/-- Arguments that differ only in looks. -/
structure CallArgs.Alike (R : Pairing) (c c' : CallArgs) : Prop where
  args : c.args.Forall₂ (Value.Alike R) c'.args
  named : c.named.Forall₂ (fun p q => p.1 = q.1 ∧ p.2.Alike R q.2) c'.named
  expected : c.expected = c'.expected
  span : c.span = c'.span

/-- Results that differ only in looks. -/
abbrev ResultsAlike (S : Pairing) (vs ws : List Value) : Prop := vs.Forall₂ (Value.Alike S) ws

theorem ResultsAlike.single {S : Pairing} (h : v.Alike S w) : ResultsAlike S [v] [w] := .cons h .nil

/-! ## The check of a call -/

namespace Contract

theorem checkKinds_eq {vs ws : List Value} (h : vs.Forall₂ (Value.Alike R) ws) (name : String)
    (i : Nat) (ts : List TypeSet) : checkKinds name i vs ts = checkKinds name i ws ts := by
  induction h generalizing i ts with
  | nil => rfl
  | cons hvw _ ih =>
    cases ts with
    | nil => rfl
    | cons t ts => rw [checkKinds, checkKinds, hvw.kind_eq, hvw.typeName_eq, ih]

theorem checkNamed_eq {p q : String × Value} (h : p.1 = q.1 ∧ p.2.Alike R q.2) (k : Contract)
    (name : String) : k.checkNamed name p = k.checkNamed name q := by
  rw [checkNamed, checkNamed, h.1, h.2.kind_eq, h.2.typeName_eq]

theorem forM_checkNamed_eq {ps qs : List (String × Value)}
    (h : ps.Forall₂ (fun p q => p.1 = q.1 ∧ p.2.Alike R q.2) qs) (k : Contract) (name : String) :
    ps.forM (k.checkNamed name) = qs.forM (k.checkNamed name) := by
  induction h with
  | nil => rfl
  | cons hpq _ ih =>
    rw [List.forM, List.forM, checkNamed_eq hpq, ih]

theorem check_eq (h : c.Alike R c') (k : Contract) (name : String) :
    k.check name c = k.check name c' := by
  rw [check, check, h.args.length_eq, checkKinds_eq h.args, forM_checkNamed_eq h.named, h.expected]

end Contract

/-! ## Arguments -/

namespace Builtin

open Run

section

variable {α : Type} {Q : Pairing → α → α → Prop}

/-- The argument in a position, of which more may be known, and what follows it. -/
theorem argMem_bind (h : c.Alike R c') (i : Nat) {f g : Value → Run α}
    (hf : ∀ {v w}, v ∈ c.args → w ∈ c'.args → v.Alike R w → Alongside R Q (f v) (g w)) :
    Alongside R Q (c.arg i >>= f) (c'.arg i >>= g) := by
  have harg := rel_getElem? h.args i
  have hmem := fun v => List.mem_of_getElem? (l := c.args) (i := i) (a := v)
  have hmem' := fun w => List.mem_of_getElem? (l := c'.args) (i := i) (a := w)
  unfold CallArgs.arg
  generalize c.args[i]? = found at harg hmem ⊢
  generalize c'.args[i]? = found' at harg hmem' ⊢
  cases harg with
  | none => exact fun _ _ hst => .error le_rfl hst
  | some hvw => exact hf (hmem _ rfl) (hmem' _ rfl) hvw

/-- The argument in a position, and what follows it. -/
theorem arg_bind (h : c.Alike R c') (i : Nat) {f g : Value → Run α}
    (hf : ∀ {v w}, v.Alike R w → Alongside R Q (f v) (g w)) :
    Alongside R Q (c.arg i >>= f) (c'.arg i >>= g) :=
  argMem_bind h i fun _ _ => hf

theorem requireStr_alike (h : v.Alike R w) :
    SameResult (fun t u => t.plain = u.plain) v.requireStr w.requireStr := by
  cases h with
  | str ht => exact .ok ht
  | _ => exact .error _

/-- The string in a position, and what follows it. -/
theorem strArg_bind (h : c.Alike R c') (i : Nat) {f g : RichText → Run α}
    (hf : ∀ {t u}, t.plain = u.plain → Alongside R Q (f t) (g u)) :
    Alongside R Q (c.arg i >>= fun v => ensure v.requireStr >>= f)
      (c'.arg i >>= fun v => ensure v.requireStr >>= g) :=
  arg_bind h i fun hvw => ensure_bind (requireStr_alike hvw) hf

/-- The plain text of the string in a position, and what follows it. -/
theorem plainArg_bind (h : c.Alike R c') (i : Nat) {f g : String → Run α}
    (hf : ∀ s, Alongside R Q (f s) (g s)) :
    Alongside R Q (plainArg c i >>= f) (plainArg c' i >>= g) := by
  unfold plainArg
  simp only [bind_assoc, pure_bind]
  exact strArg_bind h i fun ht => ht ▸ hf _

theorem requireList_alike (h : v.Alike R w) :
    SameResult (fun x y => R (.list x) (.list y)) v.requireList w.requireList := by
  cases h with
  | list hx => exact .ok hx
  | _ => exact .error _

end

theorem returnList_alongside {vs ws : List Value} (h : ResultsAlike R vs ws) :
    Alongside R ResultsAlike (returnList vs) (returnList ws) :=
  (ofStore_alongside (.allocList h)).bind fun _ hvw => .of_pure (.single hvw)

/-! ## One function after the other -/

theorem runLen_alongside (h : c.Alike R c') : Alongside R ResultsAlike (runLen c) (runLen c') := by
  refine getMachine_bind fun hst => arg_bind h 0 fun hvw => ?_
  cases hvw with
  | str ht =>
    refine .of_pure (.single ?_)
    rw [RichText.length_eq_of_plain_eq ht]
    exact .int _
  | list hx =>
    refine .of_pure (.single ?_)
    rw [(hst.items hx).length_eq]
    exact .int _
  | map hx =>
    refine .of_pure (.single ?_)
    rw [(hst.entries hx).length_eq]
    exact .int _
  | _ => exact fail_alongside _

theorem richText_alongside (h : v.Alike R w) :
    Alongside R (fun _ t u => t.plain = u.plain) (richText v) (richText w) := by
  have htext : Alongside R (fun _ t u => RichText.plain t = u.plain)
      (get >>= fun m : Machine => pure (.ofString (m.store.text v)) : Run RichText)
      (get >>= fun m : Machine => pure (.ofString (m.store.text w))) :=
    getMachine_bind fun hst => .of_pure (by rw [hst.text_eq h])
  cases h with
  | str ht => exact .of_pure ht
  | _ => exact htext

theorem runJoin_alongside (h : c.Alike R c') :
    Alongside R ResultsAlike (runJoin c) (runJoin c') := by
  refine plainArg_bind h 1 fun sep => ?_
  unfold listArg
  simp only [bind_assoc, pure_bind]
  refine arg_bind h 0 fun hvw => ensure_bind (requireList_alike hvw) fun hxy => ?_
  refine getMachine_bind fun hst => getMachine_bind fun hst' => .of_pure (.single ?_)
  rw [map_eq_map_of_forall₂ (hst.items hxy) fun _ _ => hst'.text_eq]
  exact .ofString _

theorem runSplit_alongside (h : c.Alike R c') :
    Alongside R ResultsAlike (runSplit c) (runSplit c') := by
  refine plainArg_bind h 0 fun s => plainArg_bind h 1 fun sep => returnList_alongside ?_
  refine List.forall₂_map_left_iff.2 (List.forall₂_map_right_iff.2 (List.forall₂_same.2 ?_))
  exact fun piece _ => .ofString piece

/-- A pattern, and what follows it. -/
theorem compile_bind {α : Type} {Q : Pairing → α → α → Prop} (pattern : String)
    {f g : Pattern.Regex → Run α} (hf : ∀ r, Alongside R Q (f r) (g r)) :
    Alongside R Q (compile pattern >>= f) (compile pattern >>= g) := by
  unfold compile
  cases Pattern.Regex.compile pattern with
  | ok r => exact hf r
  | error e => exact fun _ _ hst => .error le_rfl hst

theorem runReplace_alongside (h : c.Alike R c') :
    Alongside R ResultsAlike (runReplace c) (runReplace c') := by
  refine plainArg_bind h 0 fun s => plainArg_bind h 1 fun pattern => ?_
  refine compile_bind pattern fun r => ?_
  exact plainArg_bind h 2 fun replacement => .of_pure (.single (.ofString _))

theorem runIsMatch_alongside (h : c.Alike R c') :
    Alongside R ResultsAlike (runIsMatch c) (runIsMatch c') := by
  refine plainArg_bind h 0 fun s => plainArg_bind h 1 fun pattern => ?_
  exact compile_bind pattern fun r => .of_pure (.single (.bool _))

theorem runTruncate_alongside (h : c.Alike R c') :
    Alongside R ResultsAlike (runTruncate c) (runTruncate c') := by
  refine strArg_bind h 0 fun ht => arg_bind h 1 fun hvw => ?_
  rw [hvw.requireInt_eq]
  refine ensure_bind (.refl _) fun heq => heq ▸ ?_
  refine .ite Iff.rfl (fail_alongside _) (.ite ?_ (.of_pure (.single (.str ht))) ?_)
  · rw [RichText.length_eq_of_plain_eq ht]
  · refine .of_pure (.single (.str ?_))
    rw [RichText.plain_push, RichText.plain_push, RichText.plain_slice, RichText.plain_slice, ht]

theorem fallible_alongside (h : c.expected = c'.expected) {r r' : Except Unwind Value}
    (hr : SameResult (Value.Alike R) r r') :
    Alongside R ResultsAlike (fallible c r) (fallible c' r') := by
  unfold fallible
  rw [h]
  generalize c'.expected = expected
  cases hr with
  | ok hvw =>
    obtain _ | _ | _ | _ | n := expected
    · exact .of_pure (.single hvw)
    · exact .of_pure (.single hvw)
    · exact .of_pure (.single hvw)
    · exact .of_pure (.cons hvw (.cons .null .nil))
    · exact .of_pure (.single hvw)
  | error u =>
    obtain _ | _ | _ | _ | n := expected
    · exact .stop _
    · exact .stop _
    · exact .stop _
    · exact .of_pure (.cons .null (.cons (.error _) .nil))
    · exact .stop _

theorem valueOfJson_alongside (j : Json) :
    Alongside R Value.Alike (valueOfJson j) (valueOfJson j) := by
  refine ofStore_alongside fun st st' hst => ?_
  obtain ⟨S, hRS, hS, hv⟩ := Store.Twins.ofJson hst j
  exact .ok hRS hS hv

/-- Reading the plain text of the first argument, where that it cannot be read is a failure. -/
theorem reading_alongside (h : c.Alike R c') {read : String → Run Value}
    (hread : ∀ s, Alongside R Value.Alike (read s) (read s)) :
    Alongside R ResultsAlike
      (plainArg c 0 >>= fun s => attempt (read s) >>= fun r => fallible c r)
      (plainArg c' 0 >>= fun s => attempt (read s) >>= fun r => fallible c' r) :=
  plainArg_bind h 0 fun s => (attempt_alongside (hread s)).bind fun _ hr =>
    fallible_alongside h.expected hr

theorem runParseJson_alongside (h : c.Alike R c') :
    Alongside R ResultsAlike (runParseJson c) (runParseJson c') := by
  refine reading_alongside h fun s => ?_
  split
  · exact valueOfJson_alongside _
  · exact fail_alongside _

theorem runParseInt_alongside (h : c.Alike R c') :
    Alongside R ResultsAlike (runParseInt c) (runParseInt c') := by
  refine reading_alongside h fun s => ?_
  split
  · exact .of_pure (.int _)
  · exact fail_alongside _

theorem runParseFloat_alongside (h : c.Alike R c') :
    Alongside R ResultsAlike (runParseFloat c) (runParseFloat c') := by
  refine reading_alongside h fun s => ?_
  split
  · exact .of_pure (.float _)
  · exact fail_alongside _

/-! ## All functions on texts -/

/-- The functions on texts. -/
def textFunctions : List Builtin :=
  [.len, .str, .upper, .lower, .join, .split, .replace, .isMatch, .startsWith, .endsWith, .truncate,
    .parseInt, .parseFloat, .parseJson]

/-- Where lower case is asked for, each capital sigma ends a word in its segment when it ends one in
the whole text. -/
def SigmasSettled (f : Builtin) (c : CallArgs) : Prop :=
  f = .lower → ∀ t, .str t ∈ c.args → t.SigmasSettled

theorem runLower_alongside (h : c.Alike R c') (hs : lower.SigmasSettled c)
    (hs' : lower.SigmasSettled c') :
    Alongside R ResultsAlike (lower.run c) (lower.run c') := by
  refine argMem_bind h 0 fun hv hw hvw => ?_
  cases hvw with
  | @str t u ht =>
    have hlower : (t.mapText TableScript.lower).plain = (u.mapText TableScript.lower).plain := by
      rw [(RichText.plain_lower_iff t).2 (hs rfl t hv),
        (RichText.plain_lower_iff u).2 (hs' rfl u hw), ht]
    exact .of_pure (.single (.str hlower))
  | _ => exact fun _ _ hst => .error le_rfl hst

theorem run_alongside {f : Builtin} (hf : f ∈ textFunctions) (h : c.Alike R c')
    (hs : f.SigmasSettled c) (hs' : f.SigmasSettled c') :
    Alongside R ResultsAlike (f.run c) (f.run c') := by
  simp only [textFunctions, List.mem_cons, List.not_mem_nil, or_false] at hf
  obtain rfl | rfl | rfl | rfl | rfl | rfl | rfl | rfl | rfl | rfl | rfl | rfl | rfl | rfl := hf
  · exact runLen_alongside h
  · refine arg_bind h 0 fun hvw => (richText_alongside hvw).bind fun _ ht => ?_
    exact .of_pure (.single (.str ht))
  · refine strArg_bind h 0 fun ht => .of_pure (.single (.str ?_))
    rw [RichText.plain_upper, RichText.plain_upper, ht]
  · exact runLower_alongside h hs hs'
  · exact runJoin_alongside h
  · exact runSplit_alongside h
  · exact runReplace_alongside h
  · exact runIsMatch_alongside h
  · exact plainArg_bind h 1 fun s => plainArg_bind h 0 fun t => .of_pure (.single (.bool _))
  · exact plainArg_bind h 1 fun s => plainArg_bind h 0 fun t => .of_pure (.single (.bool _))
  · exact runTruncate_alongside h
  · exact runParseInt_alongside h
  · exact runParseFloat_alongside h
  · exact runParseJson_alongside h

/-- **Functions on texts see plain text.** -/
theorem call_alongside {f : Builtin} (hf : f ∈ textFunctions) (h : c.Alike R c')
    (hs : f.SigmasSettled c) (hs' : f.SigmasSettled c') :
    Alongside R ResultsAlike (f.call c) (f.call c') := by
  unfold call
  rw [h.span, Contract.check_eq h]
  exact atSpan_alongside _ (ensure_bind (.refl _) fun _ => run_alongside hf h hs hs')

end Builtin

/-- **Looks do not show in text.** Operators, indexing, slicing and the functions on texts, on
arguments that differ only in how their strings are divided and how they look, come to results that
differ only in that, or to the same failure. For lower case this takes that each capital sigma ends
a word in its segment when it ends one in the whole text: then, and only then, the result is the
lower case of the whole text. In upper case it always is. -/
theorem looks_do_not_show (R : Pairing) :
    (∀ (op : BinaryOp) (a a' b b' : Value), a.Alike R a' → b.Alike R b' →
      Alongside R Value.Alike (Operator.binary op a b) (Operator.binary op a' b')) ∧
    (∀ (st st' : Store) (a a' b b' : Value), st.Twins R st' → a.Alike R a' → b.Alike R b' →
      SameResult (Value.Alike R) (st.index a b) (st'.index a' b')) ∧
    (∀ (start stop : Option Int64) (a a' : Value), a.Alike R a' →
      Alongside R Value.Alike (Store.slice a start stop) (Store.slice a' start stop)) ∧
    (∀ f ∈ Builtin.textFunctions, ∀ c c' : CallArgs, c.Alike R c' → f.SigmasSettled c →
      f.SigmasSettled c' → Alongside R ResultsAlike (f.call c) (f.call c')) ∧
    ∀ (m : Machine) (t : RichText),
      (∃ u : RichText, Builtin.upper.call { args := [.str t] } m = .ok [.str u] m ∧
        u.plain = upper t.plain) ∧
      ∃ u : RichText, Builtin.lower.call { args := [.str t] } m = .ok [.str u] m ∧
        (u.plain = lower t.plain ↔ t.SigmasSettled) := by
  refine ⟨fun op a a' b b' => Operator.binary_alongside op,
    fun st st' a a' b b' => Store.index_alike, fun start stop a a' => Store.slice_alongside _ _,
    fun f hf c c' => Builtin.call_alongside hf, fun m t => ⟨?_, ?_⟩⟩
  · exact ⟨t.mapText upper, rfl, t.plain_upper⟩
  · exact ⟨t.mapText lower, rfl, t.plain_lower_iff⟩

/-- A store with one list, which holds a text. -/
def holding (t : RichText) : Store where
  lists := #[[.str t]]

/-- The first list corresponds to the first list. -/
def firstLists : Pairing := fun c d => c = .list 0 ∧ d = .list 0

theorem twins_holding {t u : RichText} (h : t.plain = u.plain) :
    (holding t).Twins firstLists (holding u) where
  biUnique := ⟨fun _ _ _ hx hy => hx.1.trans hy.1.symm, fun _ _ _ hx hy => hx.2.trans hy.2.symm⟩
  mem := by
    rintro _ _ ⟨rfl, rfl⟩
    exact ⟨List.mem_cons_self, List.mem_cons_self⟩
  items := by
    rintro _ _ ⟨⟨⟩, ⟨⟩⟩
    exact .cons (.str h) .nil
  entries := by
    rintro _ _ ⟨⟨⟩, _⟩
  callableName _ := rfl

/-- Two words, the second one bold. -/
def inSegments : RichText := .ofSegments [⟨"ΟΔΟΣ", {}⟩, ⟨" ΜΟΥ", { style := .bold }⟩]

/-- The same words in one segment. -/
def inOne : RichText := .ofString "ΟΔΟΣ ΜΟΥ"

theorem plain_inSegments : inSegments.plain = inOne.plain := by
  decide +kernel

theorem sigmasSettled_of_plain_lower {t : RichText} (h : (t.mapText lower).plain = lower t.plain)
    (f : Builtin) : f.SigmasSettled { args := [.str t] } := by
  rintro - u hu
  cases List.mem_singleton.1 hu
  exact t.plain_lower_iff.1 h

/-- A text in two segments beside the same text in one: looked for in a list, taken out of it, cut,
and put in lower case. -/
theorem looks_do_not_show_two_words :
    SameOutcome firstLists Value.Alike
      (Operator.binary .isIn (.str inSegments) (.list 0) (holding inSegments))
      (Operator.binary .isIn (.str inOne) (.list 0) (holding inOne)) ∧
    SameResult (Value.Alike firstLists) ((holding inSegments).index (.list 0) (.int 0))
      ((holding inOne).index (.list 0) (.int 0)) ∧
    SameOutcome firstLists Value.Alike
      (Store.slice (.str inSegments) (some 2) none (holding inSegments))
      (Store.slice (.str inOne) (some 2) none (holding inOne)) ∧
    SameOutcome firstLists ResultsAlike
      (Builtin.lower.call { args := [.str inSegments] } { store := holding inSegments })
      (Builtin.lower.call { args := [.str inOne] } { store := holding inOne }) := by
  obtain ⟨hbinary, hindex, hslice, hcall, -⟩ := looks_do_not_show firstLists
  have hstr : (Value.str inSegments).Alike firstLists (.str inOne) := .str plain_inSegments
  have hlist : (Value.list 0).Alike firstLists (.list 0) := .list ⟨rfl, rfl⟩
  have hst := twins_holding plain_inSegments
  refine ⟨hbinary _ _ _ _ _ hstr hlist _ _ hst, hindex _ _ _ _ _ _ hst hlist (.int 0),
    hslice _ _ _ _ hstr _ _ hst, hcall .lower (by decide) _ _ ?_ ?_ ?_ _ _ hst⟩
  · exact ⟨.cons hstr .nil, .nil, rfl, rfl⟩
  · exact sigmasSettled_of_plain_lower (by decide +kernel) _
  · exact sigmasSettled_of_plain_lower (by decide +kernel) _

/-- A word that ends in a capital sigma has another lower case when the sigma stands in a segment of
its own. -/
theorem lower_sees_segments :
    ∃ t u v w : RichText, t.plain = u.plain ∧
      Builtin.lower.call { args := [.str t] } {} = .ok [.str v] {} ∧
      Builtin.lower.call { args := [.str u] } {} = .ok [.str w] {} ∧
      v.plain = "οδοσ" ∧ w.plain = "οδος" := by
  refine ⟨.ofSegments [⟨"ΟΔΟ", { style := .bold }⟩, ⟨"Σ", {}⟩], .ofString "ΟΔΟΣ", _, _, ?_, rfl,
    rfl, ?_, ?_⟩
  · decide +kernel
  · decide +kernel
  · decide +kernel

end TableScript
