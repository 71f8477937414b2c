import TableScript.Eval.Script
import TableScript.Proofs.Value.Slots

/-!
# Failures that are no bugs

Everything that is worked out from values alone, or on the store, may fail, but never with a bug.

1. `NoBug`: a result that is not a bug, put together along `>>=`;
2. `Store.noBug_index`: an index that was resolved against a length lies inside, of a list and of a
   text, because no segment of a text is empty;
3. `Rows.noBug_sort`: rules that name columns of the table never miss one, and `Block.sortRules`
   gives such rules;
4. `StoreM.Steady`: computations on the store that touch no scope and never end with a bug.
-/

namespace TableScript

variable {α β : Type}

/-- A result that is not a bug. -/
def NoBug (r : Except Fault α) : Prop := ∀ message, r ≠ .error (.bug message)

namespace NoBug

theorem ok (a : α) : NoBug (.ok a) := nofun

theorem bind {x : Except Fault α} {f : α → Except Fault β} (hx : NoBug x)
    (hf : ∀ a, x = .ok a → NoBug (f a)) : NoBug (x >>= f) := by
  intro message h
  cases hxa : x with
  | ok a =>
    rw [hxa] at h
    exact hf a hxa message h
  | error e =>
    rw [hxa] at h
    obtain rfl : e = .bug message := Except.error.inj h
    exact hx message hxa

theorem map {x : Except Fault α} (hx : NoBug x) (f : α → β) : NoBug (x.map f) := by
  cases x with
  | ok a => exact nofun
  | error e =>
    intro message h
    exact hx message (congrArg _ (Except.error.inj h))

theorem mapM {f : α → Except Fault β} (hf : ∀ a, NoBug (f a)) (as : List α) :
    NoBug (as.mapM f) := by
  induction as with
  | nil => exact .ok _
  | cons a as ih =>
    rw [List.mapM_cons]
    exact (hf a).bind fun _ _ => ih.bind fun _ _ => .ok _

theorem forM {f : α → Except Fault PUnit} {as : List α} (hf : ∀ a ∈ as, NoBug (f a)) :
    NoBug (as.forM f) := by
  induction as with
  | nil => exact .ok _
  | cons a as ih =>
    refine (hf a List.mem_cons_self).bind fun _ _ => ih fun b hb => ?_
    exact hf b (List.mem_cons_of_mem a hb)

end NoBug

/-! ## Values and operators -/

namespace Value

theorem noBug_requireInt (v : Value) : NoBug v.requireInt := by cases v <;> exact nofun
theorem noBug_requireIntOrBool (v : Value) : NoBug v.requireIntOrBool := by cases v <;> exact nofun
theorem noBug_requireStr (v : Value) : NoBug v.requireStr := by cases v <;> exact nofun
theorem noBug_requireBool (v : Value) : NoBug v.requireBool := by cases v <;> exact nofun
theorem noBug_requireList (v : Value) : NoBug v.requireList := by cases v <;> exact nofun
theorem noBug_requireMap (v : Value) : NoBug v.requireMap := by cases v <;> exact nofun
theorem noBug_requireFn (v : Value) : NoBug v.requireFn := by cases v <;> exact nofun
theorem noBug_requireNumber (v : Value) : NoBug v.requireNumber := by cases v <;> exact nofun
theorem noBug_mapKey (v : Value) : NoBug v.mapKey := by cases v <;> exact nofun

theorem noBug_rank (v : Value) : NoBug v.rank := by
  intro message h
  unfold rank at h
  split at h <;> cases h

end Value

namespace Operator

theorem noBug_unary (st : Store) (op : UnaryOp) (v : Value) : NoBug (unary st op v) := by
  unfold unary
  split <;> exact nofun

theorem noBug_arithmeticInt (op : BinaryOp) (x y : Int64) : NoBug (arithmeticInt op x y) := by
  unfold arithmeticInt
  split
  · exact nofun
  · exact nofun
  · split <;> exact nofun
  · split <;> exact nofun

theorem noBug_arithmeticFloat (op : BinaryOp) (x y : Double) : NoBug (arithmeticFloat op x y) := by
  unfold arithmeticFloat
  split
  · exact nofun
  · exact nofun
  · split <;> exact nofun
  · split <;> exact nofun

theorem noBug_arithmetic (op : BinaryOp) (a b : Value) : NoBug (arithmetic op a b) := by
  unfold arithmetic
  split
  · exact nofun
  · exact nofun
  · exact noBug_arithmeticInt _ _ _
  · split
    · exact noBug_arithmeticFloat _ _ _
    · exact nofun

theorem noBug_occurs (st : Store) (op : BinaryOp) (needle haystack : Value) :
    NoBug (occurs st op needle haystack) := by
  unfold occurs
  split
  · exact nofun
  · exact nofun
  · exact nofun
  · exact nofun
  · exact (Value.noBug_mapKey _).bind fun _ _ => .ok _
  · exact nofun

end Operator

/-! ## Indexing -/

theorem noBug_resolveIndex (i : Int64) (length : Nat) : NoBug (resolveIndex i length) := by
  unfold resolveIndex
  extract_lets position
  split <;> exact nofun

namespace RichText

/-- A character of segments can be cut out of one of them. -/
theorem exists_mem_sliceSegments {segments : List Segment} {i : Nat}
    (h : i < (String.join (segments.map (·.text))).length) :
    ∃ s ∈ sliceSegments i (i + 1) segments, s.text ≠ "" := by
  induction segments generalizing i with
  | nil => simp at h
  | cons s rest ih =>
    rw [List.map_cons, String.join_cons, String.length_append] at h
    by_cases hi : i < s.text.toList.length
    · refine ⟨_, List.mem_cons_self, fun hcut => ?_⟩
      have hlength := congrArg (fun cut => cut.toList.length) hcut
      simp at hlength
      omega
    · rw [String.length_toList] at hi
      obtain ⟨cut, hmem, hcut⟩ := ih (i := i - s.text.length) (by omega)
      refine ⟨cut, List.mem_cons_of_mem _ ?_, hcut⟩
      rw [String.length_toList, show i + 1 - s.text.length = i - s.text.length + 1 by omega]
      exact hmem

/-- There is a character at every position below the length. -/
theorem isSome_charAt? {t : RichText} {i : Nat} (h : i < t.length) : (t.charAt? i).isSome := by
  obtain ⟨s, hmem, hs⟩ := exists_mem_sliceSegments h
  have hkept : s ∈ (t.slice i (i + 1)).segments := by simpa [slice, ofSegments, hs] using hmem
  have hne : (t.slice i (i + 1)).isEmpty = false := by
    rw [isEmpty, List.isEmpty_eq_false_iff]
    exact List.ne_nil_of_mem hkept
  simp [charAt?, hne]

end RichText

/-- **Indexing meets no bug**: what an index was resolved against is what is read. -/
theorem Store.noBug_index (st : Store) (target i : Value) : NoBug (st.index target i) := by
  unfold index
  split
  · refine (Value.noBug_requireInt i).bind fun n _ => ?_
    refine (noBug_resolveIndex _ _).bind fun k hk => ?_
    rw [List.getElem?_eq_getElem (lt_of_resolveIndex hk)]
    exact nofun
  · refine (Value.noBug_requireInt i).bind fun n _ => ?_
    refine (noBug_resolveIndex _ _).bind fun k hk => ?_
    obtain ⟨c, hc⟩ := Option.isSome_iff_exists.1 (RichText.isSome_charAt? (lt_of_resolveIndex hk))
    rw [hc]
    exact nofun
  · refine (Value.noBug_mapKey i).bind fun k _ => ?_
    split <;> exact nofun
  · exact nofun

/-! ## Sorting -/

namespace Rows

theorem noBug_checkLengths (columns : List (List Value)) : NoBug (checkLengths columns) := by
  unfold checkLengths
  split <;> exact nofun

/-- A rule that names a column of the table is checked without a bug. -/
theorem noBug_checkRule {columns : List (List Value)} {r : SortRule}
    (h : r.column < columns.length) : NoBug (checkRule columns r) := by
  unfold checkRule
  rw [List.getElem?_eq_getElem h]
  exact .forM fun v _ => v.noBug_rank.map _

theorem noBug_sort {columns : List (List Value)} {rules : List SortRule}
    (h : ∀ r ∈ rules, r.column < columns.length) : NoBug (sort columns rules) := by
  refine .bind (.bind (noBug_checkLengths columns) fun _ _ => ?_) fun _ _ => .ok _
  exact .bind (.forM fun r hr => noBug_checkRule (h r hr)) fun _ _ => .ok _

theorem noBug_sortValues (values : List Value) (direction : SortDirection) :
    NoBug (sortValues values direction) := by
  refine .bind (noBug_sort fun r hr => ?_) fun _ _ => .ok _
  obtain rfl := List.mem_singleton.1 hr
  exact Nat.zero_lt_one

end Rows

namespace Block

theorem noBug_sortRules (fields : List String) (spec : SortSpec) :
    NoBug (sortRules fields spec) := by
  cases spec with
  | general direction => exact .ok _
  | columns rules =>
    refine .mapM (fun rule message h => ?_) rules
    obtain ⟨name, direction⟩ := rule
    dsimp only at h
    split at h <;> cases h

/-- The rules of a block name columns of its table. -/
theorem lt_length_of_sortRules {fields : List String} {spec : SortSpec} {rules : List SortRule}
    (h : sortRules fields spec = .ok rules) : ∀ r ∈ rules, r.column < fields.length := by
  cases spec with
  | general direction =>
    obtain rfl := Except.ok.inj h
    intro r hr
    obtain ⟨column, hcolumn, rfl⟩ := List.mem_map.1 hr
    exact List.mem_range.1 hcolumn
  | columns named =>
    induction named generalizing rules with
    | nil =>
      obtain rfl := Except.ok.inj h
      exact nofun
    | cons rule rest ih =>
      obtain ⟨name, direction⟩ := rule
      rw [sortRules, List.mapM_cons] at h
      cases hname : fields.idxOf? name with
      | none =>
        simp only [hname] at h
        cases h
      | some column =>
        simp only [hname] at h
        cases hrest : sortRules fields (.columns rest) with
        | error f =>
          rw [sortRules] at hrest
          rw [hrest] at h
          cases h
        | ok others =>
          have hothers := ih hrest
          rw [sortRules] at hrest
          rw [hrest] at h
          obtain rfl := Except.ok.inj h
          intro r hr
          obtain rfl | hr := List.mem_cons.1 hr
          · exact (List.idxOf?_eq_some_iff.1 hname).1
          · exact hothers r hr

end Block

/-! ## Captures, loops, commands and contracts -/

namespace Trie

theorem noBug_mergeAt [Inhabited α] (path : Path) (a b : Capture α) : NoBug (mergeAt path a b) := by
  unfold mergeAt
  split <;> exact nofun

theorem noBug_membersAt (path : Path) (j : Json) : NoBug (membersAt path j) := by
  cases j <;> exact nofun

theorem noBug_itemsAt (path : Path) (j : Json) : NoBug (itemsAt path j) := by
  cases j <;> exact nofun

theorem noBug_visits (path : Path) (step : PathStep) (j : Json) : NoBug (visits path step j) := by
  cases step with
  | key name =>
    refine (noBug_membersAt path j).bind fun members _ => ?_
    split <;> exact nofun
  | wildcard => exact (noBug_membersAt path j).bind fun _ _ => .ok _
  | allElements => exact (noBug_itemsAt path j).bind fun _ _ => .ok _
  | index i =>
    refine (noBug_itemsAt path j).bind fun items _ => ?_
    split <;> exact nofun

theorem noBug_captureEach [Inhabited α] (path : Path) {one : β → Except Fault (Capture α)}
    (hone : ∀ b, NoBug (one b)) (bs : List β) (acc : Capture α) :
    NoBug (captureEach path one acc bs) := by
  induction bs generalizing acc with
  | nil => exact .ok _
  | cons b rest ih => exact (hone b).bind fun c _ => (noBug_mergeAt path acc c).bind fun _ _ => ih _

mutual

theorem noBug_captureAt (path : Path) (key : Option String) (j : Json) (t : Trie) :
    NoBug (captureAt path key j t) := by
  obtain ⟨fields, children⟩ := t
  unfold captureAt
  refine (noBug_captureChildren path j [] children).bind fun c _ => ?_
  split
  · exact .ok _
  · exact noBug_mergeAt _ _ _

theorem noBug_captureChildren (path : Path) (j : Json) (acc : Capture)
    (children : List (PathStep × Trie)) : NoBug (captureChildren path j acc children) := by
  cases children with
  | nil =>
    unfold captureChildren
    exact .ok _
  | cons child rest =>
    unfold captureChildren
    refine (noBug_visits _ _ _).bind fun visits _ => ?_
    refine (noBug_captureEach _ (fun v => ?_) visits []).bind fun c _ => ?_
    · exact noBug_captureAt _ v.1 v.2 child.2
    · refine (noBug_mergeAt _ _ _).bind fun acc' _ => ?_
      exact noBug_captureChildren path j acc' rest

end

theorem noBug_capture (t : Trie) (j : Json) : NoBug (t.capture j) := noBug_captureAt [] none j t

end Trie

namespace Stmt

theorem noBug_loopRows (st : Store) (vars : Nat) (iterable : Value) :
    NoBug (loopRows st vars iterable) := by
  unfold loopRows
  split
  · exact nofun
  · split <;> exact nofun

theorem noBug_shellSlots (targets : ShellTargets) : NoBug (shellSlots targets) := by
  cases targets with
  | positional names =>
    unfold shellSlots
    dsimp only
    split <;> exact nofun
  | named slots => exact .ok _

end Stmt

namespace Contract

theorem noBug_checkCount (k : Contract) (name : String) (n : Nat) :
    NoBug (k.checkCount name n) := by
  obtain ⟨minArgs, maxArgs, argTypes, named, returns⟩ := k
  unfold checkCount
  cases maxArgs with
  | none =>
    dsimp only
    split <;> exact nofun
  | some most =>
    dsimp only
    split
    · exact nofun
    · split <;> exact nofun

theorem noBug_checkKinds (name : String) (vs : List Value) (ts : List TypeSet) (i : Nat) :
    NoBug (checkKinds name i vs ts) := by
  induction vs generalizing ts i with
  | nil => exact nofun
  | cons v vs ih =>
    cases ts with
    | nil => exact nofun
    | cons t ts =>
      unfold checkKinds
      split
      · exact ih ts (i + 1)
      · exact nofun

theorem noBug_check (k : Contract) (name : String) (c : CallArgs) : NoBug (k.check name c) := by
  refine (noBug_checkCount k name _).bind fun _ _ => ?_
  refine (noBug_checkKinds name _ _ 1).bind fun _ _ => ?_
  refine .bind (.forM fun arg _ => ?_) fun _ _ => ?_
  · unfold checkNamed
    split
    · exact nofun
    · split <;> exact nofun
  · unfold checkResults
    split
    · exact nofun
    · split
      · exact nofun
      · split <;> exact nofun

end Contract

/-! ## Computations on the store -/

namespace StoreM

/-- A computation on the store that touches no scope and never ends with a bug. -/
structure Steady (x : StoreM α) : Prop where
  ok {st : Store} {a : α} {st' : Store} : x st = .ok a st' → st'.scopes = st.scopes
  error {st : Store} {f : Fault} {st' : Store} :
    x st = .error f st' → st'.scopes = st.scopes ∧ ∀ message, f ≠ .bug message

namespace Steady

theorem of_pure (a : α) : Steady (pure a : StoreM α) where
  ok h := by
    obtain ⟨-, rfl⟩ := EStateM.Result.ok.inj h
    rfl
  error h := by cases h

theorem of_get : Steady (get : StoreM Store) where
  ok h := by
    obtain ⟨-, rfl⟩ := EStateM.Result.ok.inj h
    rfl
  error h := by cases h

theorem of_modifyGet {f : Store → α × Store} (hf : ∀ st, (f st).2.scopes = st.scopes) :
    Steady (modifyGet f : StoreM α) where
  ok h := by
    obtain ⟨-, rfl⟩ := EStateM.Result.ok.inj h
    exact hf _
  error h := by cases h

theorem ofExcept {r : Except Fault α} (hr : NoBug r) : Steady (StoreM.ofExcept r) := by
  cases r with
  | ok a => exact of_pure a
  | error f =>
    refine ⟨(fun h => nomatch h), fun h => ?_⟩
    obtain ⟨rfl, rfl⟩ := EStateM.Result.error.inj h
    exact ⟨rfl, fun message hf => hr message (congrArg _ hf)⟩

theorem bind {x : StoreM α} {f : α → StoreM β} (hx : Steady x) (hf : ∀ a, Steady (f a)) :
    Steady (x >>= f) where
  ok {st b st'} h := by
    change EStateM.bind x f st = _ at h
    unfold EStateM.bind at h
    cases hxa : x st with
    | ok a st₁ =>
      rw [hxa] at h
      exact ((hf a).ok h).trans (hx.ok hxa)
    | error e st₁ =>
      rw [hxa] at h
      cases h
  error {st e st'} h := by
    change EStateM.bind x f st = _ at h
    unfold EStateM.bind at h
    cases hxa : x st with
    | ok a st₁ =>
      rw [hxa] at h
      obtain ⟨hkept, hbug⟩ := (hf a).error h
      exact ⟨hkept.trans (hx.ok hxa), hbug⟩
    | error e' st₁ =>
      rw [hxa] at h
      obtain ⟨rfl, rfl⟩ := EStateM.Result.error.inj h
      exact hx.error hxa

end Steady
end StoreM

namespace Store

open StoreM

mutual

theorem scopes_ofJson (st : Store) (j : Json) : (st.ofJson j).2.scopes = st.scopes := by
  cases j with
  | null | bool | int | float | str => rfl
  | arr items =>
    unfold ofJson
    exact scopes_ofJsonItems st items
  | obj members =>
    unfold ofJson
    exact scopes_ofJsonMembers st members

theorem scopes_ofJsonItems (st : Store) (items : List Json) :
    (st.ofJsonItems items).2.scopes = st.scopes := by
  cases items with
  | nil => rfl
  | cons j rest =>
    unfold ofJsonItems
    exact (scopes_ofJsonItems _ rest).trans (scopes_ofJson st j)

theorem scopes_ofJsonMembers (st : Store) (members : List (String × Json)) :
    (st.ofJsonMembers members).2.scopes = st.scopes := by
  cases members with
  | nil => rfl
  | cons member rest =>
    unfold ofJsonMembers
    exact (scopes_ofJsonMembers _ rest).trans (scopes_ofJson st member.2)

end

theorem steady_allocList (items : List Value) : Steady (allocList items) :=
  .of_modifyGet fun _ => rfl

theorem steady_insert (map : Nat) (key value : Value) : Steady (insert map key value) :=
  .bind (.ofExcept key.noBug_mapKey) fun _ => .of_modifyGet fun _ => rfl

theorem steady_slice (target : Value) (start stop : Option Int64) :
    Steady (slice target start stop) := by
  unfold slice
  split
  · exact .bind .of_get fun _ => steady_allocList _
  · exact .of_pure _
  · exact .ofExcept (r := .error _) nofun

theorem steady_setIndex (target i value : Value) : Steady (setIndex target i value) := by
  unfold setIndex
  split
  · refine .bind (.ofExcept i.noBug_requireInt) fun _ => .bind .of_get fun _ => ?_
    exact .bind (.ofExcept (noBug_resolveIndex _ _)) fun _ => .of_modifyGet fun _ => rfl
  · exact steady_insert _ _ _
  · exact .ofExcept (r := .error _) nofun

end Store

namespace Operator

open StoreM

theorem steady_add (a b : Value) : Steady (add a b) := by
  unfold add
  split
  · exact .of_pure _
  · exact .of_pure _
  · exact .bind .of_get fun _ => .of_pure _
  · exact .bind .of_get fun _ => .of_pure _
  · exact .bind .of_get fun _ => .of_pure _
  · exact .bind .of_get fun _ => .bind .of_get fun _ => Store.steady_allocList _
  · split
    · exact .of_pure _
    · exact .ofExcept (r := .error _) nofun

theorem steady_binary (op : BinaryOp) (a b : Value) : Steady (binary op a b) := by
  unfold binary
  split
  · exact steady_add a b
  all_goals first
    | exact .ofExcept (noBug_arithmetic _ a b)
    | exact .bind .of_get fun _ => .of_pure _
    | exact .bind .of_get fun _ => .bind (.ofExcept (noBug_occurs _ _ a b)) fun _ => .of_pure _
    | split
      · exact .of_pure _
      · exact .ofExcept (r := .error _) nofun

end Operator
end TableScript
