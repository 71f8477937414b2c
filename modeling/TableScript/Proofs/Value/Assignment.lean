import Mathlib.Tactic.ByContra
import Mathlib.Tactic.SplitIfs
import TableScript.Proofs.Value.Names

/-!
# What an assignment changes

An assignment binds a name in one scope, the `owner`. Scopes stay where they are and keep their
field paths (`SameOutline`), every other binding stays (`binding?_assign`), and the name and all
others are owned by the scopes that owned them before (`owner_assign`).
-/

namespace TableScript.Store

/-! ## The outline of scopes -/

/-- The same scopes, in the same places and with the same field paths; their variables may
differ. -/
structure SameOutline (st st' : Store) : Prop where
  size : st'.scopes.size = st.scopes.size
  parent (t : Nat) : (st'.scopeAt t).parent = (st.scopeAt t).parent
  fields (t : Nat) : (st'.scopeAt t).fields = (st.scopeAt t).fields

variable {st st' st'' : Store} {s t : Nat}

theorem SameOutline.trans (h : SameOutline st st') (h' : SameOutline st' st'') :
    SameOutline st st'' where
  size := h'.size.trans h.size
  parent t := (h'.parent t).trans (h.parent t)
  fields t := (h'.fields t).trans (h.fields t)

theorem SameOutline.of_scopes_eq (h : st'.scopes = st.scopes) : SameOutline st st' where
  size := congrArg Array.size h
  parent t := congrArg Scope.parent (scopeAt_eq_of_scopes_eq h t)
  fields t := congrArg Scope.fields (scopeAt_eq_of_scopes_eq h t)

/-- What a change of scopes keeps, it keeps of the scope that is changed. -/
theorem keeps_modifyScope {α : Type} (view : Scope → α) (st : Store) (s t : Nat)
    {f : Scope → Scope} (hf : ∀ scope, view (f scope) = view scope) :
    view ((st.modifyScope s f).scopeAt t) = view (st.scopeAt t) := by
  by_cases ht : t = s
  · subst ht
    obtain h | h := scopeAt_modifyScope st t f
    · rw [h, hf]
    · rw [h]
  · rw [scopeAt_modifyScope_of_ne st ht]

/-- A change of a scope's variables. -/
theorem sameOutline_modifyVars (st : Store) (s : Nat)
    (f : List (String × Value) → List (String × Value)) :
    SameOutline st (st.modifyScope s fun scope => { scope with vars := f scope.vars }) where
  size := size_modifyScope _ _ _
  parent t := keeps_modifyScope Scope.parent st s t fun _ => rfl
  fields t := keeps_modifyScope Scope.fields st s t fun _ => rfl

theorem sameOutline_define (st : Store) (s : Nat) (name : String) (v : Value) :
    SameOutline st (st.define s name v) :=
  sameOutline_modifyVars st s (setBinding name v)

theorem SameOutline.chain_eq (h : SameOutline st st') (s : Nat) : st'.chain s = st.chain s := by
  fun_induction st.chain s with
  | case1 s p hparent hp ih =>
    rw [chain.eq_def, h.parent, hparent]
    simp only [hp, dif_pos, ih]
  | case2 s p hparent hp =>
    rw [chain.eq_def, h.parent, hparent]
    simp only [hp, dif_neg, not_false_iff]
  | case3 s hparent => rw [chain.eq_def, h.parent, hparent]

/-! ## Owners -/

/-- A chain starts with its scope. -/
theorem chain_eq_cons (st : Store) (s : Nat) : ∃ rest, st.chain s = s :: rest := by
  fun_cases st.chain s <;> exact ⟨_, rfl⟩

/-- The scopes around a scope were made before it. -/
theorem le_of_mem_chain (h : t ∈ st.chain s) : t ≤ s := by
  fun_induction st.chain s with
  | case1 s p _ hp ih =>
    rcases List.mem_cons.1 h with rfl | h
    · exact Nat.le_refl _
    · exact Nat.le_trans (ih h) (Nat.le_of_lt hp)
  | case2 s => exact Nat.le_of_eq (List.mem_singleton.1 h)
  | case3 s => exact Nat.le_of_eq (List.mem_singleton.1 h)

/-- A name seen from a scope that is not there has no path. -/
theorem lt_size_of_lookupField? {name : String} {path : Path}
    (h : st.lookupField? s name = some path) : s < st.scopes.size := by
  by_contra hs
  have hempty : st.scopeAt s = {} := by
    simp [scopeAt, Array.getD_eq_getD_getElem?, hs]
  have hchain : st.chain s = [s] := by
    rw [chain.eq_def, hempty]
  rw [lookupField?, hchain, List.findSome?_singleton, hempty] at h
  cases h

theorem owner_lt (hs : s < st.scopes.size) (name : String) (outward : Bool) :
    st.owner s name outward < st.scopes.size := by
  unfold owner
  split
  · cases hfind : (st.chain s).find? fun t => st.binds t name with
    | none => exact hs
    | some t => exact Nat.lt_of_le_of_lt (le_of_mem_chain (List.mem_of_find?_eq_some hfind)) hs
  · exact hs

/-! ## Bindings -/

theorem binding?_define (hs : s < st.scopes.size) (name : String) (v : Value) (t : Nat)
    (n : String) : (st.define s name v).binding? t n =
      if t = s ∧ n = name then some v else st.binding? t n := by
  unfold binding? define
  by_cases ht : t = s
  · subst ht
    simp only [scopeAt, modifyScope, Array.getD_eq_getD_getElem?, Array.getElem?_modify, if_true,
      Array.getElem?_eq_getElem hs, Option.map_some, Option.getD_some, lookup_setBinding, true_and]
  · rw [scopeAt_modifyScope_of_ne st ht, if_neg fun h => ht h.1]

/-- An assigned name is bound by its owner, and nothing else changes. -/
theorem binding?_assign (hs : s < st.scopes.size) (name : String) (v : Value) (t : Nat)
    (n : String) : (st.assign s name v true).binding? t n =
      if t = st.owner s name true ∧ n = name then some v else st.binding? t n :=
  binding?_define (owner_lt hs name true) name v t n

/-- An assignment moves no name to another owner. -/
theorem owner_assign (hs : s < st.scopes.size) (name : String) (v : Value) (n : String) :
    (st.assign s name v true).owner s n true = st.owner s n true := by
  have hchain : (st.assign s name v true).chain s = st.chain s :=
    (sameOutline_define st _ name v).chain_eq s
  have hbinds : ∀ t, (st.assign s name v true).binds t n ↔
      (t = st.owner s name true ∧ n = name) ∨ st.binds t n := by
    intro t
    unfold binds
    rw [binding?_assign hs]
    split_ifs with h <;> simp [h]
  by_cases hnew : n = name ∧ ¬ st.binds (st.owner s name true) name
  · -- a new name goes to `s`, with which the chain begins
    obtain ⟨rfl, hnew⟩ := hnew
    have hown : st.owner s n true = s := (st.owner_eq_or_binds s n true).resolve_right hnew
    obtain ⟨rest, hrest⟩ := st.chain_eq_cons s
    have hfirst : (st.assign s n v true).binds s n := (hbinds s).2 (.inl ⟨hown.symm, rfl⟩)
    rw [hown, owner, if_pos rfl, hchain, hrest, List.find?_cons, hfirst, Option.getD_some]
  · have hsame : (fun t => (st.assign s name v true).binds t n) = fun t => st.binds t n := by
      funext t
      rw [Bool.eq_iff_iff, hbinds t, or_iff_right_iff_imp]
      rintro ⟨rfl, rfl⟩
      by_contra hnot
      exact hnew ⟨rfl, hnot⟩
    rw [owner, owner, if_pos rfl, if_pos rfl, hchain, hsame]

end TableScript.Store
