import TableScript.Value.Scope

/-!
# Names that scopes bind

A write goes to the nearest scope around that binds the name already, else to the scope it comes
from. So of all scopes there are, only this one can gain a name (`Store.Writes`), whatever the write
is: an assignment, a definition, a declared field or a removal.
-/

namespace TableScript

variable {α : Type}

/-- A written name is bound, and any other name as it was before. -/
theorem lookup_setBinding (name n : String) (value : α) (vars : List (String × α)) :
    (setBinding name value vars).lookup n = if n = name then some value else vars.lookup n := by
  induction vars with
  | nil =>
    rw [setBinding, List.lookup_cons]
    by_cases hn : n = name
    · simp [hn]
    · simp [beq_eq_false_iff_ne.2 hn, hn]
  | cons entry rest ih =>
    obtain ⟨k, w⟩ := entry
    unfold setBinding
    by_cases hk : k = name
    · subst hk
      rw [if_pos rfl, List.lookup_cons, List.lookup_cons]
      by_cases hn : n = k
      · simp [hn]
      · simp [beq_eq_false_iff_ne.2 hn, hn]
    · rw [if_neg hk, List.lookup_cons, List.lookup_cons, ih]
      by_cases hn : n = k
      · subst hn
        simp [hk]
      · simp [beq_eq_false_iff_ne.2 hn]

namespace Store

/-- A write from a scope: there are as many scopes as before, and no other scope binds a name that
it did not bind before. -/
structure Writes (s : Nat) (st st' : Store) : Prop where
  size : st'.scopes.size = st.scopes.size
  names {t : Nat} {n : String} : t ≠ s → st'.binds t n → st.binds t n

variable {s : Nat} {st st' st'' : Store}

theorem scopeAt_eq_of_scopes_eq (h : st'.scopes = st.scopes) (t : Nat) :
    st'.scopeAt t = st.scopeAt t := by
  unfold scopeAt
  rw [h]

theorem binds_eq_of_scopes_eq (h : st'.scopes = st.scopes) (t : Nat) (n : String) :
    st'.binds t n = st.binds t n := by
  unfold binds binding?
  rw [scopeAt_eq_of_scopes_eq h]

theorem Writes.of_scopes_eq (h : st'.scopes = st.scopes) : Writes s st st' where
  size := congrArg Array.size h
  names _ hn := binds_eq_of_scopes_eq h _ _ ▸ hn

theorem Writes.trans (h : Writes s st st') (h' : Writes s st' st'') : Writes s st st'' where
  size := h'.size.trans h.size
  names ht hn := h.names ht (h'.names ht hn)

/-! ## Changing one scope -/

theorem size_modifyScope (st : Store) (t : Nat) (f : Scope → Scope) :
    (st.modifyScope t f).scopes.size = st.scopes.size :=
  Array.size_modify

theorem scopeAt_modifyScope_of_ne (st : Store) {t t' : Nat} (h : t' ≠ t) (f : Scope → Scope) :
    (st.modifyScope t f).scopeAt t' = st.scopeAt t' := by
  simp [scopeAt, modifyScope, Array.getD_eq_getD_getElem?, Array.getElem?_modify, Ne.symm h]

/-- A changed scope; a scope that there is not stays empty. -/
theorem scopeAt_modifyScope (st : Store) (t : Nat) (f : Scope → Scope) :
    (st.modifyScope t f).scopeAt t = f (st.scopeAt t) ∨
      (st.modifyScope t f).scopeAt t = st.scopeAt t := by
  by_cases ht : t < st.scopes.size
  · left
    simp only [scopeAt, modifyScope, Array.getD_eq_getD_getElem?, Array.getElem?_modify, if_true,
      Array.getElem?_eq_getElem ht, Option.map_some, Option.getD_some]
  · right
    simp [scopeAt, modifyScope, Array.getD_eq_getD_getElem?, ht]

/-- A change of one scope that binds no name anew is a write from anywhere. -/
theorem writes_modifyScope {t : Nat} {f : Scope → Scope}
    (hf : ∀ {n}, ((f (st.scopeAt t)).vars.lookup n).isSome →
      t = s ∨ ((st.scopeAt t).vars.lookup n).isSome) :
    Writes s st (st.modifyScope t f) where
  size := size_modifyScope st t f
  names {t' n} ht hn := by
    unfold binds binding? at hn ⊢
    by_cases h : t' = t
    · subst h
      obtain heq | heq := scopeAt_modifyScope st t' f
      · rw [heq] at hn
        exact (hf hn).resolve_left ht
      · rwa [heq] at hn
    · rwa [scopeAt_modifyScope_of_ne st h] at hn

/-- The scope that a write goes to binds the name already, or is the one that the write is from. -/
theorem owner_eq_or_binds (st : Store) (s : Nat) (name : String) (outward : Bool) :
    st.owner s name outward = s ∨ st.binds (st.owner s name outward) name := by
  unfold owner
  split
  · cases hfind : (st.chain s).find? fun t => st.binds t name with
    | none => exact .inl rfl
    | some t =>
      have hbinds := List.find?_some hfind
      exact .inr hbinds
  · exact .inl rfl

/-! ## Writes -/

theorem writes_define (st : Store) (s : Nat) (name : String) (v : Value) :
    Writes s st (st.define s name v) :=
  writes_modifyScope fun _ => .inl rfl

/-- A function is made and bound. -/
theorem writes_newClosure (st : Store) (s : Nat) (name : String) (c : Closure) :
    Writes s st ((st.newClosure c).2.define s name (st.newClosure c).1) := by
  have hmade : Writes s st (st.newClosure c).2 := .of_scopes_eq rfl
  exact hmade.trans (writes_define _ s name _)

theorem writes_assign (st : Store) (s : Nat) (name : String) (v : Value) (outward : Bool) :
    Writes s st (st.assign s name v outward) := by
  refine writes_modifyScope fun {n} hn => ?_
  obtain hown | hbinds := st.owner_eq_or_binds s name outward
  · exact .inl hown
  · right
    rw [lookup_setBinding] at hn
    by_cases hname : n = name
    · subst hname
      exact hbinds
    · rwa [if_neg hname] at hn

theorem lookup_filter_ne (name n : String) (vars : List (String × α)) :
    (vars.filter (·.1 ≠ name)).lookup n = if n = name then none else vars.lookup n := by
  induction vars with
  | nil => simp
  | cons entry rest ih =>
    obtain ⟨k, w⟩ := entry
    rw [List.filter_cons, List.lookup_cons]
    by_cases hk : k = name
    · subst hk
      rw [if_neg (by simp), ih]
      by_cases hn : n = k
      · simp [hn]
      · simp [hn, beq_eq_false_iff_ne.2 hn]
    · rw [if_pos (by simpa using hk), List.lookup_cons, ih]
      by_cases hn : n = k
      · subst hn
        simp [hk]
      · simp [beq_eq_false_iff_ne.2 hn]

theorem writes_unset (st : Store) (s : Nat) (name : String) (outward : Bool) :
    Writes s st (st.unset s name outward).2 := by
  refine writes_modifyScope fun hn => .inr ?_
  rw [lookup_filter_ne] at hn
  split at hn
  · cases hn
  · exact hn

theorem writes_defineField (st : Store) (s : Nat) (name : String) (path : Path) :
    Writes s st (st.defineField s name path) := by
  unfold defineField
  extract_lets st₁
  have hfield : Writes s st st₁ := writes_modifyScope .inr
  have hlist : Writes s st₁ (st₁.newList []).2 := .of_scopes_eq rfl
  exact hfield.trans (hlist.trans (writes_assign _ s name _ true))

/-! ## New scopes -/

/-- The store with a new scope inside another, and variables bound there. -/
def grown (st : Store) (parent : Nat) (vars : List (String × Value)) : Store :=
  vars.foldl (fun st' (name, v) => st'.define st.scopes.size name v) (st.newScope (some parent)).2

theorem writes_foldl_define (s : Nat) (vars : List (String × Value)) (st : Store) :
    Writes s st (vars.foldl (fun st (name, v) => st.define s name v) st) := by
  induction vars generalizing st with
  | nil => exact .of_scopes_eq rfl
  | cons var rest ih => exact (writes_define st s var.1 var.2).trans (ih _)

@[simp] theorem size_scopes_grown (st : Store) (parent : Nat) (vars : List (String × Value)) :
    (st.grown parent vars).scopes.size = st.scopes.size + 1 := by
  unfold grown
  rw [(writes_foldl_define _ vars _).size]
  simp [newScope]

/-- A new scope leaves the scopes there are alone. -/
theorem binds_of_binds_grown {parent t : Nat} {vars : List (String × Value)} {n : String}
    (ht : t < st.scopes.size) (h : (st.grown parent vars).binds t n) : st.binds t n := by
  have hpushed := (writes_foldl_define st.scopes.size vars _).names (Nat.ne_of_lt ht) h
  unfold binds binding? scopeAt newScope at hpushed
  unfold binds binding? scopeAt
  rw [Array.getD_eq_getD_getElem?] at hpushed ⊢
  rwa [Array.getElem?_push_lt ht, ← Array.getElem?_eq_getElem ht] at hpushed

end Store
end TableScript
