import TableScript.Proofs.Value.Assignment

/-!
# Which binding a name stands for

Scopes form a forest: whatever is done with them, the scope around a scope was made before it
(`Forest.parent_lt`). So a name seen from a scope stands for one binding, the first one on the way
outward (`Resolves`), and reading, writing and removing the name all agree on it:

1. `lookup?` reads this binding (`lookup?_eq_some_iff`), and a write outward goes to it
   (`owner_of_resolves`);
2. a write or a removal changes one binding and nothing else (`Rebinds`);
3. a name that stood for another binding, and still does, has its value as before
   (`Rebinds.lookup?_eq`).

`scope_resolution` puts these together.
-/

namespace TableScript.Store

variable {st st' : Store} {s t u p : Nat} {name n : String}

/-! ## The forest -/

/-- A store whose scopes were made and changed by the operations on scopes. -/
inductive Forest : Store → Prop
  | empty {st : Store} : st.scopes = #[] → Forest st
  | root {st : Store} : Forest st → Forest (st.newScope none).2
  | child {st : Store} {s : Nat} : Forest st → s < st.scopes.size → Forest (st.newScope (some s)).2
  | define {st : Store} (s : Nat) (name : String) (v : Value) : Forest st →
    Forest (st.define s name v)
  | assign {st : Store} (s : Nat) (name : String) (v : Value) (outward : Bool) : Forest st →
    Forest (st.assign s name v outward)
  | unset {st : Store} (s : Nat) (name : String) (outward : Bool) : Forest st →
    Forest (st.unset s name outward).2
  | defineField {st : Store} (s : Nat) (name : String) (path : Path) : Forest st →
    Forest (st.defineField s name path)
  | clear {st : Store} (s : Nat) : Forest st → Forest (st.clearScope s)
  /-- Whatever else happens leaves the scopes alone. -/
  | aside {st st' : Store} : Forest st → st'.scopes = st.scopes → Forest st'

/-- The scope around a scope was made before it. -/
def ParentsFirst (st : Store) : Prop := ∀ s p, (st.scopeAt s).parent = some p → p < s

theorem ParentsFirst.of_parent (h : st.ParentsFirst)
    (hparent : ∀ t, (st'.scopeAt t).parent = (st.scopeAt t).parent) : st'.ParentsFirst := by
  intro s p hp
  rw [hparent] at hp
  exact h s p hp

theorem ParentsFirst.newScope (h : st.ParentsFirst) {parent : Option Nat}
    (hparent : ∀ p ∈ parent, p < st.scopes.size) : (st.newScope parent).2.ParentsFirst := by
  intro s p hp
  unfold scopeAt Store.newScope at hp
  rw [Array.getD_eq_getD_getElem?, Array.getElem?_push] at hp
  split at hp
  · next hs =>
    subst hs
    exact hparent p hp
  · rw [← Array.getD_eq_getD_getElem?] at hp
    exact h s p hp

theorem sameOutline_unset (st : Store) (s : Nat) (name : String) (outward : Bool) :
    SameOutline st (st.unset s name outward).2 :=
  sameOutline_modifyVars st _ (·.filter (·.1 ≠ name))

/-- **Scopes form a forest**, whatever is done with them. -/
theorem Forest.parentsFirst (h : Forest st) : st.ParentsFirst := by
  induction h with
  | @empty st hempty =>
    intro s p hp
    unfold scopeAt at hp
    rw [hempty] at hp
    cases hp
  | root _ ih => exact ih.newScope nofun
  | child _ hs ih =>
    refine ih.newScope fun p hp => ?_
    obtain rfl := Option.mem_some.1 hp
    exact hs
  | define s name v _ ih => exact ih.of_parent (sameOutline_define _ s name v).parent
  | assign s name v outward _ ih => exact ih.of_parent (sameOutline_define _ _ name v).parent
  | unset s name outward _ ih => exact ih.of_parent (sameOutline_unset _ s name outward).parent
  | defineField s name path _ ih =>
    unfold Store.defineField
    extract_lets st₁
    have hfield : st₁.ParentsFirst :=
      ih.of_parent fun t => keeps_modifyScope Scope.parent _ s t fun _ => rfl
    have hlist : (st₁.newList []).2.ParentsFirst := hfield.of_parent fun _ => rfl
    exact hlist.of_parent (sameOutline_define _ _ name _).parent
  | clear s _ ih => exact ih.of_parent fun t => keeps_modifyScope Scope.parent _ s t fun _ => rfl
  | aside _ hscopes ih =>
    exact ih.of_parent fun t => congrArg Scope.parent (scopeAt_eq_of_scopes_eq hscopes t)

/-! ## Resolution -/

/-- Seen from scope `s`, the name stands for its binding in scope `t`: the first scope that binds it
on the way from `s` outward. -/
inductive Resolves (st : Store) (name : String) : Nat → Nat → Prop
  | here {s : Nat} : st.binds s name → Resolves st name s s
  | outward {s p t : Nat} : ¬ st.binds s name → (st.scopeAt s).parent = some p →
    Resolves st name p t → Resolves st name s t

theorem Resolves.binds (h : st.Resolves name s t) : st.binds t name := by
  induction h with
  | here h => exact h
  | outward _ _ _ ih => exact ih

theorem Resolves.le (hst : st.ParentsFirst) (h : st.Resolves name s t) : t ≤ s := by
  induction h with
  | here => exact Nat.le_refl _
  | outward _ hparent _ ih =>
    have hlt := hst _ _ hparent
    omega

/-- Resolution looks at parents and at which scopes bind the name, at nothing else. -/
theorem Resolves.congr (hparent : ∀ u, (st'.scopeAt u).parent = (st.scopeAt u).parent)
    (hbinds : ∀ u, st'.binds u name ↔ st.binds u name) (h : st.Resolves name s t) :
    st'.Resolves name s t := by
  induction h with
  | here h => exact .here ((hbinds _).2 h)
  | outward h hp _ ih => exact .outward (mt (hbinds _).1 h) ((hparent _).trans hp) ih

theorem find?_chain_eq_some_iff (hst : st.ParentsFirst) :
    ((st.chain s).find? fun u => st.binds u name) = some t ↔ st.Resolves name s t := by
  fun_induction st.chain s with
  | case1 s p hparent hp ih =>
    rw [List.find?_cons]
    split
    · next hbinds =>
      constructor
      · intro h
        obtain rfl := Option.some.inj h
        exact .here hbinds
      · rintro (_ | ⟨hnot, _, _⟩)
        · rfl
        · exact absurd hbinds hnot
    · next hbinds =>
      rw [ih]
      constructor
      · exact .outward (by simp [hbinds]) hparent
      · rintro (hhere | ⟨_, hparent', h⟩)
        · simp [hbinds] at hhere
        · cases hparent.symm.trans hparent'
          exact h
  | case2 s p hparent hp => exact absurd (hst s p hparent) hp
  | case3 s hparent =>
    rw [List.find?_singleton]
    constructor
    · intro h
      obtain ⟨hbinds, rfl⟩ : st.binds s name = true ∧ s = t := by simpa using h
      exact .here hbinds
    · rintro (hhere | ⟨_, hparent', _⟩)
      · simp [hhere]
      · cases hparent.symm.trans hparent'

theorem owner_of_resolves (hst : st.ParentsFirst) (h : st.Resolves name s t) :
    st.owner s name true = t := by
  unfold owner
  rw [if_pos rfl, (find?_chain_eq_some_iff hst).2 h, Option.getD_some]

theorem owner_of_not_resolves (hst : st.ParentsFirst) (h : ∀ t, ¬ st.Resolves name s t) :
    st.owner s name true = s := by
  have hfind : ((st.chain s).find? fun u => st.binds u name) = none :=
    Option.eq_none_iff_forall_ne_some.2 fun t ht => h t ((find?_chain_eq_some_iff hst).1 ht)
  unfold owner
  rw [if_pos rfl, hfind, Option.getD_none]

/-! ## Looking names up -/

/-- A name is looked up here, then outward. -/
theorem lookup?_eq (hst : st.ParentsFirst) (s : Nat) (name : String) : st.lookup? s name =
    (st.binding? s name).or ((st.scopeAt s).parent.bind fun p => st.lookup? p name) := by
  unfold lookup?
  fun_cases st.chain s with
  | case1 p hparent hp =>
    rw [hparent, List.findSome?_cons, Option.bind_some]
    cases st.binding? s name <;> rfl
  | case2 p hparent hp => exact absurd (hst s p hparent) hp
  | case3 hparent =>
    rw [hparent, List.findSome?_singleton, Option.bind_none, Option.or_none]

theorem lookup?_of_resolves (hst : st.ParentsFirst) (h : st.Resolves name s t) :
    st.lookup? s name = st.binding? t name := by
  induction h with
  | @here s hbinds =>
    obtain ⟨w, hw⟩ := Option.isSome_iff_exists.1 hbinds
    rw [lookup?_eq hst, hw, Option.some_or]
  | @outward s p t hbinds hparent _ ih =>
    have hnone : st.binding? s name = none := Option.not_isSome_iff_eq_none.1 hbinds
    rw [lookup?_eq hst, hnone, Option.none_or, hparent, Option.bind_some, ih]

theorem exists_resolves (hst : st.ParentsFirst) (h : (st.lookup? s name).isSome) :
    ∃ t, st.Resolves name s t := by
  induction s using Nat.strongRecOn with
  | ind s ih =>
    by_cases hbinds : st.binds s name
    · exact ⟨s, .here hbinds⟩
    · have hnone : st.binding? s name = none := Option.not_isSome_iff_eq_none.1 hbinds
      rw [lookup?_eq hst, hnone, Option.none_or] at h
      cases hparent : (st.scopeAt s).parent with
      | none => simp [hparent] at h
      | some p =>
        rw [hparent, Option.bind_some] at h
        obtain ⟨t, ht⟩ := ih p (hst s p hparent) h
        exact ⟨t, .outward hbinds hparent ht⟩

/-- **A look-up reads the binding that the name stands for.** -/
theorem lookup?_eq_some_iff (hst : st.ParentsFirst) {w : Value} :
    st.lookup? s name = some w ↔ ∃ t, st.Resolves name s t ∧ st.binding? t name = some w := by
  constructor
  · intro h
    obtain ⟨t, ht⟩ := exists_resolves hst (Option.isSome_iff_exists.2 ⟨w, h⟩)
    exact ⟨t, ht, (lookup?_of_resolves hst ht).symm.trans h⟩
  · rintro ⟨t, ht, hw⟩
    exact (lookup?_of_resolves hst ht).trans hw

theorem not_resolves_of_lookup? (hst : st.ParentsFirst) (h : st.lookup? s name = none) (t : Nat) :
    ¬ st.Resolves name s t := by
  intro ht
  obtain ⟨w, hw⟩ := Option.isSome_iff_exists.1 ht.binds
  rw [lookup?_of_resolves hst ht, hw] at h
  cases h

/-! ## Changing one binding -/

/-- The second store binds the name in scope `t` to what is given, if anything, and is otherwise the
first one. -/
structure Rebinds (st st' : Store) (t : Nat) (name : String) (content : Option Value) : Prop where
  outline : SameOutline st st'
  binding (u : Nat) (n : String) :
    st'.binding? u n = if u = t ∧ n = name then content else st.binding? u n
  shared : st'.lists = st.lists ∧ st'.maps = st.maps ∧ st'.closures = st.closures

theorem rebinds_assign (hs : s < st.scopes.size) (name : String) (v : Value) (outward : Bool) :
    Rebinds st (st.assign s name v outward) (st.owner s name outward) name (some v) where
  outline := sameOutline_define st _ name v
  binding := binding?_define (owner_lt hs name outward) name v
  shared := ⟨rfl, rfl, rfl⟩

theorem binding?_unset (st : Store) (s : Nat) (name : String) (outward : Bool) (u : Nat)
    (n : String) : (st.unset s name outward).2.binding? u n =
      if u = st.owner s name outward ∧ n = name then none else st.binding? u n := by
  show ((st.modifyScope (st.owner s name outward) _).scopeAt u).vars.lookup n = _
  by_cases hu : u = st.owner s name outward
  · subst hu
    simp only [true_and]
    by_cases hs : st.owner s name outward < st.scopes.size
    · simp only [scopeAt, modifyScope, Array.getD_eq_getD_getElem?, Array.getElem?_modify, if_true,
        Array.getElem?_eq_getElem hs, Option.map_some, Option.getD_some, lookup_filter_ne,
        binding?]
    · simp [scopeAt, modifyScope, Array.getD_eq_getD_getElem?, hs, binding?]
  · rw [scopeAt_modifyScope_of_ne st hu, if_neg fun h => hu h.1]
    rfl

theorem rebinds_unset (st : Store) (s : Nat) (name : String) (outward : Bool) :
    Rebinds st (st.unset s name outward).2 (st.owner s name outward) name none where
  outline := sameOutline_unset st s name outward
  binding := binding?_unset st s name outward
  shared := ⟨rfl, rfl, rfl⟩

namespace Rebinds

variable {content : Option Value}

theorem parentsFirst (h : Rebinds st st' t name content) (hst : st.ParentsFirst) :
    st'.ParentsFirst :=
  hst.of_parent h.outline.parent

theorem binding?_self (h : Rebinds st st' t name content) : st'.binding? t name = content := by
  rw [h.binding, if_pos ⟨rfl, rfl⟩]

/-- **Names that stand for other bindings keep their values.** A name, seen from a scope, has the
value that it had unless it stood for the changed binding before or stands for it now. -/
theorem lookup?_eq (h : Rebinds st st' t name content) (hst : st.ParentsFirst)
    (hbefore : n = name → ¬ st.Resolves name u t) (hafter : n = name → ¬ st'.Resolves name u t) :
    st'.lookup? u n = st.lookup? u n := by
  induction u using Nat.strongRecOn with
  | ind u ih =>
    have hsame : st'.binding? u n = st.binding? u n := by
      rw [h.binding]
      split
      · next hchanged =>
        -- the name is bound neither before nor after, or it would stand for this binding
        obtain ⟨rfl, rfl⟩ := hchanged
        have hold : st.binding? u n = none :=
          Option.not_isSome_iff_eq_none.1 fun hb => hbefore rfl (.here hb)
        have hnew : st'.binding? u n = none :=
          Option.not_isSome_iff_eq_none.1 fun hb => hafter rfl (.here hb)
        rw [hold, ← hnew, h.binding?_self]
      · rfl
    rw [Store.lookup?_eq (h.parentsFirst hst), Store.lookup?_eq hst, hsame, h.outline.parent]
    cases hbinding : st.binding? u n with
    | some w => rfl
    | none =>
      cases hparent : (st.scopeAt u).parent with
      | none => rfl
      | some p =>
        rw [Option.none_or, Option.none_or, Option.bind_some, Option.bind_some]
        refine ih p (hst u p hparent) ?_ ?_
        · rintro rfl hp
          refine hbefore rfl (.outward ?_ hparent hp)
          simp [binds, hbinding]
        · rintro rfl hp
          refine hafter rfl (.outward ?_ ((h.outline.parent u).trans hparent) hp)
          simp [binds, hsame, hbinding]

/-- Where the name was bound before and still is, it stands for the same bindings as before. -/
theorem resolves_iff (h : Rebinds st st' t name content) (hold : st.binds t name)
    (hnew : content.isSome) : st'.Resolves name s u ↔ st.Resolves name s u := by
  have hbinds : ∀ u, st'.binds u name ↔ st.binds u name := by
    intro u
    unfold binds
    rw [h.binding]
    split
    · next hu => simp [hu.1, hnew, show (st.binding? t name).isSome from hold]
    · rfl
  constructor
  · exact .congr (fun u => (h.outline.parent u).symm) fun u => (hbinds u).symm
  · exact .congr h.outline.parent hbinds

end Rebinds

/-! ## Writing and removing -/

/-- A written name stands for the binding that was written. -/
theorem resolves_assign (hst : st.ParentsFirst) (hs : s < st.scopes.size) (name : String)
    (v : Value) (outward : Bool) :
    (st.assign s name v outward).Resolves name s (st.owner s name outward) := by
  have hrebinds := rebinds_assign hs name v outward
  have hbinds : (st.assign s name v outward).binds (st.owner s name outward) name := by
    rw [binds, hrebinds.binding?_self]
    rfl
  by_cases hfound : outward = true ∧ ∃ t, st.Resolves name s t
  · obtain ⟨rfl, t, ht⟩ := hfound
    rw [owner_of_resolves hst ht] at hrebinds ⊢
    exact (hrebinds.resolves_iff ht.binds rfl).2 ht
  · have howner : st.owner s name outward = s := by
      cases outward with
      | false => rfl
      | true => exact owner_of_not_resolves hst fun t ht => hfound ⟨rfl, t, ht⟩
    rw [howner] at hbinds ⊢
    exact .here hbinds

/-- Once the binding that a name stands for is removed, the name stands for the next one around. -/
theorem lookup?_unset (hst : st.ParentsFirst) (h : st.Resolves name s t)
    (hrebinds : Rebinds st st' t name none) :
    st'.lookup? s name = (st.scopeAt t).parent.bind fun p => st.lookup? p name := by
  have hst' := hrebinds.parentsFirst hst
  induction h with
  | @here t hbinds =>
    rw [lookup?_eq hst', hrebinds.binding?_self, Option.none_or, hrebinds.outline.parent]
    cases hparent : (st.scopeAt t).parent with
    | none => rfl
    | some p =>
      -- the scopes further out were made earlier, so the removed binding is not among them
      have hp := hst t p hparent
      rw [Option.bind_some, Option.bind_some]
      refine hrebinds.lookup?_eq hst (fun _ h => ?_) (fun _ h => ?_)
      · have := h.le hst
        omega
      · have := h.le hst'
        omega
  | @outward s p t hbinds hparent hp ih =>
    have hnone : st'.binding? s name = none := by
      rw [hrebinds.binding]
      split
      · rfl
      · exact Option.not_isSome_iff_eq_none.1 hbinds
    rw [lookup?_eq hst', hnone, Option.none_or, hrebinds.outline.parent, hparent, Option.bind_some]
    exact ih hrebinds

/-- What a write changes: the names that stood for the binding that was written, and if this one is
new, those that stand for it now. -/
theorem changed_of_assign (hst : st.ParentsFirst) (hs : s < st.scopes.size) {v : Value}
    {outward : Bool} (h : (st.assign s name v outward).lookup? u n ≠ st.lookup? u n) :
    n = name ∧ (st.Resolves name u (st.owner s name outward) ∨
      st.owner s name outward = s ∧ ¬ st.binds s name ∧
        (st.assign s name v outward).Resolves name u s) := by
  have hrebinds := rebinds_assign hs name v outward
  have hname : n = name := by
    by_contra hne
    exact h (hrebinds.lookup?_eq hst (fun hn => absurd hn hne) fun hn => absurd hn hne)
  refine ⟨hname, or_iff_not_imp_left.2 fun hbefore => ?_⟩
  have hafter : (st.assign s name v outward).Resolves name u (st.owner s name outward) := by
    by_contra hafter
    exact h (hrebinds.lookup?_eq hst (fun _ => hbefore) fun _ => hafter)
  have hnew : ¬ st.binds (st.owner s name outward) name := fun hold =>
    hbefore ((hrebinds.resolves_iff hold rfl).1 hafter)
  have howner := (st.owner_eq_or_binds s name outward).resolve_right hnew
  rw [howner] at hnew hafter
  exact ⟨howner, hnew, hafter⟩

/-- What a removal changes: the names that stood for the binding that was removed. -/
theorem changed_of_unset (hst : st.ParentsFirst) (hrebinds : Rebinds st st' t name none)
    (h : st'.lookup? u n ≠ st.lookup? u n) : n = name ∧ st.Resolves name u t := by
  have hafter : ¬ st'.Resolves name u t := by
    intro hu
    have hbinds := hu.binds
    rw [binds, hrebinds.binding?_self] at hbinds
    cases hbinds
  have hname : n = name := by
    by_contra hne
    exact h (hrebinds.lookup?_eq hst (fun hn => absurd hn hne) fun hn => absurd hn hne)
  refine ⟨hname, ?_⟩
  by_contra hbefore
  exact h (hrebinds.lookup?_eq hst (fun _ => hbefore) fun _ => hafter)

/-- **Scopes agree on what a name stands for.** In every forest of scopes, a look-up reads the
binding that the name stands for. A write binds the name in one scope and changes no other binding:
with `outward` the binding that the name stands for if it can be seen, else and otherwise that of
the scope it comes from; the name then has the value written. A removal outward removes the binding
that the name stands for and no other, after which the name has the value of the next one around; a
name that cannot be seen is not removed. Seen from any scope, only names that stood for the binding
in question change their values, and for a new binding those that stand for it now. -/
theorem scope_resolution (h : Forest st) (hs : s < st.scopes.size) (name : String) :
    (∀ u n w, st.lookup? u n = some w ↔ ∃ t, st.Resolves n u t ∧ st.binding? t n = some w) ∧
    (∀ v outward, ∃ t, Rebinds st (st.assign s name v outward) t name (some v) ∧
      (outward = true → (st.lookup? s name).isSome → st.Resolves name s t) ∧
      (outward = false ∨ st.lookup? s name = none → t = s) ∧
      (st.assign s name v outward).lookup? s name = some v ∧
      ∀ u n, (st.assign s name v outward).lookup? u n ≠ st.lookup? u n → n = name ∧
        (st.Resolves name u t ∨ t = s ∧ ¬ st.binds s name ∧
          (st.assign s name v outward).Resolves name u s)) ∧
    (∀ t, st.Resolves name s t → (st.unset s name true).1 = true ∧
      Rebinds st (st.unset s name true).2 t name none ∧
      (st.unset s name true).2.lookup? s name =
        ((st.scopeAt t).parent.bind fun p => st.lookup? p name) ∧
      ∀ u n, (st.unset s name true).2.lookup? u n ≠ st.lookup? u n →
        n = name ∧ st.Resolves name u t) ∧
    (st.lookup? s name = none → (st.unset s name true).1 = false ∧
      ∀ u n, (st.unset s name true).2.binding? u n = st.binding? u n) := by
  have hst := h.parentsFirst
  refine ⟨fun u n w => lookup?_eq_some_iff hst, fun v outward => ?_, fun t ht => ?_,
    fun hnone => ?_⟩
  · have hrebinds := rebinds_assign hs name v outward
    refine ⟨_, hrebinds, ?_, ?_, ?_, fun u n => changed_of_assign hst hs⟩
    · rintro rfl hvisible
      obtain ⟨t, ht⟩ := exists_resolves hst hvisible
      rwa [owner_of_resolves hst ht]
    · rintro (rfl | hnone)
      · rfl
      · cases outward with
        | false => rfl
        | true => exact owner_of_not_resolves hst (not_resolves_of_lookup? hst hnone)
    · have hresolves := resolves_assign hst hs name v outward
      rw [lookup?_of_resolves (hrebinds.parentsFirst hst) hresolves, hrebinds.binding?_self]
  · have hrebinds := rebinds_unset st s name true
    rw [owner_of_resolves hst ht] at hrebinds
    refine ⟨?_, hrebinds, lookup?_unset hst ht hrebinds, fun u n => changed_of_unset hst hrebinds⟩
    show st.binds (st.owner s name true) name = true
    rw [owner_of_resolves hst ht]
    exact ht.binds
  · have howner := owner_of_not_resolves hst (not_resolves_of_lookup? hst hnone)
    have hunbound : ¬ st.binds s name := fun hbinds =>
      not_resolves_of_lookup? hst hnone s (.here hbinds)
    refine ⟨?_, fun u n => ?_⟩
    · show st.binds (st.owner s name true) name = false
      rw [howner]
      exact Bool.eq_false_iff.2 hunbound
    · rw [binding?_unset, howner]
      split
      · next hself =>
        obtain ⟨rfl, rfl⟩ := hself
        exact (Option.not_isSome_iff_eq_none.1 hunbound).symm
      · rfl

/-- Three scopes inside each other, of which the outer two bind `x`. -/
def nested : Store :=
  ((((({} : Store).newScope none).2.define 0 "x" (.int 1)).newScope (some 0)).2.define 1 "x"
    (.int 2)).newScope (some 1) |>.2

theorem scope_resolution_nested : Forest nested ∧
    (nested.unset 2 "x" true).2.lookup? 2 "x" = some (.int 1) ∧
    (nested.assign 2 "x" (.int 3) false).lookup? 2 "x" = some (.int 3) := by
  have hforest : Forest nested := by
    refine .child (.define _ _ _ (.child (.define _ _ _ (.root (.empty rfl))) ?_)) ?_
    · decide
    · decide
  have hsize : 2 < nested.scopes.size := by decide
  have hresolves : nested.Resolves "x" 2 1 :=
    .outward (by decide) rfl (.here (by decide))
  obtain ⟨-, hassign, hunset, -⟩ := scope_resolution hforest hsize "x"
  obtain ⟨t, -, -, -, hassigned, -⟩ := hassign (.int 3) false
  refine ⟨hforest, ?_, hassigned⟩
  rw [(hunset 1 hresolves).2.2.1]
  exact lookup?_of_resolves hforest.parentsFirst (.here (by decide))

end TableScript.Store
