import Mathlib.Data.List.Nodup
import Mathlib.Data.List.Pairwise
import Mathlib.Data.List.Perm.Basic
import TableScript.Proofs.Capture.Trace

/-!
# The fields of a tree

`entries` lists the fields of a tree with their paths. Adding a field adds one entry
(`entries_insert`), so the tree of some fields has exactly these as its entries
(`entries_ofFields`).

The children of a node stand in the order of their steps (`Ordered`). So there is at most one child
for a step, and fields whose paths begin with the same step are below the same child. There is a
field below every child (`NoDeadEnds`).
-/

namespace TableScript

/-! ## The order of steps -/

namespace PathStep

/-- The key of a step that has one. -/
def label : PathStep → String
  | key name => name
  | _ => ""

/-- The index of a step that has one. -/
def number : PathStep → Int
  | index i => i.toInt
  | _ => 0

theorem compare_eq_lex : compare =
    compareLex (compareOn rank) (compareLex (compareOn label) (compareOn number)) := by
  funext s t
  cases s <;> cases t <;> simp [compare, compareLex, compareOn, rank, label, number] <;> rfl

instance : Std.TransCmp compare := by
  rw [compare_eq_lex]
  infer_instance

theorem eq_of_compare {s t : PathStep} (h : s.compare t = .eq) : s = t := by
  cases s <;> cases t <;> simp [compare, rank] at h
  case key.key => rw [h]
  case wildcard.wildcard => rfl
  case allElements.allElements => rfl
  case index.index => rw [Int64.toInt_inj.1 h]

end PathStep

namespace Trie

/-! ## Entries -/

/-- A field seen from the node above the one that its path is counted from. -/
def underStep (step : PathStep) (f : String × Path) : String × Path := (f.1, step :: f.2)

mutual

/-- The fields of a tree, with the paths that lead to them. -/
def entries : Trie → List (String × Path)
  | .node fields children => childEntries children ++ fields.map fun name => (name, [])

/-- The fields below the children of a node. -/
def childEntries : List (PathStep × Trie) → List (String × Path)
  | [] => []
  | (step, child) :: rest => (entries child).map (underStep step) ++ childEntries rest

end

theorem childEntries_eq (children : List (PathStep × Trie)) :
    childEntries children =
      children.flatMap fun child => child.2.entries.map (underStep child.1) := by
  induction children with
  | nil => rfl
  | cons child rest ih => rw [childEntries, ih, List.flatMap_cons]

@[simp] theorem childEntries_append (as bs : List (PathStep × Trie)) :
    childEntries (as ++ bs) = childEntries as ++ childEntries bs := by
  simp [childEntries_eq]

theorem mem_childEntries {children : List (PathStep × Trie)} {name : String} {step : PathStep}
    {p : Path} : (name, step :: p) ∈ childEntries children ↔
      ∃ child, (step, child) ∈ children ∧ (name, p) ∈ child.entries := by
  rw [childEntries_eq, List.mem_flatMap]
  constructor
  · rintro ⟨⟨s, child⟩, hchild, hmem⟩
    obtain ⟨⟨n, r⟩, he, heq⟩ := List.mem_map.1 hmem
    obtain ⟨rfl, hsr⟩ := Prod.mk.inj heq
    obtain ⟨rfl, rfl⟩ := List.cons.inj hsr
    exact ⟨child, hchild, he⟩
  · rintro ⟨child, hchild, he⟩
    exact ⟨_, hchild, List.mem_map.2 ⟨_, he, rfl⟩⟩

theorem map_fst_underStep (step : PathStep) (fields : List (String × Path)) :
    (fields.map (underStep step)).map (·.1) = fields.map (·.1) := by
  rw [List.map_map]
  rfl

theorem names_childEntries (children : List (PathStep × Trie)) :
    (childEntries children).map (·.1) =
      children.flatMap fun child => child.2.entries.map (·.1) := by
  rw [childEntries_eq, List.map_flatMap]
  simp only [map_fst_underStep]

theorem nodup_of_mem_children {children : List (PathStep × Trie)}
    (hn : ((childEntries children).map (·.1)).Nodup) {child : PathStep × Trie}
    (h : child ∈ children) : (child.2.entries.map (·.1)).Nodup := by
  rw [names_childEntries] at hn
  exact (List.nodup_flatMap.1 hn).1 child h

/-- Different children share no name when all names are different. -/
theorem not_mem_of_other_child {children : List (PathStep × Trie)}
    (hn : ((childEntries children).map (·.1)).Nodup) {a b : PathStep × Trie} (ha : a ∈ children)
    (hb : b ∈ children) (hab : a.1 ≠ b.1) {name : String} (h : name ∈ a.2.entries.map (·.1)) :
    name ∉ b.2.entries.map (·.1) := by
  rw [names_childEntries] at hn
  have hsymm : Std.Symm (Function.onFun List.Disjoint
      fun child : PathStep × Trie => child.2.entries.map (·.1)) := ⟨fun _ _ h _ hb ha => h ha hb⟩
  have hdisj := (List.nodup_flatMap.1 hn).2.forall ha hb (fun e => hab (congrArg Prod.fst e))
  exact fun h' => hdisj h h'

/-- What holds of a node when it holds of its children holds of every tree. -/
theorem induct {motive : Trie → Prop}
    (node : ∀ fields children, (∀ child ∈ children, motive child.2) →
      motive (.node fields children)) (t : Trie) : motive t :=
  @Trie.rec motive (fun children => ∀ child ∈ children, motive child.2)
    (fun child => motive child.2) node (by simp)
    (fun _ _ hchild hrest => List.forall_mem_cons.2 ⟨hchild, hrest⟩) (fun _ _ h => h) t

theorem entries_single (name : String) (p : Path) : (single name p).entries = [(name, p)] := by
  induction p with
  | nil => rfl
  | cons step p ih => simp [single, entries, childEntries, ih, underStep]

mutual

theorem entries_insert (name : String) :
    ∀ (p : Path) (t : Trie), (t.insert name p).entries.Perm ((name, p) :: t.entries)
  | [], .node fields children => by
    rw [insert, entries, entries, List.map_append, ← List.append_assoc]
    exact List.perm_append_singleton _ _
  | step :: p, .node fields children => by
    rw [insert, entries, entries, ← List.cons_append]
    exact (childEntries_insertChild name step p children).append_right _

theorem childEntries_insertChild (name : String) (step : PathStep) (p : Path) :
    ∀ children : List (PathStep × Trie), (childEntries (insertChild name step p children)).Perm
      ((name, step :: p) :: childEntries children)
  | [] => by
    simp only [insertChild, childEntries, entries_single]
    exact List.Perm.refl _
  | (s, child) :: rest => by
    rw [insertChild]
    cases hc : step.compare s with
    | lt =>
      simp only [childEntries, entries_single]
      exact List.Perm.refl _
    | eq =>
      obtain rfl := PathStep.eq_of_compare hc
      simp only [childEntries]
      rw [← List.cons_append]
      exact ((entries_insert name p child).map (underStep step)).append_right _
    | gt =>
      simp only [childEntries]
      exact ((childEntries_insertChild name step p rest).append_left _).trans List.perm_middle

end

/-- **The entries of a tree are its fields.** -/
theorem entries_ofFields (fields : List (String × Path)) :
    (ofFields fields).entries.Perm fields := by
  have hfold : ∀ (fields : List (String × Path)) (t : Trie),
      (fields.foldl (fun t f => t.insert f.1 f.2) t).entries.Perm
        (t.entries ++ fields) := by
    intro fields
    induction fields with
    | nil => intro t; simp
    | cons f fields ih =>
      intro t
      refine (ih _).trans ?_
      refine ((entries_insert f.1 f.2 t).append_right fields).trans ?_
      exact List.perm_middle.symm
  exact hfold fields empty

/-! ## Children in order -/

/-- The children come after a step. -/
def After (step : PathStep) (children : List (PathStep × Trie)) : Prop :=
  ∀ child ∈ children, step.compare child.1 = .lt

mutual

/-- The children of every node stand in the order of their steps. -/
def Ordered : Trie → Prop
  | .node _ children => OrderedChildren children

/-- Children in the order of their steps, each with its own children in order. -/
def OrderedChildren : List (PathStep × Trie) → Prop
  | [] => True
  | (step, child) :: rest => Ordered child ∧ After step rest ∧ OrderedChildren rest

end

theorem ordered_single (name : String) (p : Path) : (single name p).Ordered := by
  induction p with
  | nil => trivial
  | cons step p ih => exact ⟨ih, by simp [After], trivial⟩

theorem after_insertChild {s step : PathStep} {name : String} {p : Path}
    (hs : s.compare step = .lt) {children : List (PathStep × Trie)} (h : After s children) :
    After s (insertChild name step p children) := by
  induction children with
  | nil => simpa [After, insertChild] using hs
  | cons child rest ih =>
    obtain ⟨t, c⟩ := child
    obtain ⟨ht, hrest⟩ := List.forall_mem_cons.1 h
    rw [insertChild]
    cases hc : step.compare t with
    | lt => exact List.forall_mem_cons.2 ⟨hs, h⟩
    | eq => exact List.forall_mem_cons.2 ⟨ht, hrest⟩
    | gt => exact List.forall_mem_cons.2 ⟨ht, ih hrest⟩

mutual

theorem Ordered.insert (name : String) :
    ∀ (p : Path) (t : Trie), t.Ordered → (t.insert name p).Ordered
  | [], .node _ _, h => h
  | step :: p, .node _ children, h => OrderedChildren.insertChild name step p children h

theorem OrderedChildren.insertChild (name : String) (step : PathStep) (p : Path) :
    ∀ children : List (PathStep × Trie), OrderedChildren children →
      OrderedChildren (Trie.insertChild name step p children)
  | [], _ => ⟨ordered_single name p, by simp [After], trivial⟩
  | (s, child) :: rest, ⟨hchild, hafter, hrest⟩ => by
    rw [Trie.insertChild]
    cases hc : step.compare s with
    | lt =>
      refine ⟨ordered_single name p, List.forall_mem_cons.2 ⟨hc, fun c h => ?_⟩,
        hchild, hafter, hrest⟩
      exact Std.TransCmp.lt_trans hc (hafter c h)
    | eq => exact ⟨Ordered.insert name p child hchild, hafter, hrest⟩
    | gt =>
      exact ⟨hchild, after_insertChild (Std.OrientedCmp.lt_of_gt hc) hafter,
        OrderedChildren.insertChild name step p rest hrest⟩

end

theorem ordered_ofFields (fields : List (String × Path)) : (ofFields fields).Ordered :=
  List.foldlRecOn fields _ trivial fun t ht f _ => Ordered.insert f.1 f.2 t ht

theorem OrderedChildren.ordered_of_mem {children : List (PathStep × Trie)}
    (h : OrderedChildren children) {child : PathStep × Trie} (hc : child ∈ children) :
    child.2.Ordered := by
  induction children with
  | nil => cases hc
  | cons first rest ih =>
    obtain ⟨hfirst, -, hrest⟩ := h
    rcases List.mem_cons.1 hc with rfl | hc
    · exact hfirst
    · exact ih hrest hc

/-- There is one child for a step. -/
theorem OrderedChildren.eq_of_mem {children : List (PathStep × Trie)} (h : OrderedChildren children)
    {step : PathStep} {a b : Trie} (ha : (step, a) ∈ children) (hb : (step, b) ∈ children) :
    a = b := by
  have hself : step.compare step = .eq := Std.ReflCmp.compare_self
  induction children with
  | nil => cases ha
  | cons first rest ih =>
    obtain ⟨-, hafter, hrest⟩ := h
    rcases List.mem_cons.1 ha with ha' | ha' <;> rcases List.mem_cons.1 hb with hb' | hb'
    · exact (Prod.mk.inj (ha'.trans hb'.symm)).2
    · subst ha'
      have hlt : step.compare step = .lt := hafter (step, b) hb'
      rw [hself] at hlt
      cases hlt
    · subst hb'
      have hlt : step.compare step = .lt := hafter (step, a) ha'
      rw [hself] at hlt
      cases hlt
    · exact ih hrest ha' hb'

/-! ## Children lead to fields -/

mutual

/-- There is a field below every child of every node. -/
def NoDeadEnds : Trie → Prop
  | .node _ children => NoDeadEndsBelow children

/-- There is a field below each of these children and below every child further down. -/
def NoDeadEndsBelow : List (PathStep × Trie) → Prop
  | [] => True
  | (_, child) :: rest => child.entries ≠ [] ∧ NoDeadEnds child ∧ NoDeadEndsBelow rest

end

theorem entries_single_ne_nil (name : String) (p : Path) : (single name p).entries ≠ [] := by
  rw [entries_single]
  exact List.cons_ne_nil _ _

theorem entries_insert_ne_nil (name : String) (p : Path) (t : Trie) :
    (t.insert name p).entries ≠ [] := by
  intro h
  have hperm := entries_insert name p t
  rw [h] at hperm
  exact List.cons_ne_nil _ _ hperm.symm.eq_nil

theorem noDeadEnds_single (name : String) (p : Path) : (single name p).NoDeadEnds := by
  induction p with
  | nil => trivial
  | cons step p ih => exact ⟨entries_single_ne_nil name p, ih, trivial⟩

mutual

theorem NoDeadEnds.insert (name : String) :
    ∀ (p : Path) (t : Trie), t.NoDeadEnds → (t.insert name p).NoDeadEnds
  | [], .node _ _, h => h
  | step :: p, .node _ children, h => NoDeadEndsBelow.insertChild name step p children h

theorem NoDeadEndsBelow.insertChild (name : String) (step : PathStep) (p : Path) :
    ∀ children : List (PathStep × Trie), NoDeadEndsBelow children →
      NoDeadEndsBelow (Trie.insertChild name step p children)
  | [], _ => ⟨entries_single_ne_nil name p, noDeadEnds_single name p, trivial⟩
  | (s, child) :: rest, ⟨hfield, hchild, hrest⟩ => by
    rw [Trie.insertChild]
    cases step.compare s with
    | lt =>
      exact ⟨entries_single_ne_nil name p, noDeadEnds_single name p, hfield, hchild, hrest⟩
    | eq => exact ⟨entries_insert_ne_nil name p child, NoDeadEnds.insert name p child hchild, hrest⟩
    | gt => exact ⟨hfield, hchild, NoDeadEndsBelow.insertChild name step p rest hrest⟩

end

theorem noDeadEnds_ofFields (fields : List (String × Path)) : (ofFields fields).NoDeadEnds :=
  List.foldlRecOn fields _ trivial fun t ht f _ => NoDeadEnds.insert f.1 f.2 t ht

theorem NoDeadEndsBelow.of_mem {children : List (PathStep × Trie)} (h : NoDeadEndsBelow children)
    {child : PathStep × Trie} (hc : child ∈ children) :
    child.2.entries ≠ [] ∧ child.2.NoDeadEnds := by
  induction children with
  | nil => cases hc
  | cons first rest ih =>
    obtain ⟨hfield, hfirst, hrest⟩ := h
    rcases List.mem_cons.1 hc with rfl | hc
    · exact ⟨hfield, hfirst⟩
    · exact ih hrest hc

end Trie
end TableScript
