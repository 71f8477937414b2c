import TableScript.Proofs.Capture.Shape
import TableScript.Proofs.Eval.Alongside
import TableScript.Proofs.Json.Reordering
import TableScript.Proofs.Value.Failures

/-!
# Orders that a capture does not depend on

Fields are declared in some order, and the members of an object stand in some order. `capture_same`
says that neither shows in what is captured, but for the order of the columns themselves.

1. merging looks at the names and the heights of columns, and puts the same columns together in
   whatever order they stand (`SameColumns.merge`);
2. the children of a tree are sorted and lead to fields, so two trees with the same fields have the
   same children (`SameFields.children_same`);
3. a step leads from reordered documents to reordered documents (`visits_same`), and the walks over
   two such trees and documents stay in step (`captureAt_same`).
-/

namespace TableScript

namespace Capture

variable {α : Type} {R : α → α → Prop} {a a' b b' : Capture α}

/-! ## Columns in any order -/

/-- The same columns in any order, each with related cells from top to bottom. -/
structure SameColumns (R : α → α → Prop) (a b : Capture α) : Prop where
  rows : ∃ rows, a.Rectangular rows ∧ b.Rectangular rows
  column (name : String) : Option.Rel (List.Forall₂ R) (a.column? name) (b.column? name)

theorem sameColumns_nil : SameColumns R [] [] :=
  ⟨⟨1, Regular.nil.rectangular, Regular.nil.rectangular⟩, fun _ => .none⟩

namespace SameColumns

theorem mem_names_iff (h : SameColumns R a b) {n : String} : n ∈ a.names ↔ n ∈ b.names := by
  rw [← not_iff_not, ← column?_eq_none_iff, ← column?_eq_none_iff]
  have hcolumn := h.column n
  generalize a.column? n = x, b.column? n = y at hcolumn
  cases hcolumn <;> simp

theorem names_perm (h : SameColumns R a b) : a.names.Perm b.names := by
  obtain ⟨rows, ha, hb⟩ := h.rows
  exact (List.perm_ext_iff_of_nodup ha.nodup hb.nodup).2 fun _ => h.mem_names_iff

theorem length_eq (h : SameColumns R a b) : a.length = b.length := by
  simpa [names] using h.names_perm.length_eq

theorem isEmpty_eq (h : SameColumns R a b) : a.isEmpty = b.isEmpty := by
  rw [Bool.eq_iff_iff, List.isEmpty_iff_length_eq_zero, List.isEmpty_iff_length_eq_zero,
    h.length_eq]

theorem rowCount_eq (h : SameColumns R a b) : a.rowCount = b.rowCount := by
  obtain ⟨rows, ha, hb⟩ := h.rows
  by_cases hnil : a = []
  · have hb' : b = [] := by simpa [hnil] using h.length_eq.symm
    rw [hnil, hb']
  · have hb' : b ≠ [] := fun e => hnil (by simpa [e] using h.length_eq)
    rw [ha.rowCount_eq hnil, hb.rowCount_eq hb']

/-- How many columns are shared is a matter of names. -/
theorem sharedCount_eq (ha : SameColumns R a a') (hb : SameColumns R b b') :
    sharedCount a b = sharedCount a' b' := by
  have hnames : ∀ c d : Capture α,
      sharedCount c d = (c.names.filter fun n => decide (n ∈ d.names)).length := by
    intro c d
    have hcolumn : (fun col : String × List α => d.hasColumn col.1) =
        (fun n => decide (n ∈ d.names)) ∘ Prod.fst := by
      funext col
      rw [Function.comp, Bool.eq_iff_iff, decide_eq_true_iff]
      exact hasColumn_iff
    have hnames : c.names = c.map Prod.fst := rfl
    rw [sharedCount, hcolumn, hnames, List.filter_map, List.length_map]
  have hmem : (fun n => decide (n ∈ b.names)) = fun n => decide (n ∈ b'.names) := by
    funext n
    rw [decide_eq_decide]
    exact hb.mem_names_iff
  rw [hnames, hnames, hmem]
  exact (ha.names_perm.filter _).length_eq

theorem append (ha : SameColumns R a a') (hb : SameColumns R b b') {rows : Nat}
    (hra : a.Rectangular rows) (hra' : a'.Rectangular rows) (hrb : b.Rectangular rows)
    (hrb' : b'.Rectangular rows) (apart : ∀ n ∈ a.names, n ∉ b.names) :
    SameColumns R (a ++ b) (a' ++ b') where
  rows := by
    refine ⟨rows, hra.append hrb apart, hra'.append hrb' fun n hn hn' => ?_⟩
    exact apart n (ha.mem_names_iff.2 hn) (hb.mem_names_iff.2 hn')
  column name := by
    rw [column?_append, column?_append]
    have hcolumn := ha.column name
    generalize a.column? name = x, a'.column? name = y at hcolumn
    cases hcolumn with
    | some h => exact .some h
    | none => exact hb.column name

theorem stack (ha : SameColumns R a a') (hb : SameColumns R b b')
    (same : ∀ n, n ∈ a.names ↔ n ∈ b.names) : SameColumns R (a.stack b) (a'.stack b') where
  rows := by
    obtain ⟨rows, hra, hra'⟩ := ha.rows
    obtain ⟨rows', hrb, hrb'⟩ := hb.rows
    refine ⟨rows + rows', hra.stack hrb same, hra'.stack hrb' fun n => ?_⟩
    rw [← ha.mem_names_iff, same, hb.mem_names_iff]
  column name := by
    rw [column?_stack, column?_stack]
    have hcolumn := ha.column name
    have hbelow := hb.column name
    generalize a.column? name = x, a'.column? name = y, b.column? name = u,
      b'.column? name = v at hcolumn hbelow
    cases hcolumn with
    | none => exact .none
    | some h =>
      cases hbelow with
      | none => exact .some (by simpa using h)
      | some h' => exact .some (List.rel_append h h')

theorem broadcast [Inhabited α] (h : SameColumns R a b) (ha : a.Rectangular 1)
    (hb : b.Rectangular 1) (k : Nat) : SameColumns R (a.broadcast k) (b.broadcast k) where
  rows := ⟨k, ha.broadcast k, hb.broadcast k⟩
  column name := by
    have hbroadcast : ∀ c : Capture α, (c.broadcast k).column? name =
        (c.column? name).map fun cells => List.replicate k (cells.headD default) :=
      fun c => column?_mapColumns (fun cells => List.replicate k (cells.headD default)) c name
    rw [hbroadcast, hbroadcast]
    have hcolumn := h.column name
    have hheight : ∀ cells, a.column? name = some cells → cells.length = 1 :=
      fun cells hcells => ha.height _ (mem_of_column? hcells)
    generalize a.column? name = x, b.column? name = y at hcolumn hheight
    cases hcolumn with
    | none => exact .none
    | @some us vs huv =>
      -- a single cell on both sides
      obtain ⟨x, rfl⟩ := List.length_eq_one_iff.1 (hheight us rfl)
      obtain ⟨y, ys, hxy, hnil, rfl⟩ := List.forall₂_cons_left_iff.1 huv
      obtain rfl := List.forall₂_nil_left_iff.1 hnil
      exact .some (List.forall₂_iff_get.2 ⟨by simp, fun i _ _ => by simpa using hxy⟩)

/-- Merging captures with the same columns gives the same columns, or fails for the same reason. -/
theorem merge [Inhabited α] (ha : SameColumns R a a') (hb : SameColumns R b b') :
    SameResult (SameColumns R) (a.merge b) (a'.merge b') := by
  obtain ⟨rows, hra, hra'⟩ := ha.rows
  obtain ⟨rows', hrb, hrb'⟩ := hb.rows
  unfold Capture.merge
  rw [← ha.isEmpty_eq, ← hb.isEmpty_eq, ← ha.sharedCount_eq hb, ← ha.length_eq, ← hb.length_eq,
    ← ha.rowCount_eq, ← hb.rowCount_eq]
  split_ifs with hea heb hsame hshared hrows hone hone'
  · exact .ok hb
  · exact .ok ha
  · exact .ok (ha.stack hb
      (same_names_of_sharedCount hra.nodup hsame.1 (hsame.1.symm.trans hsame.2)))
  · exact .error _
  all_goals
    have hna : a ≠ [] := fun e => hea (List.isEmpty_iff.2 e)
    have hnb : b ≠ [] := fun e => heb (List.isEmpty_iff.2 e)
    have apart := apart_of_sharedCount (Nat.eq_zero_of_not_pos hshared)
    rw [hra.rowCount_eq hna, hrb.rowCount_eq hnb] at *
  · subst hrows
    exact .ok (ha.append hb hra hra' hrb hrb' apart)
  · subst hone
    refine .ok ((ha.broadcast hra hra' rows').append hb (hra.broadcast rows')
      (hra'.broadcast rows') hrb hrb' ?_)
    rwa [names_broadcast]
  · subst hone'
    refine .ok (ha.append (hb.broadcast hrb hrb' rows) hra hra' (hrb.broadcast rows)
      (hrb'.broadcast rows) ?_)
    rwa [names_broadcast]
  · exact .error _

end SameColumns
end Capture

namespace Trie

open Capture

/-! ## Trees with the same fields -/

/-- Trees in which the same fields have been gathered, in whatever order. -/
structure SameFields (t t' : Trie) : Prop where
  ordered : t.Ordered ∧ t'.Ordered
  noDeadEnds : t.NoDeadEnds ∧ t'.NoDeadEnds
  entries : t.entries.Perm t'.entries

/-- The name of a field that ends here. -/
def nameHere? : String × Path → Option String
  | (name, []) => some name
  | (_, _ :: _) => none

/-- A field that goes on with a step, seen from where the step leads. -/
def below? (step : PathStep) : String × Path → Option (String × Path)
  | (_, []) => none
  | (name, s :: p) => if s = step then some (name, p) else none

theorem filterMap_nameHere? (fields : List String) (children : List (PathStep × Trie)) :
    (entries (.node fields children)).filterMap nameHere? = fields := by
  have hbelow : (childEntries children).filterMap nameHere? = [] := by
    refine List.filterMap_eq_nil_iff.2 fun f hf => ?_
    rw [childEntries_eq] at hf
    obtain ⟨child, -, hf⟩ := List.mem_flatMap.1 hf
    obtain ⟨e, -, rfl⟩ := List.mem_map.1 hf
    rfl
  rw [entries, List.filterMap_append, hbelow, List.nil_append, List.filterMap_map]
  exact List.filterMap_some

/-- The fields below a step that none of these children is for. -/
theorem filterMap_below?_of_ne {step : PathStep} {children : List (PathStep × Trie)}
    (h : ∀ child ∈ children, child.1 ≠ step) :
    (childEntries children).filterMap (below? step) = [] := by
  refine List.filterMap_eq_nil_iff.2 fun f hf => ?_
  rw [childEntries_eq] at hf
  obtain ⟨child, hchild, hf⟩ := List.mem_flatMap.1 hf
  obtain ⟨e, -, rfl⟩ := List.mem_map.1 hf
  exact if_neg (h child hchild)

theorem compare_ne_lt_self (step : PathStep) : step.compare step ≠ .lt := by
  have hself : step.compare step = .eq := Std.ReflCmp.compare_self
  rw [hself]
  exact nofun

theorem filterMap_below?_self (step : PathStep) (fields : List (String × Path)) :
    (fields.map (underStep step)).filterMap (below? step) = fields := by
  have hself : below? step ∘ underStep step = some := funext fun f => if_pos rfl
  rw [List.filterMap_map, hself, List.filterMap_some]

/-- The fields below a child are those that go on with its step. -/
theorem filterMap_below? {children : List (PathStep × Trie)} (h : OrderedChildren children)
    {step : PathStep} {child : Trie} (hmem : (step, child) ∈ children) :
    (childEntries children).filterMap (below? step) = child.entries := by
  induction children with
  | nil => cases hmem
  | cons first rest ih =>
    obtain ⟨s, c⟩ := first
    obtain ⟨-, hafter, hrest⟩ := h
    rw [childEntries, List.filterMap_append]
    rcases List.mem_cons.1 hmem with heq | hmem
    · obtain ⟨rfl, rfl⟩ := Prod.mk.inj heq
      rw [filterMap_below?_self, filterMap_below?_of_ne, List.append_nil]
      intro other hother he
      exact compare_ne_lt_self step (he ▸ hafter other hother)
    · have hne : s ≠ step := by
        rintro rfl
        exact compare_ne_lt_self s (hafter _ hmem)
      have hfirst : ((entries c).map (underStep s)).filterMap (below? step) = [] := by
        have hnone : (childEntries [(s, c)]).filterMap (below? step) = [] :=
          filterMap_below?_of_ne (by simpa using hne)
        simpa [childEntries] using hnone
      rw [hfirst, List.nil_append, ih hrest hmem]

theorem pairwise_steps {children : List (PathStep × Trie)} (h : OrderedChildren children) :
    (children.map (·.1)).Pairwise fun s t => s.compare t = .lt := by
  induction children with
  | nil => exact .nil
  | cons first rest ih =>
    obtain ⟨s, c⟩ := first
    obtain ⟨-, hafter, hrest⟩ := h
    refine List.pairwise_cons.2 ⟨fun t ht => ?_, ih hrest⟩
    obtain ⟨child, hchild, rfl⟩ := List.mem_map.1 ht
    exact hafter child hchild

/-- There is a child for a step when there is a field whose path begins with it. -/
theorem mem_steps_iff (fields : List String) {children : List (PathStep × Trie)}
    (h : NoDeadEndsBelow children) {step : PathStep} :
    step ∈ children.map (·.1) ↔ ∃ name p, (name, step :: p) ∈ entries (.node fields children) := by
  rw [entries]
  constructor
  · intro hstep
    obtain ⟨⟨s, c⟩, hmem, rfl⟩ := List.mem_map.1 hstep
    obtain ⟨⟨name, p⟩, hf⟩ := List.exists_mem_of_ne_nil _ (h.of_mem hmem).1
    exact ⟨name, p, List.mem_append_left _ (mem_childEntries.2 ⟨c, hmem, hf⟩)⟩
  · rintro ⟨name, p, hf⟩
    rcases List.mem_append.1 hf with hf | hf
    · obtain ⟨c, hmem, -⟩ := mem_childEntries.1 hf
      exact List.mem_map_of_mem hmem
    · simp at hf

section Node

variable {fields fields' : List String} {children children' : List (PathStep × Trie)}

theorem SameFields.fields_perm (h : SameFields (.node fields children) (.node fields' children')) :
    fields.Perm fields' := by
  have hperm := h.entries.filterMap nameHere?
  rwa [filterMap_nameHere?, filterMap_nameHere?] at hperm

theorem SameFields.steps_eq (h : SameFields (.node fields children) (.node fields' children')) :
    children.map (·.1) = children'.map (·.1) := by
  have hsteps := pairwise_steps h.ordered.1
  have hsteps' := pairwise_steps h.ordered.2
  have hdistinct : ∀ {s t : PathStep}, s.compare t = .lt → s ≠ t := by
    rintro s t hlt rfl
    exact compare_ne_lt_self s hlt
  have hperm : (children.map (·.1)).Perm (children'.map (·.1)) := by
    refine (List.perm_ext_iff_of_nodup (hsteps.imp hdistinct) (hsteps'.imp hdistinct)).2 fun s => ?_
    rw [mem_steps_iff fields h.noDeadEnds.1, mem_steps_iff fields' h.noDeadEnds.2]
    simp only [h.entries.mem_iff]
  refine List.Perm.eq_of_pairwise (fun s t _ _ hst hts => ?_) hsteps hsteps' hperm
  exact absurd (Std.TransCmp.lt_trans hst hts) (compare_ne_lt_self s)

/-- Trees with the same fields have the same children: for the same steps in the same order, with
the same fields below each of them. -/
theorem SameFields.children_same
    (h : SameFields (.node fields children) (.node fields' children')) :
    children.Forall₂ (fun c c' => c.1 = c'.1 ∧ SameFields c.2 c'.2) children' := by
  have hbelow : ∀ {c c'}, c ∈ children → c' ∈ children' → c.1 = c'.1 → SameFields c.2 c'.2 := by
    intro c c' hc hc' hstep
    have hperm := h.entries.filterMap (below? c.1)
    have hhere : ∀ names : List String,
        (names.map fun name => (name, ([] : Path))).filterMap (below? c.1) = [] := by
      intro names
      simp [below?]
    rw [Trie.entries, Trie.entries, List.filterMap_append, List.filterMap_append, hhere, hhere,
      List.append_nil, List.append_nil, filterMap_below? h.ordered.1 hc] at hperm
    have hc'' : (c.1, c'.2) ∈ children' := hstep ▸ hc'
    rw [filterMap_below? h.ordered.2 hc''] at hperm
    exact ⟨⟨h.ordered.1.ordered_of_mem hc, h.ordered.2.ordered_of_mem hc'⟩,
      ⟨(h.noDeadEnds.1.of_mem hc).2, (h.noDeadEnds.2.of_mem hc').2⟩, hperm⟩
  have hlength : children.length = children'.length := by
    simpa using congrArg List.length h.steps_eq
  refine List.forall₂_iff_get.2 ⟨hlength, fun i hi hi' => ?_⟩
  have hstep : (children.get ⟨i, hi⟩).1 = (children'.get ⟨i, hi'⟩).1 := by
    have hget := congrArg (·[i]?) h.steps_eq
    simpa [hi, hi'] using hget
  exact ⟨hstep, hbelow (List.get_mem _ _) (List.get_mem _ _) hstep⟩

end Node

theorem sameFields_ofFields {fields fields' : List (String × Path)} (h : fields.Perm fields') :
    SameFields (ofFields fields) (ofFields fields') where
  ordered := ⟨ordered_ofFields fields, ordered_ofFields fields'⟩
  noDeadEnds := ⟨noDeadEnds_ofFields fields, noDeadEnds_ofFields fields'⟩
  entries := (entries_ofFields fields).trans (h.trans (entries_ofFields fields').symm)

/-! ## Steps from reordered documents -/

theorem membersAt_same (path : Path) {j j' : Json} (h : j.Reordered j') :
    SameResult (fun ms ms' => j = .obj ms ∧ j' = .obj ms') (membersAt path j)
      (membersAt path j') := by
  cases h with
  | refl j =>
    unfold membersAt
    split
    · exact .ok ⟨rfl, rfl⟩
    · exact .error _
  | arr h => exact .error _
  | obj hperm hkeys hvalues => exact .ok ⟨rfl, rfl⟩

theorem itemsAt_same (path : Path) {j j' : Json} (h : j.Reordered j') :
    SameResult (fun xs xs' => j = .arr xs ∧ j' = .arr xs') (itemsAt path j) (itemsAt path j') := by
  cases h with
  | refl j =>
    unfold itemsAt
    split
    · exact .ok ⟨rfl, rfl⟩
    · exact .error _
  | arr h => exact .ok ⟨rfl, rfl⟩
  | obj hperm hkeys hvalues => exact .error _

/-- Visits by the same key, of reordered documents. -/
def SameVisit (v v' : Option String × Json) : Prop := v.1 = v'.1 ∧ v.2.Reordered v'.2

theorem getD_reordered {xs xs' : List Json} (h : xs.Forall₂ Json.Reordered xs') (n : Nat) :
    (xs.getD n .null).Reordered (xs'.getD n .null) := by
  induction h generalizing n with
  | nil => exact .refl _
  | cons hx _ ih =>
    cases n with
    | zero => exact hx
    | succ n => exact ih n

/-- A step leads to reordered documents, in the same order and by the same keys, or nowhere. -/
theorem visits_same (path : Path) (step : PathStep) {j j' : Json} (hd : j.Distinct)
    (h : j.Reordered j') :
    SameResult (List.Forall₂ SameVisit) (visits path step j) (visits path step j') := by
  cases step with
  | key name =>
    refine (membersAt_same path h).bind ?_
    rintro ms ms' ⟨rfl, rfl⟩
    have hmember := Json.member?_reordered hd h name
    generalize Json.member? name ms = x, Json.member? name ms' = y at hmember
    cases hmember with
    | none => exact .error _
    | some hv => exact .ok (.cons ⟨rfl, hv⟩ .nil)
  | wildcard =>
    refine (membersAt_same path h).bind ?_
    rintro ms ms' ⟨rfl, rfl⟩
    refine .ok (List.forall₂_map_left_iff.2 (List.forall₂_map_right_iff.2 ?_))
    exact (Json.sorted_reordered hd h).imp fun m m' hm => ⟨congrArg some hm.1, hm.2⟩
  | allElements =>
    refine (itemsAt_same path h).bind ?_
    rintro xs xs' ⟨rfl, rfl⟩
    refine .ok (List.forall₂_map_left_iff.2 (List.forall₂_map_right_iff.2 ?_))
    exact (Json.reordered_items h).imp fun x x' hx => ⟨rfl, hx⟩
  | index i =>
    refine (itemsAt_same path h).bind ?_
    rintro xs xs' ⟨rfl, rfl⟩
    have hitems := Json.reordered_items h
    rw [hitems.length_eq]
    cases hi : resolveIndex i xs'.length with
    | error e => exact .error _
    | ok n => exact .ok (.cons ⟨rfl, getD_reordered hitems n⟩ .nil)

theorem membersAt_eq_ok {path : Path} {j : Json} {members : List (String × Json)}
    (h : membersAt path j = .ok members) : j = .obj members := by
  unfold membersAt at h
  split at h
  · rw [Except.ok.inj h]
  · cases h

theorem itemsAt_eq_ok {path : Path} {j : Json} {items : List Json}
    (h : itemsAt path j = .ok items) : j = .arr items := by
  unfold itemsAt at h
  split at h
  · rw [Except.ok.inj h]
  · cases h

/-- What a step leads to has every key once in every object again. -/
theorem distinct_visits {path : Path} {step : PathStep} {j : Json} (hd : j.Distinct)
    {vs : List (Option String × Json)} (hvs : visits path step j = .ok vs) :
    ∀ v ∈ vs, v.2.Distinct := by
  cases step with
  | key name =>
    obtain ⟨ms, hms, h⟩ := bind_eq_ok.1 hvs
    obtain rfl := membersAt_eq_ok hms
    cases hm : Json.member? name ms with
    | none =>
      rw [hm] at h
      cases h
    | some j =>
      rw [hm] at h
      obtain rfl := Except.ok.inj h
      simpa using hd.members _ ((Json.member?_eq_some_iff hd.nodup).1 hm)
  | wildcard =>
    obtain ⟨ms, hms, h⟩ := bind_eq_ok.1 hvs
    obtain rfl := membersAt_eq_ok hms
    obtain rfl := Except.ok.inj h
    intro v hv
    obtain ⟨m, hm, rfl⟩ := List.mem_map.1 hv
    exact hd.members m (List.mem_mergeSort.1 hm)
  | allElements =>
    obtain ⟨xs, hxs, h⟩ := bind_eq_ok.1 hvs
    obtain rfl := itemsAt_eq_ok hxs
    obtain rfl := Except.ok.inj h
    simpa using hd.items
  | index i =>
    obtain ⟨xs, hxs, h⟩ := bind_eq_ok.1 hvs
    obtain rfl := itemsAt_eq_ok hxs
    cases hi : resolveIndex i xs.length with
    | error e =>
      rw [hi] at h
      cases h
    | ok n =>
      rw [hi] at h
      obtain rfl := Except.ok.inj h
      have hlt := lt_of_resolveIndex hi
      simpa [hlt] using hd.items _ (List.getElem_mem hlt)

/-! ## Walks that stay in step -/

/-- The same columns but for orders, or the same error. -/
abbrev SameCapture (r r' : Except Fault Capture) : Prop :=
  SameResult (SameColumns Json.Reordered) r r'

/-- Two trees capture the same from reordered documents. -/
def InStep (t t' : Trie) : Prop :=
  ∀ path key j j', j.Distinct → j.Reordered j' →
    SameCapture (captureAt path key j t) (captureAt path key j' t')

theorem mergeAt_same (path : Path) {a a' b b' : Capture} (ha : SameColumns Json.Reordered a a')
    (hb : SameColumns Json.Reordered b b') :
    SameCapture (mergeAt path a b) (mergeAt path a' b') := by
  have hmerge := ha.merge hb
  unfold mergeAt
  generalize a.merge b = x, a'.merge b' = y at hmerge
  cases hmerge with
  | ok hc => exact .ok hc
  | error e => exact .error _

theorem captureEach_same {β : Type} {S : β → β → Prop} (path : Path)
    {one one' : β → Except Fault Capture} {vs vs' : List β} (hvs : vs.Forall₂ S vs')
    (hone : ∀ {v v'}, S v v' → SameCapture (one v) (one' v')) {acc acc' : Capture}
    (hacc : SameColumns Json.Reordered acc acc') :
    SameCapture (captureEach path one acc vs) (captureEach path one' acc' vs') := by
  induction hvs generalizing acc acc' with
  | nil => exact .ok hacc
  | cons hv _ ih =>
    rw [captureEach, captureEach]
    refine (hone hv).bind fun hc => ?_
    exact (mergeAt_same path hacc hc).bind fun hacc => ih hacc

theorem fieldCells_same {fields fields' : List String} (h : fields.Perm fields') {x x' : Json}
    (hx : x.Reordered x') :
    SameColumns Json.Reordered (fieldCells fields x) (fieldCells fields' x') where
  rows :=
    ⟨1, (regular_fieldCells fields x).rectangular, (regular_fieldCells fields' x').rectangular⟩
  column name := by
    rw [column?_fieldCells, column?_fieldCells]
    simp only [h.mem_iff]
    split_ifs
    · exact .some (.cons hx .nil)
    · exact .none

/-- The children of two nodes, when each child is in step with its counterpart. -/
theorem captureChildren_same {path : Path} {j j' : Json} (hd : j.Distinct) (h : j.Reordered j')
    {children children' : List (PathStep × Trie)}
    (hchildren : children.Forall₂ (fun c c' => c.1 = c'.1 ∧ InStep c.2 c'.2) children')
    {acc acc' : Capture} (hacc : SameColumns Json.Reordered acc acc') :
    SameCapture (captureChildren path j acc children) (captureChildren path j' acc' children') := by
  induction hchildren generalizing acc acc' with
  | nil =>
    rw [captureChildren, captureChildren]
    exact .ok hacc
  | @cons c c' _ _ hc _ ih =>
    obtain ⟨step, child⟩ := c
    obtain ⟨step', child'⟩ := c'
    obtain ⟨rfl, hchild⟩ : step = step' ∧ InStep child child' := hc
    rw [captureChildren, captureChildren]
    have hvisits := visits_same (path ++ [step]) step hd h
    have hdistinct : ∀ vs, visits (path ++ [step]) step j = .ok vs → ∀ v ∈ vs, v.2.Distinct :=
      fun vs hvs => distinct_visits hd hvs
    generalize visits (path ++ [step]) step j = x, visits (path ++ [step]) step j' = y
      at hvisits hdistinct
    cases hvisits with
    | error e => exact .error e
    | @ok vs vs' hvs =>
      have hvs' := (List.forall₂_and_left _ _).2 ⟨hdistinct vs rfl, hvs⟩
      refine (captureEach_same _ hvs' ?_ sameColumns_nil).bind fun hc =>
        (mergeAt_same _ hacc hc).bind fun hacc => ih hacc
      rintro ⟨key, v⟩ ⟨key', v'⟩ ⟨hdv, hkey, hv⟩
      obtain rfl : key = key' := hkey
      exact hchild _ _ _ _ hdv hv

/-- Trees with the same fields walk over reordered documents in step. -/
theorem captureAt_same (t : Trie) : ∀ t', SameFields t t' → InStep t t' := by
  induction t using Trie.induct with
  | node fields children ih =>
    rintro ⟨fields', children'⟩ hfields path key j j' hd h
    have hchildren : children.Forall₂ (fun c c' => c.1 = c'.1 ∧ InStep c.2 c'.2) children' := by
      refine ((List.forall₂_and_left _ _).2 ⟨ih, hfields.children_same⟩).imp ?_
      rintro c c' ⟨hchild, hstep, hsame⟩
      exact ⟨hstep, hchild c'.2 hsame⟩
    rw [captureAt, captureAt]
    refine (captureChildren_same hd h hchildren sameColumns_nil).bind fun hc => ?_
    have hperm := hfields.fields_perm
    rw [← hperm.isEmpty_eq]
    split_ifs
    · exact .ok hc
    · refine mergeAt_same path hc (fieldCells_same hperm ?_)
      cases key with
      | none => exact h
      | some k => exact .refl _

/-- **Captures do not depend on orders.** Declare the same fields in another order, and reorder the
members of objects anywhere in a document that has no key twice in an object. Then capturing fails
in both cases with the same error, or gives the same columns with the same cells in the same rows,
but for the order of the columns and of members inside of cells. -/
theorem capture_same {fields fields' : List (String × Path)} (hfields : fields.Perm fields')
    {j j' : Json} (hd : j.Distinct) (h : j.Reordered j') :
    SameResult (SameColumns Json.Reordered) ((ofFields fields).capture j)
      ((ofFields fields').capture j') :=
  captureAt_same _ _ (sameFields_ofFields hfields) [] none j j' hd h

/-- Keys and names of two items, declared and written the other way round: the rows are those of the
sorted keys in both cases. -/
theorem capture_same_wildcard :
    let id : String × Path := ("id", [.wildcard])
    let name : String × Path := ("name", [.wildcard, .key "name"])
    let a := Json.obj [("name", .str "A")]
    let b := Json.obj [("name", .str "B")]
    let document := Json.obj [("b", b), ("a", a)]
    let reordered := Json.obj [("a", a), ("b", b)]
    [id, name].Perm [name, id] ∧ document.Distinct ∧ document.Reordered reordered ∧
      (ofFields [id, name]).capture document =
        .ok [("name", [.str "A", .str "B"]), ("id", [.str "a", .str "b"])] ∧
      SameResult (SameColumns Json.Reordered) ((ofFields [id, name]).capture document)
        ((ofFields [name, id]).capture reordered) := by
  intro id name a b document reordered
  have hfields : [id, name].Perm [name, id] := List.Perm.swap _ _ _
  have hitem : ∀ s, (Json.obj [("name", .str s)]).Distinct := by
    intro s
    refine .obj (by simp) fun m hm => ?_
    obtain rfl := List.mem_singleton.1 hm
    exact .leaf nofun nofun
  have hd : document.Distinct := by
    refine .obj (by simp) fun m hm => ?_
    rcases List.mem_cons.1 hm with rfl | hm
    · exact hitem "B"
    · obtain rfl := List.mem_singleton.1 hm
      exact hitem "A"
  have hreordered : document.Reordered reordered :=
    .obj (List.Perm.swap _ _ _) rfl (List.forall₂_same.2 fun j _ => .refl j)
  exact ⟨hfields, hd, hreordered, by cbv, capture_same hfields hd hreordered⟩

end Trie
end TableScript
