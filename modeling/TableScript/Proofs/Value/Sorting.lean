import Mathlib.Data.List.Nodup
import TableScript.Eval.Block
import TableScript.Proofs.Value.Order

/-!
# Sorting rows

What sorting by rules comes to, said of row numbers and cells.

1. `compareRows` is the order of two rows by the rules, on their numbers. Sorting is a merge sort of
   the row numbers by it (`permutation_eq_ok`);
2. the order by places is a total preorder of row numbers for any rules, and agrees with
   `compareRows` where the ruled cells can be sorted (`compareRows_eq_comparePlacesBy`);
3. `sort_rows`: sorting fails exactly when it must and then changes nothing; otherwise it reorders
   every column by one permutation, which sorts the rows and keeps ties in place.
-/

namespace TableScript

/-- A loop of checks passes when every check passes. -/
theorem forM_eq_ok {α ε : Type} {f : α → Except ε PUnit} {l : List α} :
    l.forM f = .ok ⟨⟩ ↔ ∀ a ∈ l, f a = .ok ⟨⟩ := by
  induction l with
  | nil => exact ⟨fun _ => nofun, fun _ => rfl⟩
  | cons a l ih =>
    change (f a >>= fun _ => l.forM f) = _ ↔ _
    rw [List.forall_mem_cons, ← ih]
    cases f a with
    | error e => exact ⟨nofun, nofun⟩
    | ok u => exact ⟨fun h => ⟨rfl, h⟩, fun h => h.2⟩

/-- A merge sort of numbers counted up from zero sorts them and keeps the order of ties. -/
theorem pairwise_mergeSort_range {le : Nat → Nat → Bool} (trans : ∀ i j k, le i j → le j k → le i k)
    (total : ∀ i j, le i j || le j i) (n : Nat) :
    ((List.range n).mergeSort le).Pairwise fun i j => le i j ∧ (le j i → i < j) := by
  have hdistinct : ((List.range n).mergeSort le).Pairwise (· ≠ ·) :=
    (List.mergeSort_perm _ le).nodup_iff.2 List.nodup_range
  -- breaking ties by position changes nothing, and here the position of a number is itself
  rw [← List.mergeSort_zipIdx, List.pairwise_map] at hdistinct ⊢
  have hself : ∀ p ∈ (List.range n).zipIdx.mergeSort (List.zipIdxLE le), p.2 = p.1 := by
    intro p hp
    have hget := List.mem_zipIdx_iff_getElem?.1 (List.mem_mergeSort.1 hp)
    obtain ⟨hlt, hget⟩ := List.getElem?_eq_some_iff.1 hget
    rwa [List.getElem_range] at hget
  have hsorted := List.pairwise_mergeSort (List.zipIdxLE_trans trans) (List.zipIdxLE_total total)
    (List.range n).zipIdx
  refine (hsorted.and hdistinct).imp_of_mem fun {p q} hp hq h => ?_
  obtain ⟨hle, hne⟩ := h
  unfold List.zipIdxLE at hle
  split at hle
  · rename_i hpq
    refine ⟨hpq, fun hqp => ?_⟩
    rw [if_pos hqp, decide_eq_true_eq, hself p hp, hself q hq] at hle
    exact Nat.lt_of_le_of_ne hle hne
  · cases hle

namespace Rows

/-! ## Rows by their numbers -/

/-- The cell of a column in a row. -/
def cell (columns : List (List Value)) (column row : Nat) : Value :=
  (columns.getD column []).getD row .null

/-- The order of two rows: the first rule that tells them apart decides, in its direction. -/
def compareRows (columns : List (List Value)) (rules : List SortRule) (i j : Nat) : Ordering :=
  ((rules.map fun r =>
    r.direction.apply ((cell columns r.column i).order (cell columns r.column j))).find?
      (· ≠ .eq)).getD .eq

variable {columns : List (List Value)} {rules : List SortRule}

theorem compareRows_cons (columns : List (List Value)) (r : SortRule) (rest : List SortRule)
    (i j : Nat) :
    compareRows columns (r :: rest) i j =
      (r.direction.apply ((cell columns r.column i).order (cell columns r.column j))).then
        (compareRows columns rest i j) := by
  unfold compareRows
  rw [List.map_cons, List.find?_cons]
  cases r.direction.apply ((cell columns r.column i).order (cell columns r.column j)) <;> rfl

theorem ofColumns_eq (n : Nat) (columns : List (List Value)) :
    ofColumns n columns = (List.range n).map fun i => columns.map (·.getD i .null) := by
  induction n generalizing columns with
  | zero => rfl
  | succ n ih =>
    rw [ofColumns, ih, List.range_succ_eq_map, List.map_cons, List.map_map]
    congr 1
    · refine List.map_congr_left fun c _ => ?_
      cases c <;> rfl
    · refine List.map_congr_left fun i _ => ?_
      rw [List.map_map]
      refine List.map_congr_left fun c _ => ?_
      cases c <;> rfl

theorem getD_map_getD (columns : List (List Value)) (column i : Nat) :
    (columns.map (·.getD i .null)).getD column .null = cell columns column i := by
  unfold cell
  simp only [List.getD_eq_getElem?_getD, List.getElem?_map]
  cases columns[column]? <;> rfl

theorem compare_eq_compareRows (columns : List (List Value)) (rules : List SortRule) (i j : Nat) :
    compare rules (columns.map (·.getD i .null)) (columns.map (·.getD j .null)) =
      compareRows columns rules i j := by
  induction rules with
  | nil => rfl
  | cons r rest ih => rw [compare, ih, getD_map_getD, getD_map_getD, compareRows_cons]

/-- Sorting rows together with their numbers is sorting the numbers. -/
theorem mergeSort_rows (n : Nat) (columns : List (List Value)) (rules : List SortRule) :
    ((ofColumns n columns).zipIdx.mergeSort fun a b => compare rules a.1 b.1 ≠ .gt).map (·.2) =
      (List.range n).mergeSort fun i j => compareRows columns rules i j ≠ .gt := by
  have hrows : (ofColumns n columns).zipIdx =
      (List.range n).map fun i => (columns.map (·.getD i .null), i) := by
    rw [ofColumns_eq]
    apply List.ext_getElem
    · simp
    · simp
  rw [hrows, ← List.map_mergeSort (r := fun i j => compareRows columns rules i j ≠ .gt),
    List.map_map]
  · exact List.map_id _
  · intro i _ j _
    rw [compare_eq_compareRows]

/-! ## When rows can be sorted -/

/-- What keeps rows from being sorted. -/
inductive Unsortable (columns : List (List Value)) (rules : List SortRule) : Prop
  /-- Two columns differ in length. -/
  | lengths {c d : List Value} : c ∈ columns → d ∈ columns → c.length ≠ d.length →
      Unsortable columns rules
  /-- A rule names no column. -/
  | column {r : SortRule} : r ∈ rules → columns.length ≤ r.column → Unsortable columns rules
  /-- A ruled column holds a function. -/
  | function {r : SortRule} {c : List Value} {f : Callable} : r ∈ rules →
      columns[r.column]? = some c → .fn f ∈ c → Unsortable columns rules
  /-- A ruled column holds an error. -/
  | error {r : SortRule} {c : List Value} {e : ErrorValue} : r ∈ rules →
      columns[r.column]? = some c → .error e ∈ c → Unsortable columns rules

/-- Columns are of one length, and ruled columns exist and hold cells with a place. -/
structure Sortable (columns : List (List Value)) (rules : List SortRule) : Prop where
  lengths : ∀ c ∈ columns, c.length = count columns
  cells : ∀ r ∈ rules, ∃ c, columns[r.column]? = some c ∧ ∀ v ∈ c, v.rank? ≠ none

theorem rank?_eq_none_iff {v : Value} : v.rank? = none ↔ (∃ f, v = .fn f) ∨ ∃ e, v = .error e := by
  cases v <;> simp [Value.rank?]

theorem length_eq_count (h : ¬ Unsortable columns rules) {c : List Value} (hc : c ∈ columns) :
    c.length = count columns := by
  cases columns with
  | nil => cases hc
  | cons d rest =>
    by_contra hne
    exact h (.lengths hc List.mem_cons_self hne)

theorem sortable_iff : Sortable columns rules ↔ ¬ Unsortable columns rules := by
  constructor
  · intro h hbad
    cases hbad with
    | lengths hc hd hne => exact hne ((h.lengths _ hc).trans (h.lengths _ hd).symm)
    | column hr hlen =>
      obtain ⟨c, hget, -⟩ := h.cells _ hr
      rw [List.getElem?_eq_none hlen] at hget
      cases hget
    | function hr hget hmem =>
      obtain ⟨c, hget', hcells⟩ := h.cells _ hr
      obtain rfl := Option.some.inj (hget.symm.trans hget')
      exact hcells _ hmem rfl
    | error hr hget hmem =>
      obtain ⟨c, hget', hcells⟩ := h.cells _ hr
      obtain rfl := Option.some.inj (hget.symm.trans hget')
      exact hcells _ hmem rfl
  · intro h
    refine ⟨fun c hc => length_eq_count h hc, fun r hr => ?_⟩
    have hlt : r.column < columns.length := by
      by_contra hge
      exact h (.column hr (Nat.le_of_not_lt hge))
    have hget := List.getElem?_eq_getElem hlt
    refine ⟨columns[r.column], hget, fun v hv hnone => ?_⟩
    obtain ⟨f, rfl⟩ | ⟨e, rfl⟩ := rank?_eq_none_iff.1 hnone
    · exact h (.function hr hget hv)
    · exact h (.error hr hget hv)

theorem checkLengths_eq_ok :
    checkLengths columns = .ok () ↔ ∀ c ∈ columns, c.length = count columns := by
  unfold checkLengths
  cases h : columns.find? (·.length ≠ count columns) with
  | none => simpa using List.find?_eq_none.1 h
  | some bad =>
    have hbad : bad.length ≠ count columns := by simpa using List.find?_some h
    refine ⟨nofun, fun hall => absurd (hall bad (List.mem_of_find?_eq_some h)) hbad⟩

theorem checkRule_eq_ok {r : SortRule} :
    checkRule columns r = .ok () ↔
      ∃ c, columns[r.column]? = some c ∧ ∀ v ∈ c, v.rank? ≠ none := by
  unfold checkRule
  cases columns[r.column]? with
  | none => simp
  | some cells =>
    simp only [forM_eq_ok, Option.some.injEq, exists_eq_left']
    refine forall₂_congr fun v _ => ?_
    unfold Value.rank
    cases v.rank? <;> simp [Except.map]

/-- Rows that can be sorted are sorted. -/
theorem permutation_eq_ok (h : Sortable columns rules) :
    permutation columns rules = .ok
      ((List.range (count columns)).mergeSort fun i j => compareRows columns rules i j ≠ .gt) := by
  have hlengths := checkLengths_eq_ok.2 h.lengths
  have hrules : rules.forM (checkRule columns) = .ok () :=
    forM_eq_ok.2 fun r hr => checkRule_eq_ok.2 (h.cells r hr)
  rw [← mergeSort_rows]
  unfold permutation
  rw [hlengths]
  change (rules.forM (checkRule columns) >>= _) = _
  rw [hrules]
  rfl

/-- Rows that cannot be sorted are refused. -/
theorem permutation_eq_error (h : ¬ Sortable columns rules) :
    ∃ f, permutation columns rules = .error f := by
  unfold permutation
  cases hlengths : checkLengths columns with
  | error f => exact ⟨f, rfl⟩
  | ok u =>
    change ∃ f, (rules.forM (checkRule columns) >>= _) = _
    cases hrules : rules.forM (checkRule columns) with
    | error f => exact ⟨f, rfl⟩
    | ok u' =>
      refine absurd ⟨checkLengths_eq_ok.1 hlengths, fun r hr => ?_⟩ h
      exact checkRule_eq_ok.1 (forM_eq_ok.1 hrules r hr)

/-! ## The order of rows is a total preorder -/

/-- The order of two rows by the places of their cells. -/
def comparePlacesBy (columns : List (List Value)) : List SortRule → Nat → Nat → Ordering
  | [] => fun _ _ => .eq
  | r :: rest => compareLex
      (fun i j => r.direction.apply
        ((cell columns r.column i).comparePlaces (cell columns r.column j)))
      (comparePlacesBy columns rest)

theorem transCmp_apply (d : SortDirection) (place : Nat → Value) :
    Std.TransCmp fun i j => d.apply ((place i).comparePlaces (place j)) := by
  have hplace : Std.TransCmp fun i j => (place i).comparePlaces (place j) :=
    { eq_swap := Std.OrientedCmp.eq_swap, isLE_trans := Std.TransCmp.isLE_trans }
  cases d with
  | ascending => exact hplace
  | descending =>
    have hswap : ∀ i j,
        (place j).comparePlaces (place i) = ((place i).comparePlaces (place j)).swap :=
      fun _ _ => hplace.eq_swap
    simp only [SortDirection.apply, ← hswap]
    exact Std.TransCmp.opposite

instance transCmp_comparePlacesBy (columns : List (List Value)) (rules : List SortRule) :
    Std.TransCmp (comparePlacesBy columns rules) := by
  induction rules with
  | nil => exact { eq_swap := rfl, isLE_trans := fun _ _ => rfl }
  | cons r rest ih =>
    have := transCmp_apply r.direction (cell columns r.column)
    exact inferInstanceAs (Std.TransCmp (compareLex _ _))

theorem rank?_cell_ne_none (h : Sortable columns rules) {r : SortRule} (hr : r ∈ rules) {i : Nat}
    (hi : i < count columns) : (cell columns r.column i).rank? ≠ none := by
  obtain ⟨column, hget, hcells⟩ := h.cells r hr
  have hlen : i < column.length := by
    rw [h.lengths column (List.mem_of_getElem? hget)]
    exact hi
  have hcell : cell columns r.column i = column[i] := by
    simp [cell, List.getD_eq_getElem?_getD, hget, hlen]
  rw [hcell]
  exact hcells _ (List.getElem_mem hlen)

theorem compareRows_eq_comparePlacesBy (h : Sortable columns rules) {i j : Nat}
    (hi : i < count columns) (hj : j < count columns) :
    compareRows columns rules i j = comparePlacesBy columns rules i j := by
  induction rules with
  | nil => rfl
  | cons r rest ih =>
    have hrest : Sortable columns rest :=
      ⟨h.lengths, fun r' hr' => h.cells r' (List.mem_cons_of_mem _ hr')⟩
    have hcells := Value.order_eq_comparePlaces (rank?_cell_ne_none h List.mem_cons_self hi)
      (rank?_cell_ne_none h List.mem_cons_self hj)
    rw [compareRows_cons, ih hrest, hcells]
    rfl

/-! ## What sorting gives -/

/-- A permutation sorts rows: it is one of all row numbers, no row comes after a greater one, and
rows that tie on every rule keep their order. -/
structure Sorts (columns : List (List Value)) (rules : List SortRule) (order : List Nat) :
    Prop where
  perm : order.Perm (List.range (count columns))
  sorted : order.Pairwise fun i j => compareRows columns rules i j ≠ .gt
  stable : order.Pairwise fun i j => compareRows columns rules i j = .eq → i < j

/-- Where rows can be sorted, sorting them is sorting by the places of their cells. -/
theorem mergeSort_eq (h : Sortable columns rules) :
    (List.range (count columns)).mergeSort (fun i j => compareRows columns rules i j ≠ .gt) =
      (List.range (count columns)).mergeSort
        fun i j => (comparePlacesBy columns rules i j).isLE := by
  rw [← List.map_id (List.mergeSort _ fun i j => compareRows columns rules i j ≠ .gt),
    List.map_mergeSort (s := fun i j => (comparePlacesBy columns rules i j).isLE), List.map_id]
  intro i hi j hj
  rw [compareRows_eq_comparePlacesBy h (List.mem_range.1 hi) (List.mem_range.1 hj), id, id]
  cases comparePlacesBy columns rules i j <;> rfl

theorem comparePlacesBy_swap (columns : List (List Value)) (rules : List SortRule) (i j : Nat) :
    comparePlacesBy columns rules j i = (comparePlacesBy columns rules i j).swap :=
  Std.OrientedCmp.eq_swap

theorem isLE_or_isLE (columns : List (List Value)) (rules : List SortRule) (i j : Nat) :
    (comparePlacesBy columns rules i j).isLE || (comparePlacesBy columns rules j i).isLE := by
  rw [comparePlacesBy_swap columns rules i j]
  cases comparePlacesBy columns rules i j <;> rfl

theorem sorts_mergeSort (h : Sortable columns rules) :
    Sorts columns rules
      ((List.range (count columns)).mergeSort fun i j => compareRows columns rules i j ≠ .gt) := by
  have hagree : ∀ {le : Nat → Nat → Bool} {i j : Nat},
      i ∈ (List.range (count columns)).mergeSort le →
      j ∈ (List.range (count columns)).mergeSort le →
      compareRows columns rules i j = comparePlacesBy columns rules i j := fun hi hj =>
    compareRows_eq_comparePlacesBy h (List.mem_range.1 (List.mem_mergeSort.1 hi))
      (List.mem_range.1 (List.mem_mergeSort.1 hj))
  have hpairs := pairwise_mergeSort_range
    (fun _ _ _ => Std.TransCmp.isLE_trans) (isLE_or_isLE columns rules) (count columns)
  rw [mergeSort_eq h]
  refine ⟨List.mergeSort_perm _ _, ?_, ?_⟩
  · refine hpairs.imp_of_mem fun {i j} hi hj hij => ?_
    rw [hagree hi hj]
    intro hgt
    rw [hgt] at hij
    cases hij.1
  · refine hpairs.imp_of_mem fun {i j} hi hj hij heq => hij.2 ?_
    rw [hagree hi hj] at heq
    rw [comparePlacesBy_swap, heq]
    rfl

/-- Columns reordered by a permutation. -/
def reordered (perm : List Nat) (columns : List (List Value)) : List (List Value) :=
  columns.map fun column => perm.map fun i => column.getD i .null

theorem reorder_eq (perm : List Nat) (column : List Value) :
    reorder perm column = perm.map fun i => column.getD i .null := by
  unfold reorder
  refine List.map_congr_left fun i _ => ?_
  simp [Array.getD_eq_getD_getElem?, List.getD_eq_getElem?_getD]

/-- **Sorting rows.** Where columns differ in length, a rule names no column or a ruled column holds
a function or an error, sorting fails; the machine that holds the columns is then as before.
Otherwise there is a permutation of the rows that sorts them and keeps ties in order, and every
column, ruled or not, is reordered by it. -/
theorem sort_rows (columns : List (List Value)) (rules : List SortRule) :
    (Unsortable columns rules ∧ ∃ f, permutation columns rules = .error f ∧
      sort columns rules = .error f ∧
      ∀ fields lists spec m, Block.sortRules fields spec = .ok rules →
        Block.sortColumns fields lists columns (some spec) m =
          .error (.unwind (.failure f none)) m) ∨
    (¬ Unsortable columns rules ∧ ∃ perm, permutation columns rules = .ok perm ∧
      Sorts columns rules perm ∧ sort columns rules = .ok (reordered perm columns)) := by
  by_cases h : Sortable columns rules
  · refine .inr ⟨sortable_iff.1 h, _, permutation_eq_ok h, sorts_mergeSort h, ?_⟩
    unfold sort
    rw [permutation_eq_ok h]
    refine congrArg Except.ok (List.map_congr_left fun column _ => ?_)
    exact reorder_eq _ column
  · have hbad : Unsortable columns rules := by
      by_contra hfine
      exact h (sortable_iff.2 hfine)
    obtain ⟨f, hf⟩ := permutation_eq_error h
    have hsort : sort columns rules = .error f := by
      unfold sort
      rw [hf]
      rfl
    refine .inl ⟨hbad, f, hf, hsort, fun fields lists spec m hrules => ?_⟩
    change (Run.lift (Block.sortRules fields spec) >>= _) m = _
    rw [hrules]
    change (Run.lift (sort columns rules) >>= _) m = _
    rw [hsort]
    rfl

/-- A column with a cell and a column without: sorting a block by both fails, and the machine stays
as it was. -/
theorem sort_rows_uneven :
    Unsortable [[.null], []] (generalRules 2 .ascending) ∧
      Block.sortRules ["a", "b"] (.general .ascending) = .ok (generalRules 2 .ascending) ∧
      ∃ f, ∀ m, Block.sortColumns ["a", "b"] [0, 1] [[.null], []] (some (.general .ascending)) m =
        .error (.unwind (.failure f none)) m := by
  have hbad : Unsortable [[.null], []] (generalRules 2 .ascending) :=
    .lengths List.mem_cons_self (List.mem_cons_of_mem _ List.mem_cons_self) (by decide)
  obtain ⟨-, f, -, -, hcolumns⟩ | ⟨hfine, -⟩ := sort_rows [[.null], []] (generalRules 2 .ascending)
  · exact ⟨hbad, rfl, f, fun m => hcolumns _ _ _ m rfl⟩
  · exact absurd hbad hfine

end Rows
end TableScript
