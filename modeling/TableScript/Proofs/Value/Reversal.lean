import Mathlib.Data.List.GetD
import TableScript.Proofs.Value.Sorting

/-!
# Sorting in the other direction

Flipping the direction of every rule turns the order of rows around, but ties keep their order
either way. So sorting by flipped rules is sorting the rows from last to first, seen from the end.

1. Only one permutation sorts rows and keeps ties in order (`Sorts.eq`);
2. a permutation that sorts the rows from last to first gives one that sorts them by flipped rules
   (`Sorts.mirrored`). Where no rows tie, reversing the permutation does (`Sorts.reversed`);
3. `sort_flipped` puts these together.
-/

namespace TableScript

/-- The other direction. -/
def SortDirection.flip : SortDirection → SortDirection
  | ascending => descending
  | descending => ascending

/-- Sort by the same column in the other direction. -/
def SortRule.flip (r : SortRule) : SortRule := ⟨r.column, r.direction.flip⟩

theorem SortDirection.apply_flip (d : SortDirection) (o : Ordering) :
    d.flip.apply o = (d.apply o).swap := by
  cases d with
  | ascending => rfl
  | descending => exact (Ordering.swap_swap).symm

namespace Rows

variable {columns : List (List Value)} {rules : List SortRule} {i j : Nat}

/-- Flipped rules compare rows the other way around. -/
theorem compareRows_flip (columns : List (List Value)) (rules : List SortRule) (i j : Nat) :
    compareRows columns (rules.map .flip) i j = (compareRows columns rules i j).swap := by
  induction rules with
  | nil => rfl
  | cons r rest ih =>
    rw [List.map_cons, compareRows_cons, compareRows_cons, ih, Ordering.swap_then]
    exact congrArg (Ordering.then · _) (SortDirection.apply_flip _ _)

theorem compareRows_swap (h : Sortable columns rules) (hi : i < count columns)
    (hj : j < count columns) :
    compareRows columns rules j i = (compareRows columns rules i j).swap := by
  rw [compareRows_eq_comparePlacesBy h hi hj, compareRows_eq_comparePlacesBy h hj hi]
  exact comparePlacesBy_swap columns rules i j

theorem Sorts.lt_count {order : List Nat} (h : Sorts columns rules order) (hi : i ∈ order) :
    i < count columns :=
  List.mem_range.1 (h.perm.subset hi)

/-- **One permutation sorts the rows** and keeps ties in order. -/
theorem Sorts.eq {p q : List Nat} (h : Sortable columns rules) (hp : Sorts columns rules p)
    (hq : Sorts columns rules q) : p = q := by
  refine (hp.perm.trans hq.perm.symm).eq_of_pairwise ?_ (hp.sorted.and hp.stable)
    (hq.sorted.and hq.stable)
  rintro i j hi hj ⟨hij, hties⟩ ⟨hji, hties'⟩
  -- neither row is greater, so they tie, and then each would come first
  have hswap := compareRows_swap h (hp.lt_count hi) (hq.lt_count hj)
  rw [hswap] at hji hties'
  cases hc : compareRows columns rules i j with
  | lt => exact absurd (congrArg Ordering.swap hc) hji
  | gt => exact absurd hc hij
  | eq => exact absurd (hties hc) (Nat.lt_asymm (hties' (congrArg Ordering.swap hc)))

/-! ## Rows from last to first -/

theorem count_map_reverse (columns : List (List Value)) :
    count (columns.map List.reverse) = count columns := by
  cases columns with
  | nil => rfl
  | cons c rest => exact List.length_reverse

theorem lengths_map_reverse (hlengths : ∀ c ∈ columns, c.length = count columns) :
    ∀ c ∈ columns.map List.reverse, c.length = count (columns.map List.reverse) := by
  intro c hc
  obtain ⟨d, hd, rfl⟩ := List.mem_map.1 hc
  rw [count_map_reverse, List.length_reverse, hlengths d hd]

/-- Counted from the last row, a row is where its mirror image was. -/
theorem cell_map_reverse (hlengths : ∀ c ∈ columns, c.length = count columns) (column : Nat)
    (hi : i < count columns) :
    cell (columns.map List.reverse) column i = cell columns column (count columns - 1 - i) := by
  have hcolumn (l : List (List Value)) : l.getD column [] = l[column]?.getD [] :=
    List.getD_eq_getElem?_getD
  rw [cell, cell, hcolumn, hcolumn, List.getElem?_map]
  cases hget : columns[column]? with
  | none => rfl
  | some c =>
    rw [← hlengths c (List.mem_of_getElem? hget)] at hi ⊢
    exact congrFun (List.getD_reverse i hi) .null

theorem compareRows_map_reverse (hlengths : ∀ c ∈ columns, c.length = count columns)
    (rules : List SortRule) (hi : i < count columns) (hj : j < count columns) :
    compareRows (columns.map List.reverse) rules i j =
      compareRows columns rules (count columns - 1 - i) (count columns - 1 - j) := by
  unfold compareRows
  simp only [cell_map_reverse hlengths _ hi, cell_map_reverse hlengths _ hj]

theorem Sortable.flip (h : Sortable columns rules) : Sortable columns (rules.map .flip) := by
  refine ⟨h.lengths, fun r hr => ?_⟩
  obtain ⟨r, hmem, rfl⟩ := List.mem_map.1 hr
  exact h.cells r hmem

theorem Sortable.map_reverse (h : Sortable columns rules) :
    Sortable (columns.map List.reverse) rules := by
  refine ⟨lengths_map_reverse h.lengths, fun r hr => ?_⟩
  obtain ⟨c, hget, hcells⟩ := h.cells r hr
  refine ⟨c.reverse, by rw [List.getElem?_map, hget, Option.map_some], fun v hv => ?_⟩
  exact hcells v (List.mem_reverse.1 hv)

/-- The mirror images of row numbers, from the end. -/
def mirrored (n : Nat) (order : List Nat) : List Nat := (order.map (n - 1 - ·)).reverse

theorem perm_mirrored (n : Nat) : (mirrored n (List.range n)).Perm (List.range n) := by
  have hreverse : (List.range n).map (n - 1 - ·) = (List.range n).reverse := by
    apply List.ext_getElem
    · simp
    · simp
  rw [mirrored, hreverse, List.reverse_reverse]

/-- Sorting the rows from last to first sorts them by flipped rules. -/
theorem Sorts.mirrored {order : List Nat} (h : Sortable columns rules)
    (hsorts : Sorts (columns.map List.reverse) rules order) :
    Sorts columns (rules.map .flip) (mirrored (count columns) order) := by
  have hlt {i : Nat} (hi : i ∈ order) : i < count columns :=
    count_map_reverse columns ▸ hsorts.lt_count hi
  have hcompare {i j : Nat} (hi : i ∈ order) (hj : j ∈ order) :
      compareRows columns (rules.map .flip) (count columns - 1 - j) (count columns - 1 - i) =
        compareRows (columns.map List.reverse) rules i j := by
    have hi := hlt hi
    have hj := hlt hj
    rw [compareRows_map_reverse h.lengths rules hi hj, compareRows_flip,
      ← compareRows_swap h (by omega) (by omega)]
  refine ⟨?_, ?_, ?_⟩
  · have hperm := hsorts.perm
    rw [count_map_reverse] at hperm
    refine .trans ?_ (perm_mirrored (count columns))
    exact (List.reverse_perm _).trans ((hperm.map _).trans (List.reverse_perm _).symm)
  · refine List.pairwise_reverse.2 (List.pairwise_map.2 (hsorts.sorted.imp_of_mem ?_))
    intro i j hi hj hij
    rwa [hcompare hi hj]
  · refine List.pairwise_reverse.2 (List.pairwise_map.2 (hsorts.stable.imp_of_mem ?_))
    intro i j hi hj hij heq
    rw [hcompare hi hj] at heq
    have hlast := hlt hj
    have hbefore := hij heq
    omega

/-- Where no two rows tie, the rows in reverse are sorted by flipped rules. -/
theorem Sorts.reversed {order : List Nat} (h : Sortable columns rules)
    (hsorts : Sorts columns rules order)
    (hties : ∀ i < count columns, ∀ j < count columns, i ≠ j →
      compareRows columns rules i j ≠ .eq) :
    Sorts columns (rules.map .flip) order.reverse := by
  have hcompare {i j : Nat} (hi : i ∈ order) (hj : j ∈ order) :
      compareRows columns (rules.map .flip) j i = compareRows columns rules i j := by
    rw [compareRows_flip, ← compareRows_swap h (hsorts.lt_count hj) (hsorts.lt_count hi)]
  refine ⟨(List.reverse_perm _).trans hsorts.perm, ?_, ?_⟩
  · refine List.pairwise_reverse.2 (hsorts.sorted.imp_of_mem fun {i j} hi hj hij => ?_)
    rwa [hcompare hi hj]
  · have hdistinct : order.Pairwise (· ≠ ·) := hsorts.perm.nodup_iff.2 List.nodup_range
    refine List.pairwise_reverse.2 (hdistinct.imp_of_mem fun {i j} hi hj hne heq => ?_)
    rw [hcompare hi hj] at heq
    exact absurd heq (hties i (hsorts.lt_count hi) j (hsorts.lt_count hj) hne)

/-! ## Columns -/

theorem sort_eq_ok (h : Sortable columns rules) : ∃ order, Sorts columns rules order ∧
    sort columns rules = .ok (reordered order columns) := by
  refine ⟨_, sorts_mergeSort h, ?_⟩
  unfold sort
  rw [permutation_eq_ok h]
  exact congrArg Except.ok (List.map_congr_left fun column _ => reorder_eq _ column)

/-- Mirrored rows are the rows of reversed columns, in reverse. -/
theorem reordered_mirrored (hlengths : ∀ c ∈ columns, c.length = count columns) {order : List Nat}
    (horder : ∀ i ∈ order, i < count columns) :
    reordered (mirrored (count columns) order) columns =
      (reordered order (columns.map List.reverse)).map List.reverse := by
  unfold reordered
  rw [List.map_map, List.map_map]
  refine List.map_congr_left fun c hc => ?_
  rw [mirrored, List.map_reverse, List.map_map]
  refine congrArg List.reverse (List.map_congr_left fun i hi => ?_)
  have hi := horder i hi
  rw [← hlengths c hc] at hi ⊢
  exact (congrFun (List.getD_reverse i hi) .null).symm

theorem reordered_reverse (order : List Nat) (columns : List (List Value)) :
    reordered order.reverse columns = (reordered order columns).map List.reverse := by
  unfold reordered
  rw [List.map_map]
  exact List.map_congr_left fun c _ => List.map_reverse

/-- Where all cells can be sorted, a check of a rule depends neither on its direction nor on the
order of the rows. -/
theorem checkRule_flip (hcells : ∀ c ∈ columns, ∀ v ∈ c, v.IsSortable) (r : SortRule) :
    checkRule columns r.flip = checkRule (columns.map List.reverse) r := by
  have hcolumn : r.flip.column = r.column := rfl
  cases hget : columns[r.column]? with
  | none =>
    have hget' : (columns.map List.reverse)[r.column]? = none := by
      rw [List.getElem?_map, hget, Option.map_none]
    unfold checkRule
    rw [hcolumn, hget, hget', List.length_map]
  | some c =>
    have hranks : ∀ v ∈ c, v.rank? ≠ none := fun v hv =>
      (hcells c (List.mem_of_getElem? hget) v hv).rank?_ne_none
    have hget' : (columns.map List.reverse)[r.column]? = some c.reverse := by
      rw [List.getElem?_map, hget, Option.map_some]
    rw [checkRule_eq_ok.2 ⟨c, hcolumn ▸ hget, hranks⟩,
      checkRule_eq_ok.2 ⟨c.reverse, hget', fun v hv => hranks v (List.mem_reverse.1 hv)⟩]

theorem sort_eq_error (hlengths : ∀ c ∈ columns, c.length = count columns) {f : Fault}
    (hrules : rules.forM (checkRule columns) = .error f) : sort columns rules = .error f := by
  have hchecked := checkLengths_eq_ok.2 hlengths
  unfold sort permutation
  rw [hchecked]
  change ((rules.forM (checkRule columns) >>= _) >>= _) = _
  rw [hrules]
  rfl

/-- Sorting by flipped rules fails as sorting the rows from last to first does, and otherwise is
the same in reverse. -/
theorem sort_flip (hlengths : ∀ c ∈ columns, c.length = count columns)
    (hcells : ∀ c ∈ columns, ∀ v ∈ c, v.IsSortable) :
    sort columns (rules.map .flip) =
      (sort (columns.map List.reverse) rules).map (List.map List.reverse) := by
  have hchecks : (rules.map .flip).forM (checkRule columns) =
      rules.forM (checkRule (columns.map List.reverse)) := by
    have hmap : (rules.map .flip).forM (checkRule columns) =
        rules.forM fun r => checkRule columns r.flip :=
      List.forM_map
    rw [hmap]
    exact congrArg rules.forM (funext (checkRule_flip hcells))
  cases hrules : rules.forM (checkRule (columns.map List.reverse)) with
  | error f =>
    rw [sort_eq_error hlengths (hchecks.trans hrules),
      sort_eq_error (lengths_map_reverse hlengths) hrules]
    rfl
  | ok u =>
    have h : Sortable columns rules := by
      refine ⟨hlengths, fun r hr => ?_⟩
      have hrule := forM_eq_ok.1 hrules r hr
      rw [← checkRule_flip hcells] at hrule
      exact checkRule_eq_ok.1 hrule
    obtain ⟨order, hsorts, hsort⟩ := sort_eq_ok h.flip
    obtain ⟨order', hsorts', hsort'⟩ := sort_eq_ok h.map_reverse
    have horder : ∀ i ∈ order', i < count columns := fun i hi =>
      count_map_reverse columns ▸ hsorts'.lt_count hi
    rw [hsort, hsort', hsorts.eq h.flip (hsorts'.mirrored h), reordered_mirrored hlengths horder]
    rfl

theorem sort_flip_of_ne (h : Sortable columns rules)
    (hties : ∀ i < count columns, ∀ j < count columns, i ≠ j →
      compareRows columns rules i j ≠ .eq) :
    sort columns (rules.map .flip) = (sort columns rules).map (List.map List.reverse) := by
  obtain ⟨order, hsorts, hsort⟩ := sort_eq_ok h.flip
  obtain ⟨order', hsorts', hsort'⟩ := sort_eq_ok h
  rw [hsort, hsort', hsorts.eq h.flip (hsorts'.reversed h hties), reordered_reverse]
  rfl

/-! ## The elements of a list -/

theorem sortable_singleton {values : List Value} (hvalues : ∀ v ∈ values, v.IsSortable)
    (d : SortDirection) : Sortable [values] [⟨0, d⟩] := by
  refine ⟨fun c hc => ?_, fun r hr => ?_⟩
  · rw [List.mem_singleton.1 hc]
    rfl
  · rw [List.mem_singleton.1 hr]
    exact ⟨values, rfl, fun v hv => (hvalues v hv).rank?_ne_none⟩

/-- Elements that do not tie are rows that do not tie. -/
theorem compareRows_singleton_ne {values : List Value} (hvalues : ∀ v ∈ values, v.IsSortable)
    (hties : values.Pairwise fun a b => a.order b ≠ .eq) (hi : i < values.length)
    (hj : j < values.length) (hne : i ≠ j) :
    compareRows [values] [⟨0, .ascending⟩] i j ≠ .eq := by
  have hlt {i j : Nat} (hij : i < j) (hj : j < values.length) :
      compareRows [values] [⟨0, .ascending⟩] i j ≠ .eq := by
    have hi := Nat.lt_trans hij hj
    have hcells := List.pairwise_iff_getElem.1 hties i j hi hj hij
    have hrow : compareRows [values] [⟨0, .ascending⟩] i j = values[i].order values[j] := by
      rw [compareRows_cons]
      simp [SortDirection.apply, cell, compareRows, hi, hj]
    rwa [hrow]
  obtain hij | hji := Nat.lt_or_gt_of_ne hne
  · exact hlt hij hj
  · rw [compareRows_swap (sortable_singleton hvalues _) hj hi]
    intro heq
    exact hlt hji hi (by simpa using heq)

theorem sortValues_eq (values : List Value) (d : SortDirection) :
    sortValues values d = (sort [values] [⟨0, d⟩]).map (·.headD []) := by
  unfold sortValues
  cases sort [values] [⟨0, d⟩] <;> rfl

theorem map_headD_reverse (r : Except Fault (List (List Value))) :
    (r.map (List.map List.reverse)).map (·.headD []) =
      (r.map (·.headD [])).map List.reverse := by
  cases r with
  | error f => rfl
  | ok columns => cases columns <;> rfl

/-- **Sorting in the other direction.** Where columns have one length and all cells can be sorted,
sorting by flipped rules is turning the rows around, sorting by the rules, and turning the rows
around again, whatever the ties; where a rule names no column both fail alike, and otherwise both
succeed. For the elements of a list, descending order is the ascending order of the reversed list
in reverse, and the ascending order in reverse where no two elements tie. -/
theorem sort_flipped (columns : List (List Value)) (rules : List SortRule)
    (hlengths : ∀ c ∈ columns, ∀ d ∈ columns, c.length = d.length)
    (hcells : ∀ c ∈ columns, ∀ v ∈ c, v.IsSortable) :
    sort columns (rules.map .flip) =
      (sort (columns.map List.reverse) rules).map (List.map List.reverse) ∧
    ((∀ r ∈ rules, r.column < columns.length) →
      ∃ sorted, sort columns (rules.map .flip) = .ok sorted) ∧
    ∀ values : List Value, (∀ v ∈ values, v.IsSortable) →
      sortValues values .descending =
        (sortValues values.reverse .ascending).map List.reverse ∧
      (values.Pairwise (fun a b => a.order b ≠ .eq) →
        sortValues values .descending = (sortValues values .ascending).map List.reverse) ∧
      ∃ sorted, sortValues values .descending = .ok sorted := by
  have hcounts : ∀ c ∈ columns, c.length = count columns := by
    intro c hc
    cases columns with
    | nil => cases hc
    | cons d rest => exact hlengths c hc d List.mem_cons_self
  refine ⟨sort_flip hcounts hcells, fun hcolumns => ?_, fun values hvalues => ?_⟩
  · have h : Sortable columns rules := by
      refine ⟨hcounts, fun r hr => ?_⟩
      have hget := List.getElem?_eq_getElem (hcolumns r hr)
      exact ⟨_, hget, fun v hv => (hcells _ (List.mem_of_getElem? hget) v hv).rank?_ne_none⟩
    obtain ⟨order, -, hsort⟩ := sort_eq_ok h.flip
    exact ⟨_, hsort⟩
  · have h := sortable_singleton hvalues .ascending
    have hrules : ([⟨0, .descending⟩] : List SortRule) = [⟨0, .ascending⟩].map SortRule.flip := rfl
    simp only [sortValues_eq, hrules]
    refine ⟨?_, fun hties => ?_, ?_⟩
    · rw [sort_flip h.lengths (by simpa using hvalues), map_headD_reverse]
      rfl
    · rw [sort_flip_of_ne h fun i hi j hj => compareRows_singleton_ne hvalues hties hi hj,
        map_headD_reverse]
    · obtain ⟨order, -, hsort⟩ := sort_eq_ok h.flip
      exact ⟨_, congrArg (Except.map _) hsort⟩

/-- Rows that tie in the sorted column, and a list of null, a number and NaN. -/
theorem sort_flipped_ties :
    sort [[.int 1, .int 2, .int 1], [.int 1, .int 2, .int 3]] [⟨0, .descending⟩] =
      (sort [[.int 1, .int 2, .int 1], [.int 3, .int 2, .int 1]] [⟨0, .ascending⟩]).map
        (List.map List.reverse) ∧
    (∃ sorted, sort [[.int 1, .int 2, .int 1], [.int 1, .int 2, .int 3]] [⟨0, .descending⟩] =
      .ok sorted) ∧
    sortValues [.float .nan, .null, .int 1] .descending =
      (sortValues [.float .nan, .null, .int 1] .ascending).map List.reverse := by
  have hsortable (n : Int64) : (Value.int n).IsSortable := ⟨nofun, nofun⟩
  obtain ⟨hsort, hok, hvalues⟩ := sort_flipped
    [[.int 1, .int 2, .int 1], [.int 1, .int 2, .int 3]] [⟨0, .ascending⟩] (by simp)
    (by simp [hsortable])
  have hties : [Value.float .nan, .null, .int 1].Pairwise fun a b => a.order b ≠ .eq := by
    decide +kernel
  exact ⟨hsort, hok (by simp), (hvalues _ (by simp [Value.IsSortable])).2.1 hties⟩

end Rows
end TableScript
