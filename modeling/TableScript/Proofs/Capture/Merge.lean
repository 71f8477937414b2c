import Mathlib.Data.List.Perm.Subperm
import TableScript.Capture.Table

/-!
# What merging does to columns

`Capture.merge` has four ways to succeed, and they come down to two. Either both sides have the same
columns and the rows of one stand below the rows of the other (`Merged.stacked`), or no column is
shared and each side is repeated cell by cell and put beside the other (`Merged.beside`).

1. `Rectangular` captures have one column per name, all of one height, and `Regular` ones at least
   one row as well;
2. `merge_ok` reads a successful merge of regular captures as one of the two cases;
3. `Stretch` is what repeating cells does to a column, and `Paired` what two columns of a capture
   keep row by row.
-/

namespace TableScript

variable {α β : Type}

/-! ## Stretched columns -/

/-- The second list is the first with every cell repeated one or more times, in order. -/
inductive Stretch : List α → List α → Prop
  | nil : Stretch [] []
  | cons (x : α) (k : Nat) {xs ys : List α} :
      Stretch xs ys → Stretch (x :: xs) (List.replicate (k + 1) x ++ ys)

namespace Stretch

theorem refl : ∀ xs : List α, Stretch xs xs
  | [] => .nil
  | x :: xs => .cons x 0 (refl xs)

theorem append {xs ys xs' ys' : List α} (h : Stretch xs ys) (h' : Stretch xs' ys') :
    Stretch (xs ++ xs') (ys ++ ys') := by
  induction h with
  | nil => exact h'
  | cons x k _ ih =>
    rw [List.cons_append, List.append_assoc]
    exact .cons x k ih

/-- Repeating every cell once more keeps a column stretched. -/
theorem flatMap_replicate {xs ys : List α} (h : Stretch xs ys) {k : Nat} (hk : 0 < k) :
    Stretch xs (ys.flatMap (List.replicate k)) := by
  induction h with
  | nil => exact .nil
  | cons x n _ ih =>
    have hpos : 0 < (n + 1) * k := Nat.mul_pos (Nat.succ_pos n) hk
    obtain ⟨m, hm⟩ : ∃ m, (n + 1) * k = m + 1 := ⟨(n + 1) * k - 1, by omega⟩
    rw [List.flatMap_append, List.flatMap_replicate, List.flatten_replicate_replicate, hm]
    exact .cons x m ih

theorem map (f : α → β) {xs ys : List α} (h : Stretch xs ys) : Stretch (xs.map f) (ys.map f) := by
  induction h with
  | nil => exact .nil
  | cons x k _ ih =>
    rw [List.map_append, List.map_replicate, List.map_cons]
    exact .cons (f x) k ih

theorem mem_iff {xs ys : List α} (h : Stretch xs ys) (a : α) : a ∈ ys ↔ a ∈ xs := by
  induction h with
  | nil => rfl
  | cons x k _ ih => simp [ih]

/-- What holds of the cells of a column in order holds of the stretched column, if every cell is so
related to itself. -/
theorem pairwise {R : α → α → Prop} (hr : ∀ a, R a a) {xs ys : List α} (h : Stretch xs ys)
    (hp : xs.Pairwise R) : ys.Pairwise R := by
  induction h with
  | nil => exact .nil
  | cons x k hs ih =>
    obtain ⟨hx, hp⟩ := List.pairwise_cons.1 hp
    refine List.pairwise_append.2 ⟨List.pairwise_replicate.2 (.inr (hr x)), ih hp, ?_⟩
    intro a ha b hb
    rw [List.eq_of_mem_replicate ha]
    exact hx b ((hs.mem_iff b).1 hb)

end Stretch

namespace Capture

/-! ## Columns by name -/

/-- The names of the columns. -/
def names (c : Capture α) : List String := c.map (·.1)

/-- Changes every column in the same way. -/
def mapColumns (f : List α → List β) (c : Capture α) : Capture β :=
  c.map fun (name, cells) => (name, f cells)

/-- Every cell repeated. -/
def widen (k : Nat) (c : Capture α) : Capture α := c.mapColumns (·.flatMap (List.replicate k))

@[simp] theorem names_nil : names ([] : Capture α) = [] := rfl

@[simp] theorem names_append (a b : Capture α) : names (a ++ b) = a.names ++ b.names :=
  List.map_append

@[simp] theorem names_mapColumns (f : List α → List β) (c : Capture α) :
    (c.mapColumns f).names = c.names := by
  simp [names, mapColumns]

@[simp] theorem names_widen (k : Nat) (c : Capture α) : (c.widen k).names = c.names :=
  names_mapColumns _ c

@[simp] theorem names_stack (a b : Capture α) : (a.stack b).names = a.names := by
  simp [names, stack]

@[simp] theorem column?_nil (name : String) : column? ([] : Capture α) name = none := rfl

theorem column?_cons (n : String) (cells : List α) (c : Capture α) (name : String) :
    column? ((n, cells) :: c) name = if name = n then some cells else c.column? name := by
  unfold column?
  rw [List.lookup_cons]
  by_cases h : name = n
  · simp [h]
  · rw [if_neg h, beq_false_of_ne h]

@[simp] theorem column?_append (a b : Capture α) (name : String) :
    column? (a ++ b) name = (a.column? name).or (b.column? name) := List.lookup_append

theorem column?_eq_none_iff {c : Capture α} {name : String} :
    c.column? name = none ↔ name ∉ c.names := by
  rw [column?, List.lookup_eq_none_iff, names, List.mem_map]
  constructor
  · rintro h ⟨col, hcol, rfl⟩
    simpa using h col hcol
  · intro h col hcol
    simpa using fun e : name = col.1 => h ⟨col, hcol, e.symm⟩

theorem mem_of_column? {c : Capture α} {name : String} {cells : List α}
    (h : c.column? name = some cells) : (name, cells) ∈ c := by
  obtain ⟨before, after, rfl, -⟩ := List.lookup_eq_some_iff.1 h
  simp

theorem column?_of_mem {c : Capture α} (hn : c.names.Nodup) {name : String} {cells : List α}
    (h : (name, cells) ∈ c) : c.column? name = some cells := by
  induction c with
  | nil => cases h
  | cons col c ih =>
    obtain ⟨n, xs⟩ := col
    obtain ⟨hnot, hn⟩ := List.nodup_cons.1 hn
    rw [column?_cons]
    rcases List.mem_cons.1 h with heq | hmem
    · obtain ⟨rfl, rfl⟩ := Prod.mk.inj heq
      rw [if_pos rfl]
    · have hne : name ≠ n := by
        rintro rfl
        exact hnot (List.mem_map_of_mem (f := (·.1)) hmem)
      rw [if_neg hne, ih hn hmem]

theorem mem_names_of_column? {c : Capture α} {name : String} {cells : List α}
    (h : c.column? name = some cells) : name ∈ c.names :=
  List.mem_map_of_mem (f := (·.1)) (mem_of_column? h)

@[simp] theorem column?_mapColumns (f : List α → List β) (c : Capture α) (name : String) :
    (c.mapColumns f).column? name = (c.column? name).map f := by
  induction c with
  | nil => rfl
  | cons col c ih =>
    obtain ⟨n, cells⟩ := col
    show column? ((n, f cells) :: mapColumns f c) name = _
    rw [column?_cons, column?_cons]
    by_cases h : name = n
    · rw [if_pos h, if_pos h]; rfl
    · rw [if_neg h, if_neg h, ih]

@[simp] theorem column?_widen (k : Nat) (c : Capture α) (name : String) :
    (c.widen k).column? name = (c.column? name).map (·.flatMap (List.replicate k)) :=
  column?_mapColumns _ c name

@[simp] theorem column?_stack (a b : Capture α) (name : String) :
    (a.stack b).column? name = (a.column? name).map (· ++ (b.column? name).getD []) := by
  -- the rows below are fixed while the columns above are walked
  unfold stack
  induction a with
  | nil => rfl
  | cons col a ih =>
    obtain ⟨n, cells⟩ := col
    rw [List.map_cons, column?_cons, column?_cons]
    by_cases h : name = n
    · rw [if_pos h, if_pos h, h]; rfl
    · rw [if_neg h, if_neg h, ih]

theorem mapColumns_id (c : Capture α) : c.mapColumns id = c := by
  simp [mapColumns]

theorem widen_one (c : Capture α) : c.widen 1 = c := by
  have h : (fun cells : List α => cells.flatMap (List.replicate 1)) = id := by
    funext cells
    exact List.flatMap_singleton' cells
  rw [widen, h, mapColumns_id]

/-! ## Regular captures -/

/-- One column per name, and all columns of one height. -/
structure Rectangular (c : Capture α) (rows : Nat) : Prop where
  nodup : c.names.Nodup
  height : ∀ col ∈ c, col.2.length = rows

theorem Rectangular.rowCount_eq {c : Capture α} {rows : Nat} (h : Rectangular c rows)
    (hc : c ≠ []) : c.rowCount = rows := by
  cases c with
  | nil => exact absurd rfl hc
  | cons col c => exact h.height col (by simp)

theorem Rectangular.append {a b : Capture α} {rows : Nat} (ha : Rectangular a rows)
    (hb : Rectangular b rows) (apart : ∀ n ∈ a.names, n ∉ b.names) :
    Rectangular (a ++ b) rows where
  nodup := by
    rw [names_append]
    exact List.nodup_append.2 ⟨ha.nodup, hb.nodup, fun n hn m hm e => apart n hn (e ▸ hm)⟩
  height := fun col hcol => (List.mem_append.1 hcol).elim (ha.height col) (hb.height col)

/-- Under every column stands a column of the other side. -/
theorem Rectangular.stack {a b : Capture α} {rows rows' : Nat} (ha : Rectangular a rows)
    (hb : Rectangular b rows') (same : ∀ n, n ∈ a.names ↔ n ∈ b.names) :
    Rectangular (a.stack b) (rows + rows') where
  nodup := by rw [names_stack]; exact ha.nodup
  height := by
    intro col hcol
    obtain ⟨⟨n, cells⟩, hmem, rfl⟩ := List.mem_map.1 hcol
    have hn : n ∈ b.names := (same n).1 (List.mem_map_of_mem (f := (·.1)) hmem)
    obtain ⟨below, hbelow⟩ :=
      Option.ne_none_iff_exists'.1 (fun h => (column?_eq_none_iff.1 h) hn)
    have hrows : below.length = rows' := hb.height _ (mem_of_column? hbelow)
    simp [hbelow, ha.height _ hmem, hrows]

/-- One column per name, all of one height, which is not zero. -/
structure Regular (c : Capture α) (rows : Nat) : Prop where
  positive : 0 < rows
  nodup : c.names.Nodup
  height : ∀ col ∈ c, col.2.length = rows

theorem Regular.rectangular {c : Capture α} {rows : Nat} (h : Regular c rows) :
    Rectangular c rows := ⟨h.nodup, h.height⟩

theorem Rectangular.regular {c : Capture α} {rows : Nat} (h : Rectangular c rows)
    (hrows : 0 < rows) : Regular c rows := ⟨hrows, h.nodup, h.height⟩

theorem Regular.nil : Regular ([] : Capture α) 1 := ⟨Nat.one_pos, List.nodup_nil, by simp⟩

theorem Regular.rowCount_eq {c : Capture α} {rows : Nat} (h : Regular c rows) (hc : c ≠ []) :
    c.rowCount = rows := h.rectangular.rowCount_eq hc

theorem Regular.length_eq {c : Capture α} {rows : Nat} (h : Regular c rows) {name : String}
    {cells : List α} (hc : c.column? name = some cells) : cells.length = rows :=
  h.height _ (mem_of_column? hc)

theorem Regular.widen {c : Capture α} {rows : Nat} (h : Regular c rows) {k : Nat} (hk : 0 < k) :
    Regular (c.widen k) (rows * k) where
  positive := Nat.mul_pos h.positive hk
  nodup := by rw [names_widen]; exact h.nodup
  height := by
    intro col hcol
    obtain ⟨⟨n, cells⟩, hmem, rfl⟩ := List.mem_map.1 hcol
    have hl := h.height _ hmem
    simp only at hl
    simp [List.length_flatMap, ← hl]

theorem Regular.append {a b : Capture α} {rows : Nat} (ha : Regular a rows) (hb : Regular b rows)
    (apart : ∀ n ∈ a.names, n ∉ b.names) : Regular (a ++ b) rows :=
  (ha.rectangular.append hb.rectangular apart).regular ha.positive

theorem Regular.stack {a b : Capture α} {rows rows' : Nat} (ha : Regular a rows)
    (hb : Regular b rows') (same : ∀ n, n ∈ a.names ↔ n ∈ b.names) :
    Regular (a.stack b) (rows + rows') :=
  (ha.rectangular.stack hb.rectangular same).regular (Nat.add_pos_left ha.positive _)

/-- A single row is broadcast by repeating every cell. -/
theorem Regular.broadcast_eq [Inhabited α] {c : Capture α} (h : Regular c 1) (k : Nat) :
    c.broadcast k = c.widen k := by
  refine List.map_congr_left fun col hcol => ?_
  obtain ⟨n, cells⟩ := col
  obtain ⟨x, rfl⟩ := List.length_eq_one_iff.1 (h.height _ hcol)
  simp

/-! ## The two ways to merge -/

/-- What a successful merge makes of two captures. -/
inductive Merged (a b : Capture α) : Capture α → Prop
  /-- Both have the same columns: the rows of one below the rows of the other. -/
  | stacked (same : ∀ n, n ∈ a.names ↔ n ∈ b.names) : Merged a b (a.stack b)
  /-- No column is shared: both side by side, with cells repeated. -/
  | beside (k l : Nat) (hk : 0 < k) (hl : 0 < l) (apart : ∀ n ∈ a.names, n ∉ b.names) :
      Merged a b (a.widen k ++ b.widen l)

theorem hasColumn_iff {c : Capture α} {name : String} : c.hasColumn name ↔ name ∈ c.names := by
  rw [hasColumn, Option.isSome_iff_ne_none, Ne, column?_eq_none_iff, not_not]

/-- Columns that are all shared, and as many on both sides, are the same columns. -/
theorem same_names_of_sharedCount {a b : Capture α} (ha : a.names.Nodup)
    (hs : sharedCount a b = a.length) (hl : a.length = b.length) (n : String) :
    n ∈ a.names ↔ n ∈ b.names := by
  have hall : ∀ col ∈ a, b.hasColumn col.1 := List.length_filter_eq_length_iff.1 hs
  have hsub : a.names ⊆ b.names := by
    intro m hm
    obtain ⟨col, hcol, rfl⟩ := List.mem_map.1 hm
    exact hasColumn_iff.1 (hall col hcol)
  have hperm : a.names.Perm b.names :=
    (List.subperm_of_subset ha hsub).perm_of_length_le (by simp [names, hl])
  exact hperm.mem_iff

theorem apart_of_sharedCount {a b : Capture α} (hs : sharedCount a b = 0) :
    ∀ n ∈ a.names, n ∉ b.names := by
  intro n hn
  obtain ⟨col, hcol, rfl⟩ := List.mem_map.1 hn
  have hnone := List.filter_eq_nil_iff.1 (List.length_eq_zero_iff.1 hs) col hcol
  rwa [hasColumn_iff] at hnone

/-- **A merge stacks or sets side by side.** -/
theorem merge_ok [Inhabited α] {a b c : Capture α} {rows rows' : Nat} (ha : Regular a rows)
    (hb : Regular b rows') (h : a.merge b = .ok c) : Merged a b c ∧ ∃ r, Regular c r := by
  -- every case but stacking is of the form `a.widen k ++ b.widen l`
  have beside : ∀ k l, 0 < k → 0 < l → (∀ n ∈ a.names, n ∉ b.names) → rows * k = rows' * l →
      c = a.widen k ++ b.widen l → Merged a b c ∧ ∃ r, Regular c r := by
    rintro k l hk hl apart hrows rfl
    refine ⟨.beside k l hk hl apart, rows * k, (ha.widen hk).append ?_ (by simpa using apart)⟩
    rw [hrows]
    exact hb.widen hl
  unfold merge at h
  split_ifs at h with hea heb hsame hshared hrows hone hone'
  · obtain rfl := List.isEmpty_iff.1 hea
    obtain rfl := Except.ok.inj h
    refine ⟨?_, rows', hb⟩
    simpa [widen_one, mapColumns] using
      Merged.beside (a := ([] : Capture α)) (b := b) 1 1 Nat.one_pos Nat.one_pos (by simp)
  · obtain rfl := List.isEmpty_iff.1 heb
    obtain rfl := Except.ok.inj h
    refine ⟨?_, rows, ha⟩
    simpa [widen_one, mapColumns] using
      Merged.beside (a := a) (b := ([] : Capture α)) 1 1 Nat.one_pos Nat.one_pos (by simp)
  · obtain rfl := Except.ok.inj h
    have same := same_names_of_sharedCount ha.nodup hsame.1 (hsame.1.symm.trans hsame.2)
    exact ⟨.stacked same, _, ha.stack hb same⟩
  all_goals
    have hna : a ≠ [] := fun e => hea (List.isEmpty_iff.2 e)
    have hnb : b ≠ [] := fun e => heb (List.isEmpty_iff.2 e)
    have apart := apart_of_sharedCount (Nat.eq_zero_of_not_pos hshared)
    rw [ha.rowCount_eq hna, hb.rowCount_eq hnb] at *
  · subst hrows
    refine beside 1 1 Nat.one_pos Nat.one_pos apart rfl ?_
    rw [widen_one, widen_one]
    exact (Except.ok.inj h).symm
  · subst hone
    refine beside rows' 1 hb.positive Nat.one_pos apart (by omega) ?_
    rw [widen_one, ← ha.broadcast_eq]
    exact (Except.ok.inj h).symm
  · subst hone'
    refine beside 1 rows Nat.one_pos ha.positive apart (by omega) ?_
    rw [widen_one, ← hb.broadcast_eq]
    exact (Except.ok.inj h).symm

/-! ## What a merge keeps of columns -/

/-- The column that cells make: none when there are no cells. -/
def columnOf : List α → Option (List α)
  | [] => none
  | x :: xs => some (x :: xs)

/-- The column of this name is these cells stretched, and there is none when there are no cells. -/
def Holds (c : Capture α) (name : String) (cells : List α) : Prop :=
  Option.Rel Stretch (columnOf cells) (c.column? name)

/-- Two columns are both there, and related row by row, or both not there. -/
def Paired (R : α → α → Prop) (c : Capture α) (f g : String) : Prop :=
  Option.Rel (List.Forall₂ R) (c.column? f) (c.column? g)

theorem columnOf_of_ne_nil {cells : List α} (h : cells ≠ []) : columnOf cells = some cells := by
  cases cells with
  | nil => exact absurd rfl h
  | cons x xs => rfl

theorem holds_nil {c : Capture α} {name : String} : Holds c name [] ↔ name ∉ c.names := by
  rw [← column?_eq_none_iff, Holds, columnOf]
  cases c.column? name with
  | none => exact ⟨fun _ => rfl, fun _ => .none⟩
  | some xs => exact ⟨nofun, nofun⟩

theorem holds_of_ne_nil {c : Capture α} {name : String} {cells : List α} (h : cells ≠ []) :
    Holds c name cells ↔ ∃ xs, c.column? name = some xs ∧ Stretch cells xs := by
  rw [Holds, columnOf_of_ne_nil h]
  cases c.column? name with
  | none => exact ⟨nofun, nofun⟩
  | some xs =>
    constructor
    · rintro (hs | _)
      exact ⟨xs, rfl, hs⟩
    · rintro ⟨ys, hys, hs⟩
      rw [Option.some.inj hys]
      exact .some hs

theorem Holds.eq_nil_iff {c : Capture α} {name : String} {cells : List α}
    (h : Holds c name cells) : cells = [] ↔ name ∉ c.names := by
  constructor
  · rintro rfl
    exact holds_nil.1 h
  · intro hn
    by_contra hne
    obtain ⟨xs, hxs, -⟩ := (holds_of_ne_nil hne).1 h
    exact hn (mem_names_of_column? hxs)

theorem Holds.widen {c : Capture α} {name : String} {cells : List α} (h : Holds c name cells)
    {k : Nat} (hk : 0 < k) : Holds (c.widen k) name cells := by
  by_cases hc : cells = []
  · subst hc
    rw [holds_nil] at h ⊢
    simpa using h
  · rw [holds_of_ne_nil hc] at h ⊢
    obtain ⟨xs, hxs, hs⟩ := h
    exact ⟨_, by rw [column?_widen, hxs]; rfl, hs.flatMap_replicate hk⟩

/-- Merging appends what was read for a column on both sides. -/
theorem Merged.holds_append {a b c : Capture α} (hm : Merged a b c) {name : String}
    {xs ys : List α} (ha : Holds a name xs) (hb : Holds b name ys) : Holds c name (xs ++ ys) := by
  cases hm with
  | stacked same =>
    by_cases hx : xs = []
    · -- what is absent on one side is absent on the other
      have hn := ha.eq_nil_iff.1 hx
      have hy := hb.eq_nil_iff.2 (fun h => hn ((same name).2 h))
      subst hx hy
      exact holds_nil.2 (by simpa using hn)
    · have hn : name ∈ a.names := not_not.1 fun h => hx (ha.eq_nil_iff.2 h)
      have hy : ys ≠ [] := fun h => (hb.eq_nil_iff.1 h) ((same name).1 hn)
      obtain ⟨us, hus, hsu⟩ := (holds_of_ne_nil hx).1 ha
      obtain ⟨vs, hvs, hsv⟩ := (holds_of_ne_nil hy).1 hb
      refine (holds_of_ne_nil (by simp [hx])).2 ⟨us ++ vs, ?_, hsu.append hsv⟩
      rw [column?_stack, hus, hvs]
      rfl
  | beside k l hk hl apart =>
    have ha' := ha.widen hk
    have hb' := hb.widen hl
    unfold Holds at ha' hb' ⊢
    rw [column?_append]
    by_cases hx : xs = []
    · have hn : (a.widen k).column? name = none := column?_eq_none_iff.2 (by
        rw [names_widen]; exact ha.eq_nil_iff.1 hx)
      rw [hx, hn]
      exact hb'
    · have hn : name ∈ a.names := not_not.1 fun h => hx (ha.eq_nil_iff.2 h)
      have hy : ys = [] := hb.eq_nil_iff.2 (apart name hn)
      have hnb : (b.widen l).column? name = none := column?_eq_none_iff.2 (by
        rw [names_widen]; exact apart name hn)
      rw [hy, hnb, List.append_nil, Option.or_none]
      exact ha'

theorem forall₂_flatMap_replicate {R : α → α → Prop} {xs ys : List α} (h : List.Forall₂ R xs ys)
    (k : Nat) :
    List.Forall₂ R (xs.flatMap (List.replicate k)) (ys.flatMap (List.replicate k)) := by
  induction h with
  | nil => exact .nil
  | cons hxy _ ih =>
    rw [List.flatMap_cons, List.flatMap_cons]
    refine List.rel_append ?_ ih
    exact List.forall₂_iff_get.2 ⟨by simp, fun i _ _ => by simpa using hxy⟩

theorem Paired.widen {R : α → α → Prop} {c : Capture α} {f g : String} (h : Paired R c f g)
    (k : Nat) : Paired R (c.widen k) f g := by
  unfold Paired at h ⊢
  rw [column?_widen, column?_widen]
  generalize c.column? f = x, c.column? g = y at h ⊢
  cases h with
  | some h => exact .some (forall₂_flatMap_replicate h k)
  | none => exact .none

/-- Merging keeps two columns paired. -/
theorem Merged.paired {a b c : Capture α} (hm : Merged a b c) {R : α → α → Prop} {f g : String}
    (ha : Paired R a f g) (hb : Paired R b f g) : Paired R c f g := by
  cases hm with
  | stacked same =>
    unfold Paired at ha hb ⊢
    rw [column?_stack, column?_stack]
    generalize a.column? f = x, a.column? g = y, b.column? f = u, b.column? g = v at ha hb ⊢
    cases ha with
    | none => exact .none
    | some h =>
      cases hb with
      | none => exact .some (by simpa using h)
      | some h' => exact .some (List.rel_append h h')
  | beside k l =>
    have ha' := ha.widen k
    have hb' := hb.widen l
    unfold Paired at ha' hb' ⊢
    rw [column?_append, column?_append]
    generalize (a.widen k).column? f = x, (a.widen k).column? g = y at ha' ⊢
    cases ha' with
    | none => exact hb'
    | some h => exact .some h

end Capture
end TableScript
