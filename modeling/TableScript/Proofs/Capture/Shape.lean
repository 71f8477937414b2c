import TableScript.Proofs.Capture.Columns

/-!
# The shape of captures

The number of rows of a capture is read off its first column, so merging relies on all columns being
of one height, and has to keep it that way.

1. `merge_rectangular`: merging rectangular captures, of whatever heights, gives a rectangular
   capture with the columns of both sides, or fails because of a `Clash`;
2. `capture_shape` adds what a document gives: the columns are among the declared fields, and there
   is a row as soon as there is a column. Fields need not have different names here.
-/

namespace TableScript

variable {α : Type}

namespace Capture

/-! ## Merging -/

variable {a b : Capture α} {rows rows' : Nat}

@[simp] theorem names_broadcast [Inhabited α] (c : Capture α) (k : Nat) :
    (c.broadcast k).names = c.names := by
  simp [names, broadcast]

/-- Whatever a capture looks like, it is of one height after broadcasting. -/
theorem Rectangular.broadcast [Inhabited α] {c : Capture α} (h : c.Rectangular rows) (k : Nat) :
    (c.broadcast k).Rectangular k where
  nodup := by
    rw [names_broadcast]
    exact h.nodup
  height := by
    intro col hcol
    obtain ⟨⟨n, cells⟩, -, rfl⟩ := List.mem_map.1 hcol
    exact List.length_replicate

/-- Why captures of these heights cannot be put together. -/
inductive Clash (a b : Capture α) (rows rows' : Nat) : MergeError → Prop
  /-- Some columns are shared, but not all. -/
  | conflict : (∃ n ∈ a.names, n ∈ b.names) → ¬ (∀ n, n ∈ a.names ↔ n ∈ b.names) →
      Clash a b rows rows' .conflict
  /-- No column is shared, and no side can be repeated to the height of the other. -/
  | heights : a ≠ [] → b ≠ [] → (∀ n ∈ a.names, n ∉ b.names) → rows ≠ rows' → rows ≠ 1 →
      rows' ≠ 1 → Clash a b rows rows' (.incompatibleRows rows rows')

theorem exists_shared_of_sharedCount (h : 0 < sharedCount a b) : ∃ n ∈ a.names, n ∈ b.names := by
  obtain ⟨col, hcol⟩ := List.exists_mem_of_length_pos h
  obtain ⟨hmem, hshared⟩ := List.mem_filter.1 hcol
  exact ⟨col.1, List.mem_map_of_mem (f := (·.1)) hmem, hasColumn_iff.1 hshared⟩

/-- The same columns on both sides are all shared. -/
theorem sharedCount_of_same_names (ha : a.names.Nodup) (hb : b.names.Nodup)
    (same : ∀ n, n ∈ a.names ↔ n ∈ b.names) :
    sharedCount a b = a.length ∧ sharedCount a b = b.length := by
  have hall : sharedCount a b = a.length := by
    refine List.length_filter_eq_length_iff.2 fun col hcol => ?_
    exact hasColumn_iff.2 ((same col.1).1 (List.mem_map_of_mem (f := (·.1)) hcol))
  have hperm : a.names.Perm b.names := (List.perm_ext_iff_of_nodup ha hb).2 same
  have hlength : a.length = b.length := by simpa [names] using hperm.length_eq
  exact ⟨hall, hall.trans hlength⟩

/-- **Merging keeps captures rectangular.** It fails only where columns or heights clash, and else
gives the columns of both sides, again of one height. -/
theorem merge_rectangular [Inhabited α] (ha : a.Rectangular rows) (hb : b.Rectangular rows') :
    (∃ e, a.merge b = .error e ∧ Clash a b rows rows' e) ∨
      ∃ c height, a.merge b = .ok c ∧ c.Rectangular height ∧
        ∀ n, n ∈ c.names ↔ n ∈ a.names ∨ n ∈ b.names := by
  unfold merge
  split_ifs with hea heb hsame hshared hrows hone hone'
  · obtain rfl := List.isEmpty_iff.1 hea
    exact .inr ⟨b, rows', rfl, hb, by simp⟩
  · obtain rfl := List.isEmpty_iff.1 heb
    exact .inr ⟨a, rows, rfl, ha, by simp⟩
  · have same := same_names_of_sharedCount ha.nodup hsame.1 (hsame.1.symm.trans hsame.2)
    exact .inr ⟨a.stack b, rows + rows', rfl, ha.stack hb same, by simp [same]⟩
  · refine .inl ⟨.conflict, rfl, .conflict (exists_shared_of_sharedCount hshared) fun same => ?_⟩
    exact hsame (sharedCount_of_same_names ha.nodup hb.nodup same)
  all_goals
    have hna : a ≠ [] := fun e => hea (List.isEmpty_iff.2 e)
    have hnb : b ≠ [] := fun e => heb (List.isEmpty_iff.2 e)
    have apart := apart_of_sharedCount (Nat.eq_zero_of_not_pos hshared)
    rw [ha.rowCount_eq hna, hb.rowCount_eq hnb] at *
  · subst hrows
    exact .inr ⟨a ++ b, rows, rfl, ha.append hb apart, by simp⟩
  · refine .inr ⟨a.broadcast rows' ++ b, rows', rfl, (ha.broadcast rows').append hb ?_, by simp⟩
    rwa [names_broadcast]
  · refine .inr ⟨a ++ b.broadcast rows, rows, rfl, ha.append (hb.broadcast rows) ?_, by simp⟩
    rwa [names_broadcast]
  · exact .inl ⟨_, rfl, .heights hna hnb apart hrows hone hone'⟩

end Capture

namespace Trie

open Capture

/-! ## Captures of documents -/

/-- A capture of some fields: regular, and without other columns. -/
structure Shaped (declared : List String) (c : Capture α) : Prop where
  regular : ∃ rows, c.Regular rows
  names : ∀ n ∈ c.names, n ∈ declared

variable {declared : List String}

theorem shaped_nil : Shaped declared ([] : Capture α) := ⟨⟨1, .nil⟩, by simp⟩

theorem Shaped.mono {c : Capture α} (h : Shaped declared c) {declared' : List String}
    (hsub : declared ⊆ declared') : Shaped declared' c :=
  ⟨h.regular, fun n hn => hsub (h.names n hn)⟩

/-- One merge. -/
theorem Shaped.merge {a b c : Capture Cell} (ha : Shaped declared a) (hb : Shaped declared b)
    (h : a.merge b = .ok c) : Shaped declared c := by
  obtain ⟨rows, hra⟩ := ha.regular
  obtain ⟨rows', hrb⟩ := hb.regular
  obtain ⟨hm, hrc⟩ := merge_ok hra hrb h
  exact ⟨hrc, fun n hn => (mem_names_of_merged hm hn).elim (ha.names n) (hb.names n)⟩

/-- Walking a tree: whatever is merged on the way has its shape, so the result has it. -/
theorem shaped_traceAt (t : Trie) (path : Path) (trail : Trail) (key : Option String) (j : Json)
    (c : Capture Cell) (h : traceAt path trail key j t = .ok c) :
    Shaped (t.entries.map (·.1)) c := by
  induction t using Trie.induct generalizing path trail key j c with
  | node fields children ih =>
    rw [traceAt] at h
    obtain ⟨c₁, hc₁, hnode⟩ := bind_eq_ok.1 h
    have hchildren : Shaped ((childEntries children).map (·.1)) c₁ := by
      refine traceChildren_induct (fun _ acc => Shaped _ acc) ?_ shaped_nil hc₁
      intro done step child vs acc c acc' hdone hacc hv hc hm
      have hmem : (step, child) ∈ children := hdone.subset (by simp)
      have hsub : child.entries.map (·.1) ⊆ (childEntries children).map (·.1) := by
        rw [names_childEntries]
        exact fun n hn => List.mem_flatMap.2 ⟨(step, child), hmem, hn⟩
      -- every visit of the child captures the child's fields
      have hvisits : Shaped (child.entries.map (·.1)) c := by
        refine captureEach_induct (fun _ acc => Shaped _ acc) ?_ shaped_nil hc
        intro _ v acc c acc' _ hacc hone hm
        exact hacc.merge (ih (step, child) hmem _ _ _ _ c hone) hm
      exact hacc.merge (hvisits.mono hsub) hm
    rw [entries, List.map_append, List.map_map]
    have hchildren' := hchildren.mono (List.subset_append_left _ (fields.map id))
    split_ifs at hnode with hf
    · obtain rfl := Except.ok.inj hnode
      exact hchildren'
    · have hfields : Shaped ((childEntries children).map (·.1) ++ fields.map id)
          (fieldCells fields (⟨trail, cellOf key j⟩ : Cell)) := by
        refine ⟨⟨1, regular_fieldCells fields _⟩, fun n hn => List.mem_append_right _ ?_⟩
        simpa using mem_names_fieldCells.1 hn
      exact hchildren'.merge hfields (mergeAt_eq_ok.1 hnode)

/-- **The shape of captures.** Merging two captures that are each of one height fails, and then
their columns or heights clash, or gives a capture of one height that has exactly the columns of
both. So every capture of a document, whatever fields are declared, is of one height, which is not
zero where there is a column, and its columns are among the declared fields. -/
theorem capture_shape :
    (∀ (a b : Capture) (rows rows' : Nat), a.Rectangular rows → b.Rectangular rows' →
      (∃ e, a.merge b = .error e ∧ Clash a b rows rows' e) ∨
        ∃ c height, a.merge b = .ok c ∧ c.Rectangular height ∧
          ∀ n, n ∈ c.names ↔ n ∈ a.names ∨ n ∈ b.names) ∧
    ∀ (fields : List (String × Path)) (j : Json) (c : Capture),
      (ofFields fields).capture j = .ok c →
        ∃ height, c.Rectangular height ∧ (c ≠ [] → 1 ≤ height) ∧
          ∀ n ∈ c.names, n ∈ fields.map (·.1) := by
  refine ⟨fun a b rows rows' ha hb => merge_rectangular ha hb, fun fields j c h => ?_⟩
  rw [← trace_erase] at h
  obtain ⟨t, ht, rfl⟩ := map_eq_ok.1 h
  obtain ⟨⟨rows, hregular⟩, hnames⟩ := shaped_traceAt _ [] [] none j t ht
  have herase : t.erase.names = t.names := names_mapColumns _ t
  refine ⟨rows, ⟨?_, ?_⟩, fun _ => hregular.positive, fun n hn => ?_⟩
  · rw [herase]
    exact hregular.nodup
  · intro col hcol
    obtain ⟨⟨n, cells⟩, hmem, rfl⟩ := List.mem_map.1 hcol
    have hcells : cells.length = rows := hregular.height _ hmem
    simpa using hcells
  · rw [herase] at hn
    exact ((entries_ofFields fields).map (·.1)).mem_iff.1 (hnames n hn)

/-- A single row beside two rows is repeated; a name that is declared twice has one column, with
what both of its paths lead to. -/
theorem capture_shape_twice :
    let a : Capture := [("n", [.int 1])]
    let b : Capture := [("x", [.int 2, .int 3])]
    let fields : List (String × Path) := [("x", [.key "a"]), ("x", [.key "b"])]
    let document := Json.obj [("a", .int 1), ("b", .int 2)]
    a.Rectangular 1 ∧ b.Rectangular 2 ∧
      ((∃ e, a.merge b = .error e ∧ Clash a b 1 2 e) ∨
        ∃ c height, a.merge b = .ok c ∧ c.Rectangular height ∧
          ∀ n, n ∈ c.names ↔ n ∈ a.names ∨ n ∈ b.names) ∧
      (ofFields fields).capture document = .ok [("x", [.int 1, .int 2])] ∧
      ∃ height, Rectangular [("x", [Json.int 1, .int 2])] height ∧
        ([("x", [Json.int 1, .int 2])] ≠ [] → 1 ≤ height) ∧
          ∀ n ∈ names [("x", [Json.int 1, .int 2])], n ∈ fields.map (·.1) := by
  intro a b fields document
  have ha : a.Rectangular 1 := ⟨by decide, by simp [a]⟩
  have hb : b.Rectangular 2 := ⟨by decide, by simp [b]⟩
  have h : (ofFields fields).capture document = .ok [("x", [.int 1, .int 2])] := rfl
  exact ⟨ha, hb, capture_shape.1 a b 1 2 ha hb, h, capture_shape.2 fields document _ h⟩

end Trie
end TableScript
