import Mathlib.Data.List.Induction
import TableScript.Proofs.Capture.Fields

/-!
# Columns of fields captured together

Fields that are captured together walk the document together, and what one of them captures goes
through merges with all the others. `capture_column` says what is left of a field in the end: the
column that the field has on its own, with cells repeated.

`Captures` is the simulation behind it. A capture stands for some fields if every one of them can be
read on its own, and its column is what was read, stretched. Visits of the same fields
(`Captures.merge_same`) and fields of different children (`Captures.merge_apart`) both keep this up.
-/

namespace TableScript

namespace Trie

open Capture

/-! ## Captures and readings -/

/-- A capture of fields, given what each of them reads on its own. -/
structure Captures (read : Path → Except Fault (List Cell)) (fields : List (String × Path))
    (c : Capture Cell) : Prop where
  regular : ∃ rows, c.Regular rows
  declared : ∀ n ∈ c.names, n ∈ fields.map (·.1)
  column : ∀ f ∈ fields, ∃ cells, read f.2 = .ok cells ∧ c.Holds f.1 cells

section Merge

variable {read read' : Path → Except Fault (List Cell)} {fields fields' : List (String × Path)}
  {a b c : Capture Cell}

theorem captures_nil (h : ∀ f ∈ fields, read f.2 = .ok []) : Captures read fields [] where
  regular := ⟨1, Regular.nil⟩
  declared := by simp
  column f hf := ⟨[], h f hf, holds_nil.2 (by simp)⟩

theorem Captures.holds_nil_of_not_mem (h : Captures read fields c) {name : String}
    (hn : name ∉ fields.map (·.1)) : c.Holds name [] :=
  holds_nil.2 fun hc => hn (h.declared name hc)

theorem mem_names_of_merged (hm : Merged a b c) {n : String} (hn : n ∈ c.names) :
    n ∈ a.names ∨ n ∈ b.names := by
  cases hm with
  | stacked same => exact .inl (by simpa using hn)
  | beside k l => simpa using hn

/-- The same fields captured from two places: what each reads is appended. -/
theorem Captures.merge_same (ha : Captures read fields a) (hb : Captures read' fields b)
    (h : a.merge b = .ok c) :
    Captures (fun p => do return (← read p) ++ (← read' p)) fields c := by
  obtain ⟨rows, hra⟩ := ha.regular
  obtain ⟨rows', hrb⟩ := hb.regular
  obtain ⟨hm, hrc⟩ := merge_ok hra hrb h
  refine ⟨hrc, fun n hn => ?_, fun f hf => ?_⟩
  · exact (mem_names_of_merged hm hn).elim (ha.declared n) (hb.declared n)
  · obtain ⟨xs, hx, hxs⟩ := ha.column f hf
    obtain ⟨ys, hy, hys⟩ := hb.column f hf
    refine ⟨xs ++ ys, ?_, hm.holds_append hxs hys⟩
    simp only [hx, hy]
    rfl

/-- Different fields captured from the same place. -/
theorem Captures.merge_apart (ha : Captures read fields a) (hb : Captures read fields' b)
    (hn : ((fields ++ fields').map (·.1)).Nodup) (h : a.merge b = .ok c) :
    Captures read (fields ++ fields') c := by
  obtain ⟨rows, hra⟩ := ha.regular
  obtain ⟨rows', hrb⟩ := hb.regular
  obtain ⟨hm, hrc⟩ := merge_ok hra hrb h
  rw [List.map_append] at hn
  have hapart := List.nodup_append.1 hn
  refine ⟨hrc, fun n hn => ?_, fun f hf => ?_⟩
  · rw [List.map_append]
    exact (mem_names_of_merged hm hn).elim (fun h => List.mem_append_left _ (ha.declared n h))
      (fun h => List.mem_append_right _ (hb.declared n h))
  · rcases List.mem_append.1 hf with hf | hf
    · obtain ⟨xs, hx, hxs⟩ := ha.column f hf
      have hnot : f.1 ∉ fields'.map (·.1) :=
        fun h => hapart.2.2 _ (List.mem_map_of_mem hf) _ h rfl
      exact ⟨xs, hx, by simpa using hm.holds_append hxs (hb.holds_nil_of_not_mem hnot)⟩
    · obtain ⟨ys, hy, hys⟩ := hb.column f hf
      have hnot : f.1 ∉ fields.map (·.1) :=
        fun h => hapart.2.2 _ h _ (List.mem_map_of_mem hf) rfl
      exact ⟨ys, hy, hm.holds_append (ha.holds_nil_of_not_mem hnot) hys⟩

end Merge

/-! ## Fields that end at a node -/

section SetMember

variable {α : Type}

theorem column?_setMember (name : String) (cells : List α) (c : Capture α) (n : String) :
    column? (Json.setMember name cells c) n = if n = name then some cells else c.column? n := by
  induction c with
  | nil => exact column?_cons name cells [] n
  | cons col c ih =>
    obtain ⟨m, xs⟩ := col
    rw [Json.setMember]
    by_cases hm : m = name
    · subst hm
      rw [if_pos rfl, column?_cons, column?_cons]
      split_ifs <;> rfl
    · rw [if_neg hm, column?_cons, column?_cons, ih]
      by_cases hn : n = m
      · rw [if_pos hn, if_neg (hn ▸ hm), if_pos hn]
      · rw [if_neg hn, if_neg hn]

theorem mem_names_setMember {name : String} {cells : List α} {c : Capture α} {n : String} :
    n ∈ names (Json.setMember name cells c) ↔ n = name ∨ n ∈ c.names := by
  rw [← not_iff_not, ← column?_eq_none_iff, column?_setMember, not_or, ← column?_eq_none_iff]
  split_ifs with h <;> simp [h]

theorem nodup_setMember (name : String) (cells : List α) {c : Capture α} (h : c.names.Nodup) :
    (names (Json.setMember name cells c)).Nodup := by
  induction c with
  | nil => simp [Json.setMember, names]
  | cons col c ih =>
    obtain ⟨m, xs⟩ := col
    obtain ⟨hm, hc⟩ := List.nodup_cons.1 h
    rw [Json.setMember]
    split_ifs with hmn
    · exact h
    · refine List.nodup_cons.2 ⟨fun hmem => ?_, ih hc⟩
      exact (mem_names_setMember.1 hmem).elim hmn hm

theorem fieldCells_concat (fields : List String) (name : String) (x : α) :
    fieldCells (fields ++ [name]) x = Json.setMember name [x] (fieldCells fields x) := by
  simp [fieldCells, Json.collapseMembers]

/-- Every field that ends at a node has one cell, and there is no other column. -/
theorem column?_fieldCells (fields : List String) (x : α) (n : String) :
    column? (fieldCells fields x) n = if n ∈ fields then some [x] else none := by
  induction fields using List.reverseRecOn with
  | nil => rfl
  | append_singleton fields name ih =>
    rw [fieldCells_concat, column?_setMember, ih]
    by_cases hn : n = name <;> simp [hn]

theorem mem_names_fieldCells {fields : List String} {x : α} {n : String} :
    n ∈ names (fieldCells fields x) ↔ n ∈ fields := by
  rw [← not_iff_not, ← column?_eq_none_iff, column?_fieldCells]
  split_ifs with h <;> simp [h]

theorem nodup_fieldCells (fields : List String) (x : α) : (names (fieldCells fields x)).Nodup := by
  induction fields using List.reverseRecOn with
  | nil => exact List.nodup_nil
  | append_singleton fields name ih =>
    rw [fieldCells_concat]
    exact nodup_setMember name [x] ih

theorem regular_fieldCells (fields : List String) (x : α) : Regular (fieldCells fields x) 1 where
  positive := Nat.one_pos
  nodup := nodup_fieldCells fields x
  height col hcol := by
    have hcol := column?_of_mem (nodup_fieldCells fields x) hcol
    rw [column?_fieldCells] at hcol
    split_ifs at hcol
    rw [← Option.some.inj hcol]
    rfl

end SetMember

theorem captures_fieldCells (fields : List String) (x : Cell)
    {read : Path → Except Fault (List Cell)} (hread : read [] = .ok [x]) :
    Captures read (fields.map fun name => (name, [])) (fieldCells fields x) where
  regular := ⟨1, regular_fieldCells fields x⟩
  declared n hn := by simpa using mem_names_fieldCells.1 hn
  column f hf := by
    obtain ⟨n, hn, rfl⟩ := List.mem_map.1 hf
    refine ⟨[x], hread, (holds_of_ne_nil (by simp)).2 ⟨[x], ?_, Stretch.refl _⟩⟩
    rw [column?_fieldCells, if_pos hn]

/-! ## The simulation -/

/-- What a path reads from several visits, one after the other. -/
def readEach (below : Path) (trail : Trail) (vs : List ((Option String × Json) × Nat)) (p : Path) :
    Except Fault (List Cell) := do
  return (← vs.mapM fun v => below.readAt (trail ++ [v.2]) v.1.1 v.1.2 p).flatten

theorem readEach_concat (below : Path) (trail : Trail) (vs : List ((Option String × Json) × Nat))
    (v : (Option String × Json) × Nat) (p : Path) :
    readEach below trail (vs ++ [v]) p = (do
      return (← readEach below trail vs p) ++ (← below.readAt (trail ++ [v.2]) v.1.1 v.1.2 p)) := by
  simp [readEach]

theorem readAt_cons {path : Path} {step : PathStep} {j : Json} {vs : List (Option String × Json)}
    (hv : visits (path ++ [step]) step j = .ok vs) (trail : Trail) (key : Option String)
    (p : Path) :
    path.readAt trail key j (step :: p) = readEach (path ++ [step]) trail vs.zipIdx p := by
  rw [Path.readAt, hv]
  rfl

/-- The visits of a child, each of which captures the child's fields. -/
theorem captures_captureEach {below : Path} {trail : Trail} {child : Trie}
    (ih : ∀ (v : (Option String × Json) × Nat) (c : Capture Cell),
      traceAt below (trail ++ [v.2]) v.1.1 v.1.2 child = .ok c →
        Captures (below.readAt (trail ++ [v.2]) v.1.1 v.1.2) child.entries c)
    {vs : List ((Option String × Json) × Nat)} {c : Capture Cell}
    (h : captureEach below (fun v => traceAt below (trail ++ [v.2]) v.1.1 v.1.2 child) [] vs =
      .ok c) :
    Captures (readEach below trail vs) child.entries c := by
  refine captureEach_induct (fun done acc => Captures (readEach below trail done) child.entries acc)
    ?_ (captures_nil fun _ _ => rfl) h
  intro done v acc c acc' _ hacc hc hm
  have hsame := hacc.merge_same (ih v c hc) hm
  simp only [← readEach_concat] at hsame
  exact hsame

/-- The fields of a child, seen from the node above. -/
theorem Captures.underStep {path : Path} {step : PathStep} {j : Json}
    {vs : List (Option String × Json)} (hv : visits (path ++ [step]) step j = .ok vs)
    {trail : Trail} (key : Option String) {fields : List (String × Path)} {c : Capture Cell}
    (h : Captures (readEach (path ++ [step]) trail vs.zipIdx) fields c) :
    Captures (path.readAt trail key j) (fields.map (Trie.underStep step)) c where
  regular := h.regular
  declared n hn := by
    rw [map_fst_underStep]
    exact h.declared n hn
  column f hf := by
    obtain ⟨e, he, rfl⟩ := List.mem_map.1 hf
    obtain ⟨cells, hr, hc⟩ := h.column e he
    exact ⟨cells, (readAt_cons hv trail key e.2).trans hr, hc⟩

/-- A run lemma for `traceChildren`: what every child keeps holds once all are done. -/
theorem traceChildren_induct {path : Path} {trail : Trail} {j : Json}
    {children : List (PathStep × Trie)} (Q : List (PathStep × Trie) → Capture Cell → Prop)
    (hstep : ∀ done step child vs acc c acc', done ++ [(step, child)] <+: children → Q done acc →
      visits (path ++ [step]) step j = .ok vs →
      captureEach (path ++ [step])
        (fun v => traceAt (path ++ [step]) (trail ++ [v.2]) v.1.1 v.1.2 child) []
        vs.zipIdx = .ok c →
      acc.merge c = .ok acc' → Q (done ++ [(step, child)]) acc')
    {acc result : Capture Cell} (h0 : Q [] acc)
    (h : traceChildren path trail j acc children = .ok result) : Q children result := by
  have hgen : ∀ (rest done : List (PathStep × Trie)) (acc : Capture Cell),
      done ++ rest = children → Q done acc → traceChildren path trail j acc rest = .ok result →
        Q children result := by
    intro rest
    induction rest with
    | nil =>
      intro done acc hdone hq h
      obtain rfl := Except.ok.inj h
      rw [List.append_nil] at hdone
      rwa [← hdone]
    | cons first rest ih =>
      intro done acc hdone hq h
      obtain ⟨step, child⟩ := first
      rw [traceChildren] at h
      obtain ⟨vs, hv, h⟩ := bind_eq_ok.1 h
      obtain ⟨c, hc, h⟩ := bind_eq_ok.1 h
      obtain ⟨acc', hm, h⟩ := bind_eq_ok.1 h
      have hdone' : (done ++ [(step, child)]) ++ rest = children := by simpa using hdone
      exact ih _ acc' hdone'
        (hstep done step child vs acc c acc' ⟨rest, hdone'⟩ hq hv hc (mergeAt_eq_ok.1 hm)) h
  exact hgen children [] acc rfl h0 h

/-- A prefix of children has different names where all children have. -/
theorem nodup_of_isPrefix {done children : List (PathStep × Trie)} (h : done <+: children)
    (hn : ((childEntries children).map (·.1)).Nodup) : ((childEntries done).map (·.1)).Nodup := by
  obtain ⟨rest, rfl⟩ := h
  rw [childEntries_append, List.map_append] at hn
  exact (List.nodup_append.1 hn).1

/-- Walking a tree captures its entries. -/
theorem captures_traceAt (t : Trie) (hn : (t.entries.map (·.1)).Nodup) (path : Path) (trail : Trail)
    (key : Option String) (j : Json) (c : Capture Cell) (h : traceAt path trail key j t = .ok c) :
    Captures (path.readAt trail key j) t.entries c := by
  induction t using Trie.induct generalizing path trail key j c with
  | node fields children ih =>
    have hn' : ((childEntries children).map (·.1)).Nodup := by
      rw [entries, List.map_append] at hn
      exact (List.nodup_append.1 hn).1
    rw [traceAt] at h
    obtain ⟨c₁, hc₁, hnode⟩ := bind_eq_ok.1 h
    have hchildren : Captures (path.readAt trail key j) (childEntries children) c₁ := by
      refine traceChildren_induct
        (fun done acc => Captures (path.readAt trail key j) (childEntries done) acc)
        ?_ (captures_nil (by simp [childEntries])) hc₁
      intro done step child vs acc c acc' hdone hacc hv hc hm
      have hnd := nodup_of_isPrefix hdone hn'
      have hmem : (step, child) ∈ children := hdone.subset (by simp)
      have heach := captures_captureEach (fun v c => ih (step, child) hmem
        (nodup_of_mem_children hn' hmem) (path ++ [step]) (trail ++ [v.2]) v.1.1 v.1.2 c) hc
      simp only [childEntries_append, childEntries, List.append_nil] at hnd ⊢
      exact hacc.merge_apart (heach.underStep hv key) hnd hm
    split_ifs at hnode with hf
    · obtain rfl := List.isEmpty_iff.1 hf
      obtain rfl := Except.ok.inj hnode
      simpa [entries] using hchildren
    · exact hchildren.merge_apart (captures_fieldCells fields _ rfl) hn (mergeAt_eq_ok.1 hnode)

/-- Capturing fields together captures each of them. -/
theorem captures_trace {fields : List (String × Path)} (hn : (fields.map (·.1)).Nodup) {j : Json}
    {c : Capture Cell} (h : (ofFields fields).trace j = .ok c) :
    Captures (fun p => p.read j) fields c := by
  have hperm := entries_ofFields fields
  have hc := captures_traceAt (ofFields fields) ((hperm.map (·.1)).nodup_iff.2 hn) [] [] none j c h
  exact ⟨hc.regular, fun n hcn => (hperm.map (·.1)).mem_iff.1 (hc.declared n hcn),
    fun f hf => hc.column f (hperm.mem_iff.2 hf)⟩

/-- A field on its own captures what it reads. -/
theorem capture_singleton {f : String × Path} {j : Json} {cells : List Cell}
    (h : f.2.read j = .ok cells) : (ofFields [f]).capture j = .ok (ofCells f.1 cells).erase := by
  rw [← trace_erase, trace_singleton, h]
  rfl

/-- **A field captured with others keeps its column.** If fields with different names can be
captured together, each can be captured alone. It has a column in one capture if and only if it has
one in the other, and the joint column is the single one with every cell repeated one or more
times. -/
theorem capture_column {fields : List (String × Path)} (hn : (fields.map (·.1)).Nodup) {j : Json}
    {c : Capture} (h : (ofFields fields).capture j = .ok c) {f : String × Path} (hf : f ∈ fields) :
    ∃ alone, (ofFields [f]).capture j = .ok alone ∧
      (c.hasColumn f.1 ↔ alone.hasColumn f.1) ∧
      ∀ cells, c.column? f.1 = some cells →
        ∃ own, alone.column? f.1 = some own ∧ Stretch own cells := by
  rw [← trace_erase] at h
  obtain ⟨t, ht, rfl⟩ := map_eq_ok.1 h
  obtain ⟨read, hr, hh⟩ := (captures_trace hn ht).column f hf
  refine ⟨_, capture_singleton hr, ?_⟩
  simp only [hasColumn, column?_erase, column?_ofCells]
  by_cases hread : read = []
  · subst hread
    have hnone := column?_eq_none_iff.2 (holds_nil.1 hh)
    simp [hnone, columnOf]
  · obtain ⟨xs, hxs, hs⟩ := (holds_of_ne_nil hread).1 hh
    rw [hxs, columnOf_of_ne_nil hread]
    refine ⟨by simp, fun cells hcells => ⟨_, rfl, ?_⟩⟩
    rw [← Option.some.inj hcells]
    exact hs.map Cell.value

/-- A count beside the items it counts is repeated in every row. -/
theorem capture_column_count :
    let fields := [("count", [.key "count"]), ("id", [.key "items", .allElements, .key "id"])]
    let document := Json.obj [("count", .int 2),
      ("items", .arr [.obj [("id", .int 7)], .obj [("id", .int 8)]])]
    let c := [("count", [Json.int 2, .int 2]), ("id", [.int 7, .int 8])]
    (fields.map (·.1)).Nodup ∧ (ofFields fields).capture document = .ok c ∧
      ∃ alone, (ofFields [("count", [.key "count"])]).capture document = .ok alone ∧
        (hasColumn c "count" ↔ alone.hasColumn "count") ∧
        ∀ cells, column? c "count" = some cells →
          ∃ own, alone.column? "count" = some own ∧ Stretch own cells := by
  intro fields document c
  have hn : (fields.map (·.1)).Nodup := by decide
  have h : (ofFields fields).capture document = .ok c := rfl
  exact ⟨hn, h, capture_column hn h (List.mem_cons_self ..)⟩

end Trie
end TableScript
