import TableScript.Proofs.Capture.Columns

/-!
# What the error of a capture says

Fields are captured together, and the first thing that goes wrong ends the capture of all of them.
`capture_error` says that its error can still be taken at its word: it names the beginning of a
declared path, and unless two captures could not be merged there, it is the very error of a field
that is captured alone.

1. `captureEach_eq_error` and `traceChildren_eq_error` invert the two loops of a capture: what comes
   before the first failure has been captured;
2. what has been captured can be read by each field on its own, so a field below the place that
   failed reads up to this place and fails there (`readEach_eq_error`, `honest_traceAt`).
-/

namespace TableScript

theorem bind_eq_error {α β ε : Type} {x : Except ε α} {f : α → Except ε β} {e : ε} :
    x >>= f = .error e ↔ x = .error e ∨ ∃ a, x = .ok a ∧ f a = .error e := by
  cases x with
  | error e' =>
    constructor
    · intro h
      exact .inl (congrArg Except.error (Except.error.inj h))
    · rintro (h | ⟨a, ha, -⟩)
      · exact congrArg Except.error (Except.error.inj h)
      · cases ha
  | ok a =>
    constructor
    · intro h
      exact .inr ⟨a, rfl, h⟩
    · rintro (h | ⟨a', ha, h⟩)
      · cases h
      · rwa [Except.ok.inj ha]

theorem map_eq_error {α β ε : Type} {x : Except ε α} {f : α → β} {e : ε} :
    f <$> x = .error e ↔ x = .error e := by
  cases x with
  | error e' => rw [Except.map_error, Except.error.injEq, Except.error.injEq]
  | ok a => exact ⟨nofun, nofun⟩

/-- A loop over a list fails where an element fails, if those before it did not. -/
theorem mapM_eq_error {α β ε : Type} {f : α → Except ε β} {done rest : List α} {x : α} {e : ε}
    (hdone : ∀ y ∈ done, ∃ b, f y = .ok b) (hx : f x = .error e) :
    (done ++ x :: rest).mapM f = .error e := by
  induction done with
  | nil =>
    rw [List.nil_append, List.mapM_cons, hx]
    rfl
  | cons y done ih =>
    obtain ⟨⟨b, hb⟩, hdone⟩ := List.forall_mem_cons.1 hdone
    rw [List.cons_append, List.mapM_cons, hb, ih hdone]
    rfl

/-- A loop over a list fails at one of its elements. -/
theorem exists_of_mapM_eq_error {α β ε : Type} {f : α → Except ε β} {as : List α} {e : ε}
    (h : as.mapM f = .error e) : ∃ a ∈ as, f a = .error e := by
  induction as with
  | nil => cases h
  | cons a rest ih =>
    rw [List.mapM_cons] at h
    rcases bind_eq_error.1 h with hfirst | ⟨b, -, h⟩
    · exact ⟨a, List.mem_cons_self, hfirst⟩
    · rcases bind_eq_error.1 h with hrest | ⟨bs, -, h⟩
      · obtain ⟨a', ha', hf⟩ := ih hrest
        exact ⟨a', List.mem_cons_of_mem _ ha', hf⟩
      · cases h

namespace Trie

open Capture

/-! ## Where errors arise -/

/-- A text that says why two captures cannot be merged. -/
def IsMergeReason (reason : String) : Prop :=
  ∃ (a b : Capture Cell) (e : MergeError), a.merge b = .error e ∧ reason = e.message

theorem mergeAt_eq_error {path : Path} {a b : Capture Cell} {e : Fault}
    (h : mergeAt path a b = .error e) :
    ∃ reason, IsMergeReason reason ∧ e = .traversal path.text reason := by
  unfold mergeAt at h
  cases hm : a.merge b with
  | ok c =>
    rw [hm] at h
    cases h
  | error m =>
    rw [hm] at h
    exact ⟨m.message, ⟨a, b, m, hm, rfl⟩, (Except.error.inj h).symm⟩

theorem membersAt_eq_error {path : Path} {j : Json} {e : Fault}
    (h : membersAt path j = .error e) : ∃ reason, e = .traversal path.text reason := by
  unfold membersAt at h
  split at h
  · cases h
  · exact ⟨_, (Except.error.inj h).symm⟩

theorem itemsAt_eq_error {path : Path} {j : Json} {e : Fault}
    (h : itemsAt path j = .error e) : ∃ reason, e = .traversal path.text reason := by
  unfold itemsAt at h
  split at h
  · cases h
  · exact ⟨_, (Except.error.inj h).symm⟩

/-- A step that leads nowhere says so at the path it stands at. -/
theorem visits_eq_error {path : Path} {step : PathStep} {j : Json} {e : Fault}
    (h : visits path step j = .error e) : ∃ reason, e = .traversal path.text reason := by
  cases step with
  | key name =>
    rcases bind_eq_error.1 h with h | ⟨members, -, h⟩
    · exact membersAt_eq_error h
    · split at h
      · cases h
      · exact ⟨_, (Except.error.inj h).symm⟩
  | wildcard =>
    rcases bind_eq_error.1 h with h | ⟨members, -, h⟩
    · exact membersAt_eq_error h
    · cases h
  | allElements =>
    rcases bind_eq_error.1 h with h | ⟨items, -, h⟩
    · exact itemsAt_eq_error h
    · cases h
  | index i =>
    rcases bind_eq_error.1 h with h | ⟨items, -, h⟩
    · exact itemsAt_eq_error h
    · split at h
      · cases h
      · exact ⟨_, (Except.error.inj h).symm⟩

/-- Capturing visits fails at the first visit that fails, or where two captures cannot be merged. -/
theorem captureEach_eq_error {β : Type} {path : Path} {one : β → Except Fault (Capture Cell)}
    {vs : List β} {acc : Capture Cell} {e : Fault} (h : captureEach path one acc vs = .error e) :
    (∃ a b : Capture Cell, mergeAt path a b = .error e) ∨
      ∃ done v rest, vs = done ++ v :: rest ∧ (∀ w ∈ done, ∃ c, one w = .ok c) ∧
        one v = .error e := by
  induction vs generalizing acc with
  | nil => cases h
  | cons v vs ih =>
    rw [captureEach] at h
    rcases bind_eq_error.1 h with hv | ⟨c, hc, h⟩
    · exact .inr ⟨[], v, vs, rfl, fun w hw => absurd hw List.not_mem_nil, hv⟩
    rcases bind_eq_error.1 h with hm | ⟨acc', -, h⟩
    · exact .inl ⟨acc, c, hm⟩
    rcases ih h with hm | ⟨done, w, rest, rfl, hdone, hw⟩
    · exact .inl hm
    · exact .inr ⟨v :: done, w, rest, rfl, List.forall_mem_cons.2 ⟨⟨c, hc⟩, hdone⟩, hw⟩

/-- Capturing children fails at a child: its step leads nowhere, a visit of it fails, or what it
captures cannot be merged. -/
theorem traceChildren_eq_error {path : Path} {trail : Trail} {j : Json} {acc : Capture Cell}
    {children : List (PathStep × Trie)} {e : Fault}
    (h : traceChildren path trail j acc children = .error e) :
    ∃ step child, (step, child) ∈ children ∧
      (visits (path ++ [step]) step j = .error e ∨
        (∃ vs, visits (path ++ [step]) step j = .ok vs ∧
          captureEach (path ++ [step])
            (fun v => traceAt (path ++ [step]) (trail ++ [v.2]) v.1.1 v.1.2 child) []
            vs.zipIdx = .error e) ∨
        ∃ a b : Capture Cell, mergeAt (path ++ [step]) a b = .error e) := by
  induction children generalizing acc with
  | nil => cases h
  | cons first rest ih =>
    obtain ⟨step, child⟩ := first
    rw [traceChildren] at h
    rcases bind_eq_error.1 h with hv | ⟨vs, hv, h⟩
    · exact ⟨step, child, List.mem_cons_self, .inl hv⟩
    rcases bind_eq_error.1 h with hc | ⟨c, -, h⟩
    · exact ⟨step, child, List.mem_cons_self, .inr (.inl ⟨vs, hv, hc⟩)⟩
    rcases bind_eq_error.1 h with hm | ⟨acc', -, h⟩
    · exact ⟨step, child, List.mem_cons_self, .inr (.inr ⟨acc, c, hm⟩)⟩
    obtain ⟨step', child', hmem, hcause⟩ := ih h
    exact ⟨step', child', List.mem_cons_of_mem _ hmem, hcause⟩

/-! ## Errors that can be taken at their word -/

/-- An error at a node: it names the beginning of the path of a field, and the captures there cannot
be merged or the field has this error on its own. -/
def Honest (path : Path) (read : Path → Except Fault (List Cell)) (fields : List (String × Path))
    (e : Fault) : Prop :=
  ∃ f ∈ fields, ∃ p reason, p <+: f.2 ∧ e = .traversal (path ++ p).text reason ∧
    (IsMergeReason reason ∨ read f.2 = .error e)

theorem Honest.mono {path : Path} {read : Path → Except Fault (List Cell)}
    {fields fields' : List (String × Path)} {e : Fault} (h : Honest path read fields e)
    (hsub : fields ⊆ fields') : Honest path read fields' e := by
  obtain ⟨f, hf, hrest⟩ := h
  exact ⟨f, hsub hf, hrest⟩

/-- Captures that cannot be merged at the end of a step, with a field below the step. -/
theorem honest_of_mergeAt {path : Path} {step : PathStep} {read : Path → Except Fault (List Cell)}
    {child : Trie} (hfield : child.entries ≠ []) {a b : Capture Cell} {e : Fault}
    (h : mergeAt (path ++ [step]) a b = .error e) :
    Honest path read (child.entries.map (underStep step)) e := by
  obtain ⟨f, hf⟩ := List.exists_mem_of_ne_nil _ hfield
  obtain ⟨reason, hmerge, he⟩ := mergeAt_eq_error h
  exact ⟨_, List.mem_map_of_mem hf, [step], reason, ⟨f.2, rfl⟩, he, .inl hmerge⟩

/-- A step that leads nowhere fails for every field below it. -/
theorem honest_of_visits {path : Path} {trail : Trail} {key : Option String} {j : Json}
    {step : PathStep} {child : Trie} (hfield : child.entries ≠ []) {e : Fault}
    (h : visits (path ++ [step]) step j = .error e) :
    Honest path (path.readAt trail key j) (child.entries.map (underStep step)) e := by
  obtain ⟨f, hf⟩ := List.exists_mem_of_ne_nil _ hfield
  obtain ⟨reason, he⟩ := visits_eq_error h
  refine ⟨_, List.mem_map_of_mem hf, [step], reason, ⟨f.2, rfl⟩, he, .inr ?_⟩
  rw [underStep, Path.readAt, h]
  rfl

/-- A field fails at a visit, if it can be read from the visits before. -/
theorem readEach_eq_error {below : Path} {trail : Trail} {p : Path}
    {done rest : List ((Option String × Json) × Nat)} {v : (Option String × Json) × Nat} {e : Fault}
    (hdone : ∀ w ∈ done, ∃ cells, below.readAt (trail ++ [w.2]) w.1.1 w.1.2 p = .ok cells)
    (hv : below.readAt (trail ++ [v.2]) v.1.1 v.1.2 p = .error e) :
    readEach below trail (done ++ v :: rest) p = .error e := by
  rw [readEach, mapM_eq_error hdone hv]
  rfl

/-- A visit that fails with an error that is honest about the fields below the step. -/
theorem honest_of_visit {path : Path} {trail : Trail} {key : Option String} {j : Json}
    {step : PathStep} {child : Trie} (hn : (child.entries.map (·.1)).Nodup)
    {vs : List (Option String × Json)} (hvs : visits (path ++ [step]) step j = .ok vs)
    {done rest : List ((Option String × Json) × Nat)} {v : (Option String × Json) × Nat}
    (hsplit : vs.zipIdx = done ++ v :: rest) {e : Fault}
    (hdone : ∀ w ∈ done, ∃ c, traceAt (path ++ [step]) (trail ++ [w.2]) w.1.1 w.1.2 child = .ok c)
    (hv : Honest (path ++ [step]) (Path.readAt (path ++ [step]) (trail ++ [v.2]) v.1.1 v.1.2)
      child.entries e) :
    Honest path (path.readAt trail key j) (child.entries.map (underStep step)) e := by
  obtain ⟨f, hf, p, reason, hp, he, hcause⟩ := hv
  have hp' : step :: p <+: (underStep step f).2 := List.cons_prefix_cons.2 ⟨rfl, hp⟩
  refine ⟨_, List.mem_map_of_mem hf, step :: p, reason, hp', by simpa using he, ?_⟩
  refine hcause.imp_right fun hread => ?_
  rw [underStep, readAt_cons hvs, hsplit]
  refine readEach_eq_error (fun w hw => ?_) hread
  -- the visits before have been captured, so the field can be read from them
  obtain ⟨c, hc⟩ := hdone w hw
  obtain ⟨cells, hcells, -⟩ := (captures_traceAt child hn _ _ _ _ c hc).column f hf
  exact ⟨cells, hcells⟩

/-- Walking a tree: the first error is honest about the fields of the tree. -/
theorem honest_traceAt (t : Trie) (hn : (t.entries.map (·.1)).Nodup) (hends : t.NoDeadEnds)
    (path : Path) (trail : Trail) (key : Option String) (j : Json) (e : Fault)
    (h : traceAt path trail key j t = .error e) :
    Honest path (path.readAt trail key j) t.entries e := by
  induction t using Trie.induct generalizing path trail key j e with
  | node fields children ih =>
    have hn' : ((childEntries children).map (·.1)).Nodup := by
      rw [entries, List.map_append] at hn
      exact (List.nodup_append.1 hn).1
    rw [traceAt] at h
    rw [entries]
    rcases bind_eq_error.1 h with h | ⟨c, -, h⟩
    · obtain ⟨step, child, hmem, hcause⟩ := traceChildren_eq_error h
      obtain ⟨hfield, hchild⟩ := hends.of_mem hmem
      have hnc := nodup_of_mem_children hn' hmem
      have hsub : child.entries.map (underStep step) ⊆
          childEntries children ++ fields.map fun name => (name, []) := by
        rw [childEntries_eq]
        exact fun f hf => List.mem_append_left _ (List.mem_flatMap.2 ⟨_, hmem, hf⟩)
      refine Honest.mono ?_ hsub
      rcases hcause with hv | ⟨vs, hvs, hc⟩ | ⟨a, b, hm⟩
      · exact honest_of_visits hfield hv
      · rcases captureEach_eq_error hc with ⟨a, b, hm⟩ | ⟨done, v, rest, hsplit, hdone, hv⟩
        · exact honest_of_mergeAt hfield hm
        · exact honest_of_visit hnc hvs hsplit hdone (ih _ hmem hnc hchild _ _ _ _ e hv)
      · exact honest_of_mergeAt hfield hm
    · -- only fields that end at this node are left to merge
      split_ifs at h with hf
      · cases h
      · obtain ⟨name, hname⟩ := List.exists_mem_of_ne_nil fields (by simpa using hf)
        obtain ⟨reason, hmerge, he⟩ := mergeAt_eq_error h
        exact ⟨(name, []), List.mem_append_right _ (List.mem_map_of_mem hname), [], reason,
          List.nil_prefix, by simpa using he, .inl hmerge⟩

theorem capture_eq_error {t : Trie} {j : Json} {e : Fault} :
    t.capture j = .error e ↔ t.trace j = .error e := by
  rw [← trace_erase, map_eq_error]

/-- **The error of a capture is honest.** When fields with different names cannot be captured, the
error names a path that the path of a declared field begins with. Its reason is that two captures
cannot be merged, or the error, path and reason, is the one of this field captured alone. -/
theorem capture_error {fields : List (String × Path)} (hn : (fields.map (·.1)).Nodup) {j : Json}
    {e : Fault} (h : (ofFields fields).capture j = .error e) :
    ∃ f ∈ fields, ∃ p reason, p <+: f.2 ∧ e = .traversal (Path.text p) reason ∧
      (IsMergeReason reason ∨ (ofFields [f]).capture j = .error e) := by
  have hperm := entries_ofFields fields
  obtain ⟨f, hf, p, reason, hp, he, hcause⟩ := honest_traceAt (ofFields fields)
    ((hperm.map (·.1)).nodup_iff.2 hn) (noDeadEnds_ofFields fields) [] [] none j e
    (capture_eq_error.1 h)
  refine ⟨f, hperm.mem_iff.1 hf, p, reason, hp, he, hcause.imp_right fun hread => ?_⟩
  rw [capture_eq_error, trace_singleton, Path.read, hread]
  rfl

/-- The second item has no price, and this is what capturing prices alone comes to as well. -/
theorem capture_error_missing_price :
    let fields := [("name", [PathStep.allElements, .key "name"]),
      ("price", [.allElements, .key "price"])]
    let document := Json.arr [.obj [("name", .str "a"), ("price", .int 1)],
      .obj [("name", .str "b")]]
    let e := Fault.traversal "json[].price" "key 'price' not found"
    (fields.map (·.1)).Nodup ∧ (ofFields fields).capture document = .error e ∧
      ∃ f ∈ fields, ∃ p reason, p <+: f.2 ∧ e = .traversal (Path.text p) reason ∧
        (IsMergeReason reason ∨ (ofFields [f]).capture document = .error e) := by
  intro fields document e
  have hn : (fields.map (·.1)).Nodup := by decide
  have h : (ofFields fields).capture document = .error e := rfl
  exact ⟨hn, h, capture_error hn h⟩

end Trie
end TableScript
