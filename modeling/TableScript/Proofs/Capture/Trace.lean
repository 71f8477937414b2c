import TableScript.Capture.Trie
import TableScript.Proofs.Capture.Merge

/-!
# Captures that remember where their cells come from

A path may lead to many places of a document. A `Trail` says which of them was taken: for every step
of the path, the position of the document it went on with among those the step leads to. `trace` is
`capture` with the trail kept beside every cell, and `erase` forgets it again (`trace_erase`).

A field on its own needs no tree: `Path.read` follows the path and appends what it finds.
`trace_singleton` says that this is what the tree of a single field captures.
-/

namespace TableScript

/-- Which document was taken at every step of a path, counted from zero. -/
abbrev Trail := List Nat

/-- A captured cell and how it was reached. -/
structure Cell where
  trail : Trail
  value : Json
  deriving Inhabited

variable {α β γ : Type}

theorem bind_eq_ok {ε : Type} {x : Except ε α} {f : α → Except ε β} {b : β} :
    x >>= f = .ok b ↔ ∃ a, x = .ok a ∧ f a = .ok b := by
  cases x with
  | error e => exact ⟨nofun, nofun⟩
  | ok a => exact ⟨fun h => ⟨a, rfl, h⟩, fun ⟨_, ha, h⟩ => Except.ok.inj ha ▸ h⟩

theorem map_eq_ok {ε : Type} {x : Except ε α} {f : α → β} {b : β} :
    f <$> x = .ok b ↔ ∃ a, x = .ok a ∧ f a = b := by
  cases x with
  | error e => exact ⟨nofun, nofun⟩
  | ok a =>
    exact ⟨fun h => ⟨a, rfl, Except.ok.inj h⟩, fun ⟨_, ha, h⟩ => by rw [ha, ← h]; rfl⟩

/-! ## Merging does not look at cells -/

namespace Capture

/-- Changes every cell. -/
def mapCells (f : α → β) (c : Capture α) : Capture β := c.mapColumns (·.map f)

/-- Forgets where cells come from. -/
def erase (c : Capture Cell) : Capture := c.mapCells Cell.value

@[simp] theorem column?_mapCells (f : α → β) (c : Capture α) (name : String) :
    (c.mapCells f).column? name = (c.column? name).map (·.map f) := column?_mapColumns _ c name

@[simp] theorem column?_erase (c : Capture Cell) (name : String) :
    c.erase.column? name = (c.column? name).map (·.map Cell.value) := column?_mapCells _ c name

@[simp] theorem hasColumn_mapCells (f : α → β) (c : Capture α) (name : String) :
    (c.mapCells f).hasColumn name = c.hasColumn name := by
  simp [hasColumn]

@[simp] theorem length_mapCells (f : α → β) (c : Capture α) : (c.mapCells f).length = c.length :=
  List.length_map _

@[simp] theorem isEmpty_mapCells (f : α → β) (c : Capture α) :
    (c.mapCells f).isEmpty = c.isEmpty := by
  cases c <;> rfl

@[simp] theorem rowCount_mapCells (f : α → β) (c : Capture α) :
    (c.mapCells f).rowCount = c.rowCount := by
  cases c with
  | nil => rfl
  | cons col c => exact List.length_map _

@[simp] theorem sharedCount_mapCells (f : α → β) (a b : Capture α) :
    sharedCount (a.mapCells f) (b.mapCells f) = sharedCount a b := by
  simp only [sharedCount, hasColumn_mapCells]
  rw [mapCells, mapColumns, List.filter_map, List.length_map]
  rfl

theorem mapCells_append (f : α → β) (a b : Capture α) :
    mapCells f (a ++ b) = a.mapCells f ++ b.mapCells f := List.map_append

theorem stack_mapCells (f : α → β) (a b : Capture α) :
    (a.mapCells f).stack (b.mapCells f) = (a.stack b).mapCells f := by
  simp only [stack, column?_mapCells]
  simp only [mapCells, mapColumns, List.map_map]
  refine List.map_congr_left fun col _ => ?_
  obtain ⟨n, cells⟩ := col
  simp only [Function.comp, List.map_append]
  cases b.column? n <;> rfl

theorem broadcast_mapCells [Inhabited α] [Inhabited β] {f : α → β} (hf : f default = default)
    (c : Capture α) (k : Nat) : (c.mapCells f).broadcast k = (c.broadcast k).mapCells f := by
  simp only [broadcast, mapCells, mapColumns, List.map_map]
  refine List.map_congr_left fun col _ => ?_
  obtain ⟨n, cells⟩ := col
  cases cells <;> simp [hf]

theorem merge_mapCells [Inhabited α] [Inhabited β] {f : α → β} (hf : f default = default)
    (a b : Capture α) :
    (a.mapCells f).merge (b.mapCells f) = mapCells f <$> a.merge b := by
  simp only [merge, isEmpty_mapCells, sharedCount_mapCells, length_mapCells, rowCount_mapCells,
    stack_mapCells, broadcast_mapCells hf, ← mapCells_append]
  split_ifs <;> rfl

end Capture

namespace Trie

open Capture

theorem mergeAt_mapCells [Inhabited α] [Inhabited β] {f : α → β} (hf : f default = default)
    (path : Path) (a b : Capture α) :
    mergeAt path (a.mapCells f) (b.mapCells f) = mapCells f <$> mergeAt path a b := by
  rw [mergeAt, mergeAt, merge_mapCells hf]
  cases a.merge b <;> rfl

theorem setMember_mapColumns (f : List α → List β) (name : String) (cells : List α)
    (c : Capture α) :
    Json.setMember name (f cells) (c.mapColumns f) =
      mapColumns f (Json.setMember name cells c) := by
  induction c with
  | nil => rfl
  | cons col c ih =>
    obtain ⟨n, xs⟩ := col
    simp only [mapColumns, List.map_cons, Json.setMember] at ih ⊢
    split_ifs
    · rfl
    · rw [ih]; rfl

theorem fieldCells_mapCells (f : α → β) (fields : List String) (x : α) :
    (fieldCells fields x).mapCells f = fieldCells fields (f x) := by
  -- from any accumulator on, since fields are added one by one
  have hfold : ∀ c : Capture α, mapCells f
      ((fields.map fun n => (n, [x])).foldl (fun acc col => Json.setMember col.1 col.2 acc) c) =
        (fields.map fun n => (n, [f x])).foldl (fun acc col => Json.setMember col.1 col.2 acc)
          (c.mapCells f) := by
    induction fields with
    | nil => intro c; rfl
    | cons n fields ih =>
      intro c
      rw [List.map_cons, List.map_cons, List.foldl_cons, List.foldl_cons, ih]
      congr 1
      exact (setMember_mapColumns (·.map f) n [x] c).symm
  exact hfold []

theorem captureEach_mapCells [Inhabited α] [Inhabited β] {f : α → β} (hf : f default = default)
    (path : Path) (one : γ → Except Fault (Capture α)) (vs : List γ) (acc : Capture α) :
    captureEach path (fun v => mapCells f <$> one v) (acc.mapCells f) vs =
      mapCells f <$> captureEach path one acc vs := by
  induction vs generalizing acc with
  | nil => rfl
  | cons v vs ih =>
    simp only [captureEach, map_bind, bind_map_left, mergeAt_mapCells hf, ih]

theorem captureEach_map [Inhabited α] (path : Path) (g : γ → β) (one : β → Except Fault (Capture α))
    (vs : List γ) (acc : Capture α) :
    captureEach path one acc (vs.map g) = captureEach path (fun v => one (g v)) acc vs := by
  induction vs generalizing acc with
  | nil => rfl
  | cons v vs ih => simp only [List.map_cons, captureEach, ih]

/-! ## Traces -/

mutual

/-- The capture of a document, with trails; `trail` led there. -/
def traceAt (path : Path) (trail : Trail) (key : Option String) (j : Json) :
    Trie → Except Fault (Capture Cell)
  | .node fields children => do
    let c ← traceChildren path trail j [] children
    if fields.isEmpty then return c
    else mergeAt path c (fieldCells fields ⟨trail, cellOf key j⟩)

/-- The capture of a node's children, with trails, merged into what came before. -/
def traceChildren (path : Path) (trail : Trail) (j : Json) (acc : Capture Cell) :
    List (PathStep × Trie) → Except Fault (Capture Cell)
  | [] => .ok acc
  | (step, child) :: rest => do
    let below := path ++ [step]
    let c ← captureEach below (fun v => traceAt below (trail ++ [v.2]) v.1.1 v.1.2 child) []
      (← visits below step j).zipIdx
    traceChildren path trail j (← mergeAt below acc c) rest

end

/-- The capture of a document, with trails. -/
def trace (t : Trie) (j : Json) : Except Fault (Capture Cell) := traceAt [] [] none j t

theorem default_value : (default : Cell).value = default := rfl

theorem mergeAt_erase (path : Path) (a b : Capture Cell) :
    mergeAt path a.erase b.erase = erase <$> mergeAt path a b :=
  mergeAt_mapCells default_value path a b

theorem fieldCells_erase (fields : List String) (x : Cell) :
    (fieldCells fields x).erase = fieldCells fields x.value :=
  fieldCells_mapCells Cell.value fields x

mutual

theorem traceAt_erase (path : Path) (trail : Trail) (key : Option String) (j : Json) :
    ∀ t : Trie, erase <$> traceAt path trail key j t = captureAt path key j t
  | .node fields children => by
    have ih : erase <$> traceChildren path trail j [] children =
        captureChildren path j [] children := traceChildren_erase path trail j [] children
    simp only [traceAt, captureAt, map_bind, ← ih, bind_map_left]
    congr 1
    funext c
    by_cases hf : fields.isEmpty
    · simp only [hf, if_true, map_pure]
    · rw [if_neg hf, if_neg hf, ← mergeAt_erase, fieldCells_erase]

theorem traceChildren_erase (path : Path) (trail : Trail) (j : Json) (acc : Capture Cell) :
    ∀ children : List (PathStep × Trie),
      erase <$> traceChildren path trail j acc children =
        captureChildren path j acc.erase children
  | [] => rfl
  | (step, child) :: rest => by
    have hone : (fun v : (Option String × Json) × Nat =>
          erase <$> traceAt (path ++ [step]) (trail ++ [v.2]) v.1.1 v.1.2 child) =
        fun v => captureAt (path ++ [step]) v.1.1 v.1.2 child :=
      funext fun v => traceAt_erase (path ++ [step]) (trail ++ [v.2]) v.1.1 v.1.2 child
    have heach : ∀ vs : List (Option String × Json),
        captureEach (path ++ [step]) (fun v => captureAt (path ++ [step]) v.1 v.2 child) [] vs =
          erase <$> captureEach (path ++ [step])
            (fun v => traceAt (path ++ [step]) (trail ++ [v.2]) v.1.1 v.1.2 child) []
            vs.zipIdx := by
      intro vs
      have hmap := captureEach_map (path ++ [step]) Prod.fst
        (fun v : Option String × Json => captureAt (path ++ [step]) v.1 v.2 child) vs.zipIdx []
      rw [List.zipIdx_map_fst, ← hone] at hmap
      rw [hmap]
      exact captureEach_mapCells default_value _ _ vs.zipIdx []
    simp only [traceChildren, captureChildren, map_bind, heach, bind_map_left, mergeAt_erase,
      traceChildren_erase path trail j _ rest]

end

/-- **A trace is a capture.** Without its trails it is what the tree captures. -/
theorem trace_erase (t : Trie) (j : Json) : erase <$> t.trace j = t.capture j :=
  traceAt_erase [] [] none j t

/-! ## One field on its own -/

theorem mergeAt_eq_ok [Inhabited α] {path : Path} {a b c : Capture α} :
    mergeAt path a b = .ok c ↔ a.merge b = .ok c := by
  unfold mergeAt
  cases a.merge b with
  | error e => exact ⟨nofun, nofun⟩
  | ok d => simp

/-- A run lemma for `captureEach`: what every visit keeps holds once all are done. -/
theorem captureEach_induct [Inhabited α] {path : Path} {one : β → Except Fault (Capture α)}
    {vs : List β} (Q : List β → Capture α → Prop)
    (hstep : ∀ done v acc c acc', v ∈ vs → Q done acc → one v = .ok c →
      acc.merge c = .ok acc' → Q (done ++ [v]) acc')
    {acc result : Capture α} (h0 : Q [] acc) (h : captureEach path one acc vs = .ok result) :
    Q vs result := by
  have hgen : ∀ (rest done : List β) (acc : Capture α), (∀ v ∈ rest, v ∈ vs) → Q done acc →
      captureEach path one acc rest = .ok result → Q (done ++ rest) result := by
    intro rest
    induction rest with
    | nil =>
      intro done acc _ hq h
      obtain rfl := Except.ok.inj h
      simpa using hq
    | cons v rest ih =>
      intro done acc hsub hq h
      rw [captureEach] at h
      obtain ⟨c, hc, h⟩ := bind_eq_ok.1 h
      obtain ⟨acc', hm, h⟩ := bind_eq_ok.1 h
      have hq' := hstep done v acc c acc' (hsub v (by simp)) hq hc (mergeAt_eq_ok.1 hm)
      simpa using ih (done ++ [v]) acc' (fun w hw => hsub w (by simp [hw])) hq' h
  exact hgen vs [] acc (fun _ h => h) h0 h

end Trie

/-- What a field finds along the rest of its path, one visited document after the other. -/
def Path.readAt (path : Path) (trail : Trail) (key : Option String) (j : Json) :
    Path → Except Fault (List Cell)
  | [] => .ok [⟨trail, Trie.cellOf key j⟩]
  | step :: rest => do
    let below := path ++ [step]
    let found ← (← Trie.visits below step j).zipIdx.mapM fun v =>
      readAt below (trail ++ [v.2]) v.1.1 v.1.2 rest
    return found.flatten

/-- What a field with this path finds in a document. -/
def Path.read (p : Path) (j : Json) : Except Fault (List Cell) := Path.readAt [] [] none j p

/-- The capture with a single column, and none at all when it has no cells. -/
def Capture.ofCells (name : String) : List α → Capture α
  | [] => []
  | x :: xs => [(name, x :: xs)]

namespace Trie

open Capture

@[simp] theorem column?_ofCells (name : String) (cells : List α) :
    (ofCells name cells).column? name = columnOf cells := by
  cases cells with
  | nil => rfl
  | cons x xs => simp [ofCells, column?_cons, columnOf]

theorem merge_ofCells [Inhabited α] (name : String) (xs ys : List α) :
    (ofCells name xs).merge (ofCells name ys) = .ok (ofCells name (xs ++ ys)) := by
  cases xs with
  | nil => rfl
  | cons x xs =>
    cases ys with
    | nil => simp [merge, ofCells]
    | cons y ys => simp [merge, ofCells, sharedCount, hasColumn, column?, stack]

/-- Visits that each find cells of one field append what they find. -/
theorem captureEach_ofCells [Inhabited α] (path : Path) (name : String)
    (r : β → Except Fault (List α)) (vs : List β) (xs : List α) :
    captureEach path (fun v => ofCells name <$> r v) (ofCells name xs) vs =
      (fun found => ofCells name (xs ++ found.flatten)) <$> vs.mapM r := by
  induction vs generalizing xs with
  | nil => simp [captureEach]; rfl
  | cons v vs ih =>
    simp only [captureEach, List.mapM_cons, map_bind, bind_map_left, map_pure]
    congr 1
    funext ys
    rw [mergeAt, merge_ofCells]
    exact (ih (xs ++ ys)).trans (by simp [List.append_assoc])

theorem traceAt_single (path : Path) (trail : Trail) (key : Option String) (j : Json)
    (name : String) (p : Path) :
    traceAt path trail key j (single name p) = ofCells name <$> path.readAt trail key j p := by
  induction p generalizing path trail key j with
  | nil => rfl
  | cons step p ih =>
    have heach := fun vs : List (Option String × Json) =>
      captureEach_ofCells (path ++ [step]) name
        (fun v => Path.readAt (path ++ [step]) (trail ++ [v.2]) v.1.1 v.1.2 p) vs.zipIdx []
    simp only [ofCells, List.nil_append] at heach
    simp only [single, traceAt, traceChildren, Path.readAt, ih, map_bind, bind_assoc, heach,
      bind_map_left]
    rfl

theorem ofFields_singleton (name : String) (p : Path) : ofFields [(name, p)] = single name p := by
  cases p <;> rfl

/-- The tree of a single field captures what the field reads. -/
theorem trace_singleton (name : String) (p : Path) (j : Json) :
    (ofFields [(name, p)]).trace j = ofCells name <$> p.read j := by
  rw [ofFields_singleton]
  exact traceAt_single [] [] none j name p

end Trie
end TableScript
