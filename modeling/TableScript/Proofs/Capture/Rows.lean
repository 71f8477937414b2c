import Mathlib.Data.List.Forall2
import Mathlib.Data.List.Lex
import TableScript.Proofs.Capture.Columns

/-!
# Rows and the elements their cells come from

Two fields whose paths begin alike go through the same elements on the way. A row may still hold
cells of different elements: when one element has cells for one field only and another element for
the other field only, merging sets them side by side (`row_mixes_elements`).

This is the only way it happens. `rows_share_element_iff` says that all rows of two fields hold
cells of one element each if and only if the elements that have cells for one field are those that
have cells for the other.

1. the trails a path reads are in order, so the rows of an element stand together;
2. elements that have cells for both fields or for none keep the two columns `Paired`, by induction
   on the common part of the paths.
-/

namespace TableScript

/-- Two cells come from the same element: their trails agree on the first `n` steps. -/
def SameElement (n : Nat) (x y : Cell) : Prop := x.trail.take n = y.trail.take n

/-- The elements that some cells come from, by the first `n` steps of their trails. -/
def IsElement (n : Nat) (cells : List Cell) (e : Trail) : Prop := ∃ x ∈ cells, x.trail.take n = e

/-- The cells of one element stand together. -/
def InBlocks (n : Nat) (cells : List Cell) : Prop :=
  ∀ x y z, [x, y, z].Sublist cells → SameElement n x z → SameElement n x y

namespace Trie

open Capture

/-! ## The trails of a reading -/

theorem mapM_eq_ok {α β ε : Type} {f : α → Except ε β} {xs : List α} {ys : List β} :
    xs.mapM f = .ok ys ↔ List.Forall₂ (fun x y => f x = .ok y) xs ys := by
  induction xs generalizing ys with
  | nil =>
    rw [List.mapM_nil, List.forall₂_nil_left_iff]
    exact ⟨fun h => (Except.ok.inj h).symm, fun h => h ▸ rfl⟩
  | cons x xs ih =>
    simp only [List.mapM_cons, bind_eq_ok, List.forall₂_cons_left_iff, ← ih]
    constructor
    · rintro ⟨y, hy, ys', hys', h⟩
      exact ⟨y, ys', hy, hys', (Except.ok.inj h).symm⟩
    · rintro ⟨y, ys', hy, hys', rfl⟩
      exact ⟨y, hy, ys', hys', rfl⟩

theorem readEach_eq_ok {below : Path} {trail : Trail} {vs : List ((Option String × Json) × Nat)}
    {p : Path} {cells : List Cell} :
    readEach below trail vs p = .ok cells ↔ ∃ found, found.flatten = cells ∧
      List.Forall₂ (fun v own => below.readAt (trail ++ [v.2]) v.1.1 v.1.2 p = .ok own)
        vs found := by
  simp only [readEach, bind_eq_ok, mapM_eq_ok]
  constructor
  · rintro ⟨found, h, hf⟩
    exact ⟨found, Except.ok.inj hf, h⟩
  · rintro ⟨found, rfl, h⟩
    exact ⟨found, h, rfl⟩

theorem exists_mem_of_forall₂ {α β : Type} {R : α → β → Prop} {xs : List α} {ys : List β}
    (h : List.Forall₂ R xs ys) :
    (∀ x ∈ xs, ∃ y ∈ ys, R x y) ∧ ∀ y ∈ ys, ∃ x ∈ xs, R x y := by
  induction h with
  | nil => simp
  | cons hxy _ ih =>
    constructor
    · refine List.forall_mem_cons.2 ⟨⟨_, List.mem_cons_self, hxy⟩, fun x hx => ?_⟩
      obtain ⟨y, hy, h⟩ := ih.1 x hx
      exact ⟨y, List.mem_cons_of_mem _ hy, h⟩
    · refine List.forall_mem_cons.2 ⟨⟨_, List.mem_cons_self, hxy⟩, fun y hy => ?_⟩
      obtain ⟨x, hx, h⟩ := ih.2 y hy
      exact ⟨x, List.mem_cons_of_mem _ hx, h⟩

/-- The cells read from several visits are those read from one of them. -/
theorem mem_readEach {below : Path} {trail : Trail} {vs : List ((Option String × Json) × Nat)}
    {p : Path} {cells : List Cell} (h : readEach below trail vs p = .ok cells) {x : Cell} :
    x ∈ cells ↔ ∃ v ∈ vs, ∃ own, below.readAt (trail ++ [v.2]) v.1.1 v.1.2 p = .ok own ∧
      x ∈ own := by
  obtain ⟨found, rfl, hall⟩ := readEach_eq_ok.1 h
  obtain ⟨hvs, hfound⟩ := exists_mem_of_forall₂ hall
  rw [List.mem_flatten]
  constructor
  · rintro ⟨own, hown, hx⟩
    obtain ⟨v, hv, hread⟩ := hfound own hown
    exact ⟨v, hv, own, hread, hx⟩
  · rintro ⟨v, hv, own, hread, hx⟩
    obtain ⟨own', hown', hread'⟩ := hvs v hv
    obtain rfl := Except.ok.inj (hread.symm.trans hread')
    exact ⟨own, hown', hx⟩

theorem readAt_cons_eq_ok {path : Path} {trail : Trail} {key : Option String} {j : Json}
    {step : PathStep} {p : Path} {cells : List Cell} :
    path.readAt trail key j (step :: p) = .ok cells ↔ ∃ vs,
      visits (path ++ [step]) step j = .ok vs ∧
        readEach (path ++ [step]) trail vs.zipIdx p = .ok cells := by
  rw [Path.readAt, bind_eq_ok]
  rfl

/-- Reading goes on from the trail that led to the document. -/
theorem trail_isPrefix {path : Path} {trail : Trail} {key : Option String} {j : Json} {p : Path}
    {cells : List Cell} (h : path.readAt trail key j p = .ok cells) :
    ∀ x ∈ cells, trail <+: x.trail := by
  induction p generalizing path trail key j cells with
  | nil =>
    obtain rfl := Except.ok.inj h
    simp
  | cons step p ih =>
    obtain ⟨vs, -, heach⟩ := readAt_cons_eq_ok.1 h
    intro x hx
    obtain ⟨v, -, own, hread, hx⟩ := (mem_readEach heach).1 hx
    exact (List.prefix_append trail [v.2]).trans (ih hread x hx)

theorem take_append_cons (trail : Trail) {n : Nat} (hn : trail.length < n) (i : Nat) (u : Trail) :
    (trail ++ i :: u).take n = trail ++ i :: u.take (n - trail.length - 1) := by
  rw [List.take_append, List.take_of_length_le (by omega)]
  obtain ⟨k, hk⟩ : ∃ k, n - trail.length = k + 1 := ⟨n - trail.length - 1, by omega⟩
  rw [hk, List.take_succ_cons, Nat.add_sub_cancel]

/-- Trails that part at a step are ordered by it. -/
theorem take_le_take_of_lt {trail : Trail} {i i' : Nat} (hi : i < i') {a b : Trail}
    (ha : trail ++ [i] <+: a) (hb : trail ++ [i'] <+: b) (n : Nat) : a.take n ≤ b.take n := by
  obtain ⟨u, rfl⟩ := ha
  obtain ⟨w, rfl⟩ := hb
  rw [List.append_assoc, List.append_assoc, List.singleton_append, List.singleton_append]
  by_cases hn : trail.length < n
  · rw [take_append_cons trail hn, take_append_cons trail hn]
    exact le_of_lt (List.append_left_lt (List.cons_lt_cons_iff.2 (.inl hi)))
  · rw [List.take_append_of_le_length (by omega), List.take_append_of_le_length (by omega)]

/-- Visits in order, each of which reads cells in order, read all cells in order. -/
theorem pairwise_flatten {below : Path} {trail : Trail} {p : Path} {n : Nat}
    (ih : ∀ {trail key j cells}, below.readAt trail key j p = .ok cells →
      cells.Pairwise fun x y => x.trail.take n ≤ y.trail.take n)
    {vs : List ((Option String × Json) × Nat)} {found : List (List Cell)}
    (hall : List.Forall₂
      (fun v own => below.readAt (trail ++ [v.2]) v.1.1 v.1.2 p = .ok own) vs found)
    (hvs : vs.Pairwise fun v w => v.2 < w.2) :
    found.flatten.Pairwise fun x y => x.trail.take n ≤ y.trail.take n := by
  induction hall with
  | nil => exact .nil
  | cons hread hall ihall =>
    obtain ⟨hv, hvs⟩ := List.pairwise_cons.1 hvs
    rw [List.flatten_cons]
    refine List.pairwise_append.2 ⟨ih hread, ihall hvs, fun x hx y hy => ?_⟩
    obtain ⟨own, hown, hy⟩ := List.mem_flatten.1 hy
    obtain ⟨w, hw, hread'⟩ := (exists_mem_of_forall₂ hall).2 own hown
    exact take_le_take_of_lt (hv w hw) (trail_isPrefix hread x hx) (trail_isPrefix hread' y hy) n

/-- What a path reads is in the order of the trails. -/
theorem pairwise_readAt {path : Path} {trail : Trail} {key : Option String} {j : Json} {p : Path}
    {cells : List Cell} (h : path.readAt trail key j p = .ok cells) (n : Nat) :
    cells.Pairwise fun x y => x.trail.take n ≤ y.trail.take n := by
  induction p generalizing path trail key j cells with
  | nil =>
    obtain rfl := Except.ok.inj h
    exact List.pairwise_singleton _ _
  | cons step p ih =>
    obtain ⟨vs, -, heach⟩ := readAt_cons_eq_ok.1 h
    obtain ⟨found, rfl, hall⟩ := readEach_eq_ok.1 heach
    have hvs : vs.zipIdx.Pairwise fun v w => v.2 < w.2 := by
      rw [← List.pairwise_map, List.zipIdx_map_snd]
      exact List.pairwise_lt_range'
    exact pairwise_flatten ih hall hvs

/-- Cells in the order of their trails stand in blocks, one for each element. -/
theorem inBlocks_of_pairwise {n : Nat} {cells : List Cell}
    (h : cells.Pairwise fun x y => x.trail.take n ≤ y.trail.take n) : InBlocks n cells := by
  intro x y z hsub hxz
  obtain ⟨hx, hyz⟩ := List.pairwise_cons.1 (h.sublist hsub)
  have hxy := hx y (by simp)
  have hyz := (List.pairwise_cons.1 hyz).1 z (by simp)
  rw [SameElement] at hxz
  exact le_antisymm hxy (hxz ▸ hyz)

/-! ## Elements with cells for both fields or for none -/

/-- The same elements have cells on both sides. -/
def SameElements (n : Nat) (xs ys : List Cell) : Prop := ∀ e, IsElement n xs e ↔ IsElement n ys e

theorem SameElements.symm {n : Nat} {xs ys : List Cell} (h : SameElements n xs ys) :
    SameElements n ys xs := fun e => (h e).symm

theorem SameElements.eq_nil {n : Nat} {xs ys : List Cell} (h : SameElements n xs ys)
    (hx : xs = []) : ys = [] := by
  subst hx
  refine List.eq_nil_iff_forall_not_mem.2 fun y hy => ?_
  obtain ⟨x, hx, -⟩ := (h _).2 ⟨y, hy, rfl⟩
  cases hx

theorem index_eq_of_take_eq {trail : Trail} {i i' n : Nat} (hn : trail.length < n) {a b : Trail}
    (ha : trail ++ [i] <+: a) (hb : trail ++ [i'] <+: b) (h : a.take n = b.take n) : i = i' := by
  obtain ⟨u, rfl⟩ := ha
  obtain ⟨w, rfl⟩ := hb
  rw [List.append_assoc, List.append_assoc, List.singleton_append, List.singleton_append,
    take_append_cons trail hn, take_append_cons trail hn] at h
  exact (List.cons.inj (List.append_cancel_left h)).1

theorem eq_of_mem_zipIdx {α : Type} {vs : List α} {v w : α × Nat} (hv : v ∈ vs.zipIdx)
    (hw : w ∈ vs.zipIdx) (h : v.2 = w.2) : v = w := by
  have hv' := List.mk_mem_zipIdx_iff_getElem?.1 hv
  have hw' := List.mk_mem_zipIdx_iff_getElem?.1 hw
  rw [h, hw'] at hv'
  exact Prod.ext (Option.some.inj hv').symm h

/-- Elements that agree over all visits agree over each of them. -/
theorem isElement_of_visit {below : Path} {trail : Trail} {vs : List (Option String × Json)}
    {p q : Path} {n : Nat} (hn : trail.length < n) {xs ys xs' ys' : List Cell}
    (hx : readEach below trail vs.zipIdx p = .ok xs)
    (hy : readEach below trail vs.zipIdx q = .ok ys)
    (h : SameElements n xs ys) {v : (Option String × Json) × Nat} (hv : v ∈ vs.zipIdx)
    (hx' : below.readAt (trail ++ [v.2]) v.1.1 v.1.2 p = .ok xs')
    (hy' : below.readAt (trail ++ [v.2]) v.1.1 v.1.2 q = .ok ys') {e : Trail}
    (he : IsElement n xs' e) : IsElement n ys' e := by
  obtain ⟨x, hxmem, rfl⟩ := he
  obtain ⟨y, hymem, heq⟩ := (h _).1 ⟨x, (mem_readEach hx).2 ⟨v, hv, xs', hx', hxmem⟩, rfl⟩
  obtain ⟨w, hw, own, hread, hyown⟩ := (mem_readEach hy).1 hymem
  -- the cell found on the other side comes from the same visit
  have hi : v.2 = w.2 := index_eq_of_take_eq hn (trail_isPrefix hx' x hxmem)
    (trail_isPrefix hread y hyown) heq.symm
  obtain rfl := eq_of_mem_zipIdx hv hw hi
  obtain rfl := Except.ok.inj (hread.symm.trans hy')
  exact ⟨y, hyown, heq⟩

theorem sameElements_of_visit {below : Path} {trail : Trail} {vs : List (Option String × Json)}
    {p q : Path} {n : Nat} (hn : trail.length < n) {xs ys xs' ys' : List Cell}
    (hx : readEach below trail vs.zipIdx p = .ok xs)
    (hy : readEach below trail vs.zipIdx q = .ok ys)
    (h : SameElements n xs ys) {v : (Option String × Json) × Nat} (hv : v ∈ vs.zipIdx)
    (hx' : below.readAt (trail ++ [v.2]) v.1.1 v.1.2 p = .ok xs')
    (hy' : below.readAt (trail ++ [v.2]) v.1.1 v.1.2 q = .ok ys') : SameElements n xs' ys' :=
  fun _ => ⟨isElement_of_visit hn hx hy h hv hx' hy',
    isElement_of_visit hn hy hx h.symm hv hy' hx'⟩

/-! ## Paired columns -/

theorem paired_of_not_mem {R : Cell → Cell → Prop} {c : Capture Cell} {f g : String}
    (hf : f ∉ c.names) (hg : g ∉ c.names) : Paired R c f g := by
  rw [Paired, column?_eq_none_iff.2 hf, column?_eq_none_iff.2 hg]
  exact .none

theorem forall₂_of_length_eq {R : Cell → Cell → Prop} {us vs : List Cell}
    (hl : us.length = vs.length) (h : ∀ x ∈ us, ∀ y ∈ vs, R x y) : List.Forall₂ R us vs :=
  List.forall₂_iff_get.2 ⟨hl, fun _ _ _ => h _ (List.get_mem _ _) _ (List.get_mem _ _)⟩

/-- Columns whose cells all come from one element are paired, if both are there or none. -/
theorem paired_of_holds {R : Cell → Cell → Prop} {c : Capture Cell} {rows : Nat}
    (hc : c.Regular rows) {f g : String} {xs ys : List Cell} (hf : c.Holds f xs) (hg : c.Holds g ys)
    (hnil : xs = [] ↔ ys = []) (hall : ∀ x ∈ xs, ∀ y ∈ ys, R x y) : Paired R c f g := by
  by_cases hx : xs = []
  · exact paired_of_not_mem (hf.eq_nil_iff.1 hx) (hg.eq_nil_iff.1 (hnil.1 hx))
  · obtain ⟨us, hus, hsu⟩ := (holds_of_ne_nil hx).1 hf
    obtain ⟨vs, hvs, hsv⟩ := (holds_of_ne_nil (fun h => hx (hnil.2 h))).1 hg
    rw [Paired, hus, hvs]
    refine .some (forall₂_of_length_eq ((hc.length_eq hus).trans (hc.length_eq hvs).symm) ?_)
    exact fun x hxu y hyv => hall x ((hsu.mem_iff x).1 hxu) y ((hsv.mem_iff y).1 hyv)

theorem sameElement_of_isPrefix {trail : Trail} {x y : Cell} (hx : trail <+: x.trail)
    (hy : trail <+: y.trail) : SameElement trail.length x y :=
  (List.prefix_iff_eq_take.1 hx).symm.trans (List.prefix_iff_eq_take.1 hy)

/-- A regular capture in which two columns are paired. -/
def Matched (R : Cell → Cell → Prop) (f g : String) (c : Capture Cell) : Prop :=
  (∃ rows, c.Regular rows) ∧ Paired R c f g

theorem Matched.merge {R : Cell → Cell → Prop} {f g : String} {a b c : Capture Cell}
    (ha : Matched R f g a) (hb : Matched R f g b) (h : a.merge b = .ok c) : Matched R f g c := by
  obtain ⟨⟨rows, hra⟩, hpa⟩ := ha
  obtain ⟨⟨rows', hrb⟩, hpb⟩ := hb
  obtain ⟨hm, hrc⟩ := merge_ok hra hrb h
  exact ⟨hrc, hm.paired hpa hpb⟩

theorem matched_nil {R : Cell → Cell → Prop} {f g : String} : Matched R f g [] :=
  ⟨⟨1, Regular.nil⟩, paired_of_not_mem (by simp) (by simp)⟩

theorem matched_of_not_mem {R : Cell → Cell → Prop} {f g : String} {c : Capture Cell}
    {read : Path → Except Fault (List Cell)} {fields : List (String × Path)}
    (hc : Captures read fields c) (hf : f ∉ fields.map (·.1)) (hg : g ∉ fields.map (·.1)) :
    Matched R f g c :=
  ⟨hc.regular, paired_of_not_mem (fun h => hf (hc.declared f h)) (fun h => hg (hc.declared g h))⟩

/-- The visits of a child that both fields are below: each of them matches, so all do. -/
theorem matched_visits {below : Path} {trail : Trail} {child : Trie}
    (hn : (child.entries.map (·.1)).Nodup) {f g : String} {p q : Path} (hf : (f, p) ∈ child.entries)
    (hg : (g, q) ∈ child.entries) {n : Nat} (hlen : trail.length < n)
    (ih : ∀ (v : (Option String × Json) × Nat) (c : Capture Cell) (xs ys : List Cell),
      traceAt below (trail ++ [v.2]) v.1.1 v.1.2 child = .ok c →
      below.readAt (trail ++ [v.2]) v.1.1 v.1.2 p = .ok xs →
      below.readAt (trail ++ [v.2]) v.1.1 v.1.2 q = .ok ys →
      SameElements n xs ys → Paired (SameElement n) c f g)
    {vs : List (Option String × Json)} {xs ys : List Cell}
    (hx : readEach below trail vs.zipIdx p = .ok xs)
    (hy : readEach below trail vs.zipIdx q = .ok ys)
    (hs : SameElements n xs ys) {c : Capture Cell}
    (h : captureEach below (fun v => traceAt below (trail ++ [v.2]) v.1.1 v.1.2 child) []
      vs.zipIdx = .ok c) : Matched (SameElement n) f g c := by
  refine captureEach_induct (fun _ acc => Matched (SameElement n) f g acc) ?_ matched_nil h
  intro _ v acc d acc' hv hacc hd hm
  have hcap := captures_traceAt child hn _ _ _ _ _ hd
  obtain ⟨xs', hx', -⟩ := hcap.column _ hf
  obtain ⟨ys', hy', -⟩ := hcap.column _ hg
  have hs' := sameElements_of_visit hlen hx hy hs hv hx' hy'
  exact hacc.merge ⟨hcap.regular, ih v d xs' ys' hd hx' hy' hs'⟩ hm

/-- Walking a tree keeps two fields paired, if the same elements have cells for both. -/
theorem paired_traceAt {f g : String} {p q r : Path} {t : Trie} (ho : t.Ordered)
    (hn : (t.entries.map (·.1)).Nodup) (hf : (f, p ++ q) ∈ t.entries) (hg : (g, p ++ r) ∈ t.entries)
    {path : Path} {trail : Trail} {key : Option String} {j : Json} {c : Capture Cell}
    (h : traceAt path trail key j t = .ok c) {xs ys : List Cell}
    (hx : path.readAt trail key j (p ++ q) = .ok xs)
    (hy : path.readAt trail key j (p ++ r) = .ok ys)
    (hs : SameElements (trail.length + p.length) xs ys) :
    Paired (SameElement (trail.length + p.length)) c f g := by
  -- down the common part of the two paths, one node at a time
  induction p generalizing t path trail key j c xs ys with
  | nil =>
    have hc := captures_traceAt t hn path trail key j c h
    obtain ⟨rows, hrows⟩ := hc.regular
    obtain ⟨xs', hx', hxs⟩ := hc.column _ hf
    obtain ⟨ys', hy', hys⟩ := hc.column _ hg
    obtain rfl := Except.ok.inj (hx.symm.trans hx')
    obtain rfl := Except.ok.inj (hy.symm.trans hy')
    refine paired_of_holds hrows hxs hys ⟨hs.eq_nil, hs.symm.eq_nil⟩ fun x hxm y hym => ?_
    exact sameElement_of_isPrefix (trail_isPrefix hx x hxm) (trail_isPrefix hy y hym)
  | cons step p ih =>
    obtain ⟨fields, children⟩ := t
    have hfc : (f, step :: (p ++ q)) ∈ childEntries children := by simpa [entries] using hf
    have hgc : (g, step :: (p ++ r)) ∈ childEntries children := by simpa [entries] using hg
    have hnames : (node fields children).entries.map (·.1) =
        (childEntries children).map (·.1) ++ fields := by simp [entries, Function.comp_def]
    obtain ⟨hnc, -, hapart⟩ := List.nodup_append.1 (hnames ▸ hn)
    -- both fields are below the one child for this step
    obtain ⟨child, hchild, hfe⟩ := mem_childEntries.1 hfc
    obtain ⟨child', hchild', hge⟩ := mem_childEntries.1 hgc
    obtain rfl := OrderedChildren.eq_of_mem ho hchild hchild'
    obtain ⟨vs, hv, hxe⟩ := readAt_cons_eq_ok.1 hx
    obtain ⟨vs', hv', hye⟩ := readAt_cons_eq_ok.1 hy
    obtain rfl := Except.ok.inj (hv.symm.trans hv')
    have hsteps : ∀ i, trail.length + (step :: p).length = (trail ++ [i]).length + p.length := by
      intro i
      simp only [List.length_cons, List.length_append, List.length_nil]
      omega
    rw [traceAt] at h
    obtain ⟨c₁, hc₁, hnode⟩ := bind_eq_ok.1 h
    have hmatched : Matched (SameElement (trail.length + (step :: p).length)) f g c₁ := by
      refine traceChildren_induct (fun _ acc =>
        Matched (SameElement (trail.length + (step :: p).length)) f g acc) ?_ matched_nil hc₁
      intro done s t us acc d acc' hdone hacc hus hd hm
      have ht : (s, t) ∈ children := hdone.subset (by simp)
      have hnt := nodup_of_mem_children hnc ht
      refine hacc.merge ?_ hm
      by_cases hst : s = step
      · subst hst
        obtain rfl := OrderedChildren.eq_of_mem ho hchild ht
        obtain rfl := Except.ok.inj (hv.symm.trans hus)
        refine matched_visits hnt hfe hge (by simp) ?_ hxe hye hs hd
        intro v e xs' ys' he hx' hy' hs'
        rw [hsteps v.2] at hs' ⊢
        exact ih (ho.ordered_of_mem ht) hnt hfe hge he hx' hy' hs'
      · have hcap := captures_captureEach (fun v => captures_traceAt t hnt _ _ _ _) hd
        have hother : ∀ n ∈ child.entries.map (·.1), n ∉ t.entries.map (·.1) :=
          fun _ => not_mem_of_other_child hnc hchild ht (Ne.symm hst)
        exact matched_of_not_mem hcap (hother f (List.mem_map_of_mem hfe))
          (hother g (List.mem_map_of_mem hge))
    split_ifs at hnode with hfields
    · obtain rfl := Except.ok.inj hnode
      exact hmatched.2
    · -- neither field ends at this node
      have hcells := captures_fieldCells fields ⟨trail, cellOf key j⟩
        (show path.readAt trail key j [] = _ from rfl)
      have hlocal : ∀ {n}, n ∈ (childEntries children).map (·.1) →
          n ∉ (fields.map fun name => (name, ([] : Path))).map (·.1) := by
        intro n hmem hf
        exact hapart _ hmem n (by simpa [Function.comp_def] using hf) rfl
      exact (hmatched.merge (matched_of_not_mem hcells (hlocal (List.mem_map_of_mem hfc))
        (hlocal (List.mem_map_of_mem hgc))) (mergeAt_eq_ok.1 hnode)).2

/-! ## Rows of a capture -/

/-- The column of a field in a trace holds cells the field reads, those of one element together. -/
theorem trace_column {fields : List (String × Path)} (hn : (fields.map (·.1)).Nodup) {j : Json}
    {t : Capture Cell} (ht : (ofFields fields).trace j = .ok t) {f : String × Path}
    (hf : f ∈ fields) {xs us : List Cell} (hx : f.2.read j = .ok xs)
    (hu : t.column? f.1 = some us) (n : Nat) :
    InBlocks n us ∧ ∀ e, IsElement n us e ↔ IsElement n xs e := by
  obtain ⟨xs', hx', hh⟩ := (captures_trace hn ht).column f hf
  obtain rfl := Except.ok.inj (hx.symm.trans hx')
  have hne : xs ≠ [] := fun hnil => hh.eq_nil_iff.1 hnil (mem_names_of_column? hu)
  obtain ⟨us', hus', hs⟩ := (holds_of_ne_nil hne).1 hh
  obtain rfl := Option.some.inj (hu.symm.trans hus')
  have hordered : us.Pairwise fun x y => x.trail.take n ≤ y.trail.take n :=
    hs.pairwise (fun x => le_refl (x.trail.take n)) (pairwise_readAt hx n)
  refine ⟨inBlocks_of_pairwise hordered, fun e => ?_⟩
  simp only [IsElement, hs.mem_iff]

/-- Cells that come from the same elements row by row come from the same elements. -/
theorem isElement_iff_of_forall₂ {n : Nat} {us vs : List Cell}
    (h : List.Forall₂ (SameElement n) us vs) (e : Trail) : IsElement n us e ↔ IsElement n vs e := by
  obtain ⟨hu, hv⟩ := exists_mem_of_forall₂ h
  constructor
  · rintro ⟨x, hx, rfl⟩
    obtain ⟨y, hy, hxy⟩ := hu x hx
    exact ⟨y, hy, hxy.symm⟩
  · rintro ⟨y, hy, rfl⟩
    obtain ⟨x, hx, hxy⟩ := hv y hy
    exact ⟨x, hx, hxy⟩

/-- **Rows share elements when fields do.** Take two fields whose paths begin with the same steps
`p`. Their columns are equally long, and in each the cells of one element of `p` stand together.
All rows hold cells of one element each if and only if the elements with cells for one field are
those with cells for the other. -/
theorem rows_share_element_iff {fields : List (String × Path)} (hn : (fields.map (·.1)).Nodup)
    {j : Json} {c : Capture} (h : (ofFields fields).capture j = .ok c) {f g : String}
    {p q r : Path} (hf : (f, p ++ q) ∈ fields) (hg : (g, p ++ r) ∈ fields) :
    ∃ t, (ofFields fields).trace j = .ok t ∧ t.erase = c ∧
      ∃ xs ys, (p ++ q).read j = .ok xs ∧ (p ++ r).read j = .ok ys ∧
        ∀ us vs, t.column? f = some us → t.column? g = some vs →
          us.length = vs.length ∧ InBlocks p.length us ∧ InBlocks p.length vs ∧
            (List.Forall₂ (SameElement p.length) us vs ↔ SameElements p.length xs ys) := by
  rw [← trace_erase] at h
  obtain ⟨t, ht, rfl⟩ := map_eq_ok.1 h
  have hcap := captures_trace hn ht
  obtain ⟨rows, hrows⟩ := hcap.regular
  obtain ⟨xs, hx, -⟩ := hcap.column _ hf
  obtain ⟨ys, hy, -⟩ := hcap.column _ hg
  refine ⟨t, ht, rfl, xs, ys, hx, hy, fun us vs hu hv => ?_⟩
  obtain ⟨hblocks, helems⟩ := trace_column hn ht hf hx hu p.length
  obtain ⟨hblocks', helems'⟩ := trace_column hn ht hg hy hv p.length
  refine ⟨(hrows.length_eq hu).trans (hrows.length_eq hv).symm, hblocks, hblocks', ?_, ?_⟩
  · intro hall e
    rw [← helems, ← helems']
    exact isElement_iff_of_forall₂ hall e
  · intro hs
    have hperm := entries_ofFields fields
    have hpaired := paired_traceAt (ordered_ofFields fields) ((hperm.map (·.1)).nodup_iff.2 hn)
      (hperm.mem_iff.2 hf) (hperm.mem_iff.2 hg) ht hx hy (by simpa using hs)
    rw [Paired, hu, hv] at hpaired
    simpa using hpaired

/-- Two items with a name and prices each: every row holds a name and a price of one item. -/
theorem rows_share_element_prices :
    let fields := [("name", [PathStep.allElements, .key "name"]),
      ("price", [.allElements, .key "prices", .allElements])]
    let document := Json.arr [.obj [("name", .str "a"), ("prices", .arr [.int 1, .int 2])],
      .obj [("name", .str "b"), ("prices", .arr [.int 3])]]
    let c := [("name", [Json.str "a", .str "a", .str "b"]), ("price", [.int 1, .int 2, .int 3])]
    let names : List Cell := [⟨[0, 0], .str "a"⟩, ⟨[0, 0], .str "a"⟩, ⟨[1, 0], .str "b"⟩]
    let prices : List Cell := [⟨[0, 0, 0], .int 1⟩, ⟨[0, 0, 1], .int 2⟩, ⟨[1, 0, 0], .int 3⟩]
    (fields.map (·.1)).Nodup ∧ (ofFields fields).capture document = .ok c ∧
      (ofFields fields).trace document = .ok [("name", names), ("price", prices)] ∧
      List.Forall₂ (SameElement 1) names prices := by
  intro fields document c names prices
  have hn : (fields.map (·.1)).Nodup := by decide
  have h : (ofFields fields).capture document = .ok c := rfl
  have htrace : (ofFields fields).trace document = .ok [("name", names), ("price", prices)] := rfl
  have hname : ("name", [.allElements] ++ [.key "name"]) ∈ fields := by simp [fields]
  have hprice : ("price", [.allElements] ++ [.key "prices", .allElements]) ∈ fields := by
    simp [fields]
  obtain ⟨t, ht, -, xs, ys, hx, hy, hrows⟩ := rows_share_element_iff hn h hname hprice
  obtain rfl := Except.ok.inj (htrace.symm.trans ht)
  obtain rfl : [⟨[0, 0], .str "a"⟩, ⟨[1, 0], .str "b"⟩] = xs := Except.ok.inj hx
  obtain rfl : prices = ys := Except.ok.inj hy
  -- both items have a name and prices
  have hsame : SameElements 1 [⟨[0, 0], .str "a"⟩, ⟨[1, 0], .str "b"⟩] prices := by
    simp [SameElements, IsElement, prices]
  exact ⟨hn, h, htrace, (hrows names prices rfl rfl).2.2.2.2 hsame⟩

/-- A list of which one item has cells for the first field only and another for the second field
only: the cells stand in one row, and the row mixes the two items. -/
theorem row_mixes_elements :
    let fields := [("f", [PathStep.allElements, .key "a", .allElements]),
      ("g", [.allElements, .key "b", .allElements])]
    let document := Json.arr [.obj [("a", .arr [.int 1]), ("b", .arr [])],
      .obj [("a", .arr []), ("b", .arr [.int 2])]]
    (ofFields fields).capture document = .ok [("f", [.int 1]), ("g", [.int 2])] ∧
      (ofFields fields).trace document =
        .ok [("f", [⟨[0, 0, 0], .int 1⟩]), ("g", [⟨[1, 0, 0], .int 2⟩])] ∧
      ¬ SameElement 1 ⟨[0, 0, 0], .int 1⟩ ⟨[1, 0, 0], .int 2⟩ :=
  ⟨rfl, rfl, by simp [SameElement]⟩

end Trie
end TableScript
