import TableScript.Proofs.Capture.Errors
import TableScript.Proofs.Eval.Binding
import TableScript.Proofs.Eval.Bugs
import TableScript.Proofs.Value.Sorting

/-!
# What blocks do

A block goes through stages: it fetches a document and binds its fields (`FetchResult`), looks at
the lists they hold (`Refused` says what may be wrong with them), sorts the lists together
(`SortResult`) and shows them. Only binding and sorting write to the store, and each of them does so
when nothing can go wrong any more. So a block that fails has bound all of its fields or none, and
sorted none of their lists (`run_result`).
-/

namespace TableScript.Block

open Run

variable {m₀ m m' : Machine} {α β : Type}

theorem bind_eq_of_ok {x : Run α} {f : α → Run β} {a : α} (h : x m = .ok a m') :
    (x >>= f) m = f a m' := by
  change EStateM.bind x f m = _
  unfold EStateM.bind
  rw [h]

/-! ## Fetching -/

/-- The machine that the source of a block leaves. -/
def sourceLeft (ev : Evaluator) : Option Expr → Machine → Machine
  | none, m => m
  | some source, m => (ev.expr source).after m

/-- The fields of a block are bound: what there was is kept, and nothing is written out. -/
structure Fetched (m₀ m : Machine) : Prop where
  grows : m₀.store.Grows m.store
  outline : m₀.store.SameOutline m.store
  scope : m.scope = m₀.scope
  config : m.config = m₀.config
  output : m.output = m₀.output

theorem Fetched.refl (m : Machine) : Fetched m m := ⟨.refl _, .of_scopes_eq rfl, rfl, rfl, rfl⟩

/-- What comes of fetching, when the source has left the machine `m₀`. -/
inductive FetchResult (m₀ : Machine) : EStateM.Result Stop Machine Unit → Prop
  | failure {s : Stop} {m : Machine} : Unwritten m₀ m → FetchResult m₀ (.error s m)
  | fetched {m : Machine} : Fetched m₀ m → FetchResult m₀ (.ok () m)

theorem reads_fetch (url : String) : Reads m₀ (fun _ => True) (fun _ => True) (fetch url) := by
  refine .get_bind fun m h => ?_
  generalize m.transport = transport
  cases transport with
  | none => exact Reads.fail trivial m h
  | mock rules =>
    refine Reads.bind (.emit rfl) (fun _ _ => ?_) m h
    split
    · exact .bind (.log _ _ _) fun _ _ => .of_pure trivial
    · exact .fail trivial
  | scripted answers =>
    refine Reads.bind (.emit rfl) (fun _ _ => ?_) m h
    cases answers with
    | nil => exact .fail trivial
    | cons answer rest =>
      refine .bind (.of_modify fun _ => ⟨rfl, rfl, rfl, rfl⟩) fun _ _ => ?_
      exact (Reads.ensure fun _ _ => trivial).mono fun _ => trivial

/-- Fetching, once the source has a value. -/
def fetchFrom (fields : List String) (span : Option Span) (v : Value) : Run Unit := do
  let url ← atSpan span (ensure v.requireStr)
  log .block .debug ("rad block fetching " ++ url.plain)
  let document ← atSpan span (fetch url.plain)
  bindFields fields document

theorem fetchFields_some (ev : Evaluator) (fields : List String) (e : Expr) :
    fetchFields ev fields (some e) = ev.expr e >>= fetchFrom fields e.span := by
  unfold fetchFields evalText fetchFrom
  simp only [bind_assoc, pure_bind]

theorem fetchFrom_result (fields : List String) (span : Option Span) (v : Value) (m : Machine) :
    FetchResult m (fetchFrom fields span v m) := by
  refine (Reads.atSpan span (Reads.ensure fun _ _ => trivial)).bind_then (R := FetchResult m)
    (.refl m) (fun _ h => .failure h) fun url m₁ _ h₁ => ?_
  refine (Reads.log (F := fun _ => True) _ _ _).bind_then h₁ (fun _ h => .failure h)
    fun _ m₂ _ h₂ => ?_
  refine (Reads.atSpan span (reads_fetch _)).bind_then h₂ (fun _ h => .failure h)
    fun document m₃ _ h₃ => ?_
  have hresult := bindFields_result fields document m₃
  generalize bindFields fields document m₃ = r at hresult
  cases hresult with
  | failure h₄ => exact .failure (h₃.trans h₄)
  | bound _ _ h₄ hbound =>
    have h := h₃.trans h₄
    rw [h₃.store] at hbound
    exact .fetched ⟨hbound.grows, hbound.outline, h.scope, h.config, h.output⟩

theorem fetchFields_result (ev : Evaluator) (fields : List String) (source : Option Expr)
    (m : Machine) : FetchResult (sourceLeft ev source m) (fetchFields ev fields source m) := by
  cases source with
  | none => exact .fetched (.refl m)
  | some e =>
    rw [fetchFields_some]
    change FetchResult ((ev.expr e).after m) (EStateM.bind (ev.expr e) _ m)
    unfold Run.after EStateM.bind
    cases ev.expr e m with
    | ok v m₁ => exact fetchFrom_result fields e.span v m₁
    | error s m₁ => exact .failure (.refl m₁)

/-! ## Looking at the columns -/

/-- The lists that fields hold. -/
abbrev Lists (m : Machine) (fields : List String) (lists : List Nat) : Prop :=
  fields.Forall₂ (fun name a => m.store.lookup? m.scope name = some (.list a)) lists

/-- The columns of a block: what its lists hold. -/
abbrev columnsOf (m : Machine) (lists : List Nat) : List (List Value) := lists.map m.store.items

/-- All columns have as many rows as the first. -/
def Even (m : Machine) (lists : List Nat) : Prop :=
  ∀ a ∈ lists, (m.store.items a).length = Rows.count (columnsOf m lists)

/-- Why a block fails once its fields are bound. -/
inductive Refused (m : Machine) (fields : List String) (sort : Option SortSpec) : Prop
  /-- A field holds no list. -/
  | notList {name : String} : name ∈ fields →
    (∀ a, m.store.lookup? m.scope name ≠ some (.list a)) → Refused m fields sort
  | uneven {lists : List Nat} : Lists m fields lists → ¬ Even m lists → Refused m fields sort
  /-- There is no column to sort by. -/
  | noColumn {named : List (String × SortDirection)} {name : String} {d : SortDirection} :
    sort = some (.columns named) → (name, d) ∈ named → name ∉ fields → Refused m fields sort
  /-- A column to sort by has a cell without a place in the order. -/
  | unsortable {lists : List Nat} {spec : SortSpec} {rules : List SortRule} :
    Lists m fields lists → sort = some spec → sortRules fields spec = .ok rules →
    Rows.Unsortable (columnsOf m lists) rules → Refused m fields sort

theorem reads_lookup {name : String} {F : Fault → Prop}
    (hF : ∀ f, m.store.lookup? m.scope name = none → F f) :
    Reads m (fun v => ∀ a, m.store.lookup? m.scope name = some (.list a) ↔ v = .list a) F
      (lookup name) := by
  refine .get_bind fun m₁ h => ?_
  rw [h.store, h.scope]
  cases hv : m.store.lookup? m.scope name with
  | some v => exact Reads.of_pure (fun _ => Option.some_inj) m₁ h
  | none =>
    cases Builtin.ofName? name with
    | some b => exact Reads.of_pure (fun _ => ⟨nofun, nofun⟩) m₁ h
    | none => exact Reads.fail (hF _ hv) m₁ h

theorem reads_columnList {name : String} {F : Fault → Prop}
    (hF : ∀ f, (∀ a, m.store.lookup? m.scope name ≠ some (.list a)) → F f) :
    Reads m (fun a => m.store.lookup? m.scope name = some (.list a)) F (columnList name) := by
  have hlookup := reads_lookup fun f hnone => hF f fun a h => nomatch hnone.symm.trans h
  refine hlookup.bind fun v hv => ?_
  have hensure : Reads m (v.requireList = .ok ·) F (ensure v.requireList) := by
    refine .ensure fun f hf => hF f fun a ha => ?_
    rw [(hv a).1 ha] at hf
    cases hf
  refine hensure.mono fun {a} ha => (hv a).2 ?_
  cases v <;> cases ha
  rfl

theorem reads_checkRows {first : String} {rows : Nat} {F : Fault → Prop}
    {columns : List (String × List Value)}
    (hF : ∀ f, ∀ c ∈ columns, c.2.length ≠ rows → F f) :
    Reads m (fun _ => ∀ c ∈ columns, c.2.length = rows) F (checkRows first rows columns) := by
  induction columns with
  | nil => exact .of_pure nofun
  | cons column rest ih =>
    obtain ⟨name, cells⟩ := column
    rw [checkRows]
    refine .ite (fun hne => .fail (hF _ _ List.mem_cons_self hne)) fun heq => ?_
    refine (ih fun f c hc => hF f c (List.mem_cons_of_mem _ hc)).mono fun hrest c hc => ?_
    rcases List.mem_cons.1 hc with rfl | hc
    · exact not_not.1 heq
    · exact hrest c hc

section Columns

variable {fields : List String} {sort : Option SortSpec} {lists : List Nat}

/-- Checking the rows of all fields checks that the columns are even. -/
theorem reads_even (first : String) (hlists : Lists m fields lists) :
    Reads m (fun _ => Even m lists) (fun _ => Refused m fields sort)
      (checkRows first (Rows.count (columnsOf m lists)) (fields.zip (columnsOf m lists))) := by
  have hcheck : Reads m (fun _ => ∀ c ∈ fields.zip (columnsOf m lists),
      c.2.length = Rows.count (columnsOf m lists)) (fun _ => Refused m fields sort)
      (checkRows first (Rows.count (columnsOf m lists)) (fields.zip (columnsOf m lists))) := by
    refine reads_checkRows fun _ c hc hne => .uneven hlists fun heven => hne ?_
    obtain ⟨a, ha, hitems⟩ := List.mem_map.1 (List.of_mem_zip hc).2
    exact hitems ▸ heven a ha
  refine hcheck.mono fun hzip a ha => ?_
  have hlength : (columnsOf m lists).length ≤ fields.length := by
    simp [hlists.length_eq]
  have hmem : m.store.items a ∈ (fields.zip (columnsOf m lists)).map Prod.snd := by
    rw [List.map_snd_zip hlength]
    exact List.mem_map_of_mem ha
  obtain ⟨c, hc, hitems⟩ := List.mem_map.1 hmem
  exact hitems ▸ hzip c hc

end Columns

/-! ## Sorting the columns -/

/-- Lists of a store are replaced, and nothing else is. -/
structure Replaced (lists : List Nat) (items : Nat → List Value) (st st' : Store) : Prop where
  replaced : ∀ a ∈ lists, st'.items a = items a
  kept : ∀ a, a ∉ lists → st'.items a = st.items a
  rest : st' = { st with lists := st'.lists }
  size : st'.lists.size = st.lists.size

theorem forM_replaceItems (items : Nat → List Value) (lists : List Nat) (m : Machine)
    (h : ∀ a ∈ lists, m.store.lists.size ≤ a → items a = []) :
    ∃ st, (List.forM (lists.map fun a => (a, items a))
        fun (list, column) => replaceItems list column : Run Unit) m =
      .ok () { m with store := st } ∧ Replaced lists items m.store st := by
  induction lists generalizing m with
  | nil => exact ⟨m.store, rfl, nofun, fun _ _ => rfl, rfl, rfl⟩
  | cons a rest ih =>
    have hsize : (m.store.setItems a (items a)).lists.size = m.store.lists.size :=
      Array.size_setIfInBounds
    obtain ⟨st, hrun, hst⟩ := ih { m with store := m.store.setItems a (items a) } fun b hb hge =>
      h b (List.mem_cons_of_mem _ hb) (hsize ▸ hge)
    refine ⟨st, hrun, fun b hb => ?_, fun b hb => ?_, ?_, hst.size.trans hsize⟩
    · by_cases hmem : b ∈ rest
      · exact hst.replaced b hmem
      · obtain rfl := (List.mem_cons.1 hb).resolve_right hmem
        rw [hst.kept b hmem, Store.items_setItems _ _ _ _ (h b List.mem_cons_self), if_pos rfl]
    · obtain ⟨hne, hmem⟩ := not_or.1 (mt List.mem_cons.2 hb)
      rw [hst.kept b hmem, Store.items_setItems _ _ _ _ (h a List.mem_cons_self), if_neg hne]
    · exact hst.rest

theorem sort_cases (columns : List (List Value)) (rules : List SortRule) :
    (∃ p, Rows.Sorts columns rules p ∧
      Rows.sort columns rules = .ok (columns.map (Rows.reorder p))) ∨
    ∃ f, Rows.Unsortable columns rules ∧ Rows.sort columns rules = .error f := by
  unfold Rows.sort
  by_cases h : Rows.Sortable columns rules
  · refine .inl ⟨_, Rows.sorts_mergeSort h, ?_⟩
    rw [Rows.permutation_eq_ok h]
    rfl
  · obtain ⟨f, hf⟩ := Rows.permutation_eq_error h
    refine .inr ⟨f, not_not.1 (mt Rows.sortable_iff.2 h), ?_⟩
    rw [hf]
    rfl

theorem sortRules_eq_error {fields : List String} {spec : SortSpec} {f : Fault}
    (h : sortRules fields spec = .error f) :
    ∃ named name d, spec = .columns named ∧ (name, d) ∈ named ∧ name ∉ fields := by
  cases spec with
  | general direction => cases h
  | columns named =>
    obtain ⟨⟨name, d⟩, hmem, hrule⟩ := exists_of_mapM_eq_error h
    refine ⟨named, name, d, rfl, hmem, fun hname => ?_⟩
    obtain ⟨column, hcolumn⟩ := Option.isSome_iff_exists.1 (List.isSome_idxOf?.2 hname)
    simp only [hcolumn] at hrule
    cases hrule

/-- The order of the rows: as they are, or sorted. -/
inductive Arranged (fields : List String) (columns : List (List Value)) :
    Option SortSpec → List Nat → Prop
  | asIs : Arranged fields columns none (List.range (Rows.count columns))
  | sorted {spec : SortSpec} {rules : List SortRule} {p : List Nat} :
    sortRules fields spec = .ok rules → Rows.Sorts columns rules p →
    Arranged fields columns (some spec) p

theorem Arranged.perm {fields : List String} {columns : List (List Value)} {sort : Option SortSpec}
    {p : List Nat} (h : Arranged fields columns sort p) :
    p.Perm (List.range (Rows.count columns)) := by
  cases h with
  | asIs => exact .refl _
  | sorted _ hp => exact hp.perm

theorem reorder_range {n : Nat} {column : List Value} (h : column.length = n) :
    Rows.reorder (List.range n) column = column := by
  subst h
  rw [Rows.reorder_eq]
  refine List.ext_getElem (by simp) fun i hi hi' => ?_
  simp [hi']

section Columns

variable {fields : List String} {sort : Option SortSpec} {lists : List Nat}

/-- What comes of sorting the columns of the lists. -/
inductive SortResult (m : Machine) (fields : List String) (sort : Option SortSpec)
    (lists : List Nat) : EStateM.Result Stop Machine (List (List Value)) → Prop
  | failure {f : Fault} {span : Option Span} {m₁ : Machine} : Refused m fields sort →
    Unwritten m m₁ → SortResult m fields sort lists (.error (.unwind (.failure f span)) m₁)
  | arranged {p : List Nat} {m₁ : Machine} : Arranged fields (columnsOf m lists) sort p →
    Replaced lists (fun a => Rows.reorder p (m.store.items a)) m.store m₁.store →
    m₁.config = m.config → m₁.output = m.output →
    SortResult m fields sort lists (.ok ((columnsOf m lists).map (Rows.reorder p)) m₁)

theorem SortResult.noted {x : Run (List (List Value))} {m₁ : Machine}
    (h : SortResult m fields sort lists (x m₁)) : SortResult m fields sort lists (noted x m₁) := by
  unfold Run.noted
  generalize x m₁ = r at h ⊢
  cases h with
  | failure hrefused h => exact .failure hrefused (h.arise _)
  | arranged hp hst hconfig houtput => exact .arranged hp hst hconfig houtput

/-- Columns that are not sorted stay in the order of their rows. -/
theorem sortResult_asIs {m₁ : Machine} (hm : Unwritten m m₁) (heven : Even m lists) :
    SortResult m fields none lists (.ok (columnsOf m lists) m₁) := by
  let p := List.range (Rows.count (columnsOf m lists))
  have hitems : ∀ a ∈ lists, m.store.items a = Rows.reorder p (m.store.items a) :=
    fun a ha => (reorder_range (heven a ha)).symm
  have hcolumns : columnsOf m lists = (columnsOf m lists).map (Rows.reorder p) := by
    rw [List.map_map]
    exact List.map_congr_left hitems
  have hst : Replaced lists (fun a => Rows.reorder p (m.store.items a)) m.store m₁.store := by
    rw [hm.store]
    exact ⟨hitems, fun _ _ => rfl, rfl, rfl⟩
  rw [hcolumns]
  exact .arranged .asIs hst hm.config hm.output

theorem reads_sortRules (m : Machine) (fields : List String) (spec : SortSpec) :
    Reads m (sortRules fields spec = .ok ·) (fun _ => Refused m fields (some spec))
      (lift (sortRules fields spec)) := by
  refine .lift fun f hf => ?_
  obtain ⟨named, name, d, rfl, hmem, hname⟩ := sortRules_eq_error hf
  exact .noColumn rfl hmem hname

theorem reads_sort {spec : SortSpec} {rules : List SortRule} (hlists : Lists m fields lists)
    (hrules : sortRules fields spec = .ok rules) :
    Reads m (fun sorted => ∃ p, Rows.Sorts (columnsOf m lists) rules p ∧
        sorted = (columnsOf m lists).map (Rows.reorder p))
      (fun _ => Refused m fields (some spec)) (lift (Rows.sort (columnsOf m lists) rules)) := by
  obtain ⟨p, hp, hsort⟩ | ⟨f, hbad, hsort⟩ := sort_cases (columnsOf m lists) rules
  · rw [hsort]
    exact .of_pure ⟨p, hp, rfl⟩
  · rw [hsort]
    exact fun _ h => .failure h (.unsortable hlists rfl hrules hbad)

/-- A list that is not there has no cells; then no list has any, and there is nothing to put
back. -/
theorem reorder_eq_nil {p : List Nat} (heven : Even m lists)
    (hp : p.Perm (List.range (Rows.count (columnsOf m lists)))) {a : Nat} (ha : a ∈ lists)
    (hge : m.store.lists.size ≤ a) : Rows.reorder p (m.store.items a) = [] := by
  have hitems : m.store.items a = [] := by
    simp [Store.items, Array.getD_eq_getD_getElem?, hge]
  have hcount := heven a ha
  rw [hitems, List.length_nil] at hcount
  rw [← hcount] at hp
  rw [List.perm_nil.1 hp]
  rfl

theorem sortColumns_result (sort : Option SortSpec) {m₁ : Machine} (hm : Unwritten m m₁)
    (hlists : Lists m fields lists) (heven : Even m lists) :
    SortResult m fields sort lists (sortColumns fields lists (columnsOf m lists) sort m₁) := by
  cases sort with
  | none => exact sortResult_asIs hm heven
  | some spec =>
    refine (reads_sortRules m fields spec).bind_then (R := SortResult m fields (some spec) lists)
      hm .failure fun rules m₂ hrules h₂ => ?_
    refine (reads_sort hlists hrules).bind_then h₂ .failure fun sorted m₃ hsorted h₃ => ?_
    obtain ⟨p, hp, rfl⟩ := hsorted
    obtain ⟨st, hrun, hst⟩ := forM_replaceItems (fun a => Rows.reorder p (m.store.items a)) lists m₃
      fun a ha hge => reorder_eq_nil heven hp.perm ha (h₃.store ▸ hge)
    have hcolumns : (columnsOf m lists).map (Rows.reorder p) =
        lists.map fun a => Rows.reorder p (m.store.items a) := List.map_map
    rw [List.map_prod_left_eq_zip, ← hcolumns] at hrun
    rw [h₃.store] at hst
    rw [bind_eq_of_ok hrun]
    exact .arranged (.sorted hrules hp) hst h₃.config h₃.output

end Columns

/-! ## Showing the columns -/

theorem exists_log (source : LogSource) (level : LogLevel) (text : String) (m : Machine) :
    ∃ m', log source level text m = .ok () m' ∧ Unwritten m m' := by
  have hlog : ReadResult m (fun _ => True) (fun _ => False) (log source level text m) :=
    Reads.log source level text m (.refl m)
  generalize log source level text m = r at hlog ⊢
  cases hlog with
  | value h _ => exact ⟨_, rfl, h⟩
  | failure _ h => exact h.elim

theorem forM_emit (lines : List String) (m : Machine) :
    ∃ m', (List.forM lines fun line => emit (.out line) : Run Unit) m = .ok () m' ∧
      m'.store = m.store ∧ m'.output = m.output ++ lines.map .out := by
  induction lines generalizing m with
  | nil => exact ⟨m, rfl, rfl, (List.append_nil _).symm⟩
  | cons line rest ih =>
    obtain ⟨m', hrun, hstore, houtput⟩ := ih { m with events := m.events.push (.out line) }
    refine ⟨m', hrun, hstore, houtput.trans ?_⟩
    have hline : [Event.out line].filter Event.isOutput = [.out line] := rfl
    simp [Machine.output, hline]

/-- The rows of columns that were reordered, from top to bottom. -/
theorem ofColumns_reorder {n : Nat} {p : List Nat} (hp : p.length = n)
    (columns : List (List Value)) :
    Rows.ofColumns n (columns.map (Rows.reorder p)) =
      p.map fun i => columns.map (·.getD i .null) := by
  rw [Rows.ofColumns_eq]
  refine List.ext_getElem (by simp [hp]) fun i hi hi' => ?_
  simp only [List.length_map] at hi'
  simp [Rows.reorder_eq, hi']

/-- The lines of a table with its rows in an order: the headers, then one line for every row. -/
def orderedLines (st : Store) (colour : Bool) (fields : List String) (columns : List (List Value))
    (p widths : List Nat) : List String :=
  Table.line widths (fields.map Table.header) ::
    p.map fun i => Table.line widths (columns.map fun column =>
      Table.cell st colour (column.getD i .null))

theorem lines_reorder (st : Store) (colour : Bool) (fields : List String) {n : Nat} {p : List Nat}
    (hp : p.length = n) (columns : List (List Value)) :
    ∃ widths, Table.lines st fields (Rows.ofColumns n (columns.map (Rows.reorder p))) colour =
      orderedLines st colour fields columns p widths := by
  rw [ofColumns_reorder hp, Table.lines]
  simp only [List.map_cons, List.map_map, Function.comp_def, orderedLines]
  exact ⟨_, rfl⟩

theorem showTable_eq (fields : List String) {n : Nat} {p : List Nat} (hp : p.length = n)
    (columns : List (List Value)) (m : Machine) :
    ∃ m' widths, showTable fields n (columns.map (Rows.reorder p)) m = .ok () m' ∧
      m'.store = m.store ∧ m'.output = m.output ++
        (orderedLines m.store (m.config.colour.getD false) fields columns p widths).map .out := by
  obtain ⟨widths, hlines⟩ := lines_reorder m.store (m.config.colour.getD false) fields hp columns
  obtain ⟨m', hrun, hstore, houtput⟩ := forM_emit (Table.lines m.store fields
    (Rows.ofColumns n (columns.map (Rows.reorder p))) (m.config.colour.getD false)) m
  rw [hlines] at houtput
  exact ⟨m', widths, hrun, hstore, houtput⟩

/-! ## Blocks -/

/-- A block has come to its end. Its fields held `lists` of one length, and now every one of them,
whether it is held by one field or by several, has its rows in the order `p`; nothing else in the
store has changed. A table was shown with its rows in this order; a request shows nothing. -/
structure Finished (kind : BlockKind) (fields : List String) (sort : Option SortSpec)
    (m : Machine) (lists p : List Nat) (m' : Machine) : Prop where
  held : Lists m fields lists
  perm : p.Perm (List.range (Rows.count (columnsOf m lists)))
  even : Even m lists
  arranged : Arranged fields (columnsOf m lists) sort p
  replaced : Replaced lists (fun a => p.map fun i => (m.store.items a).getD i .null) m.store
    m'.store
  request : kind = .request → m'.output = m.output
  table : kind = .table → ∃ widths, m'.output = m.output ++ (orderedLines m'.store
    (m.config.colour.getD false) fields (columnsOf m lists) p widths).map .out

/-- What comes of a block that changes no columns. -/
inductive BlockResult (ev : Evaluator) (kind : BlockKind) (source : Option Expr)
    (fields : List String) (sort : Option SortSpec) (m : Machine) :
    EStateM.Result Stop Machine Unit → Prop
  /-- Without fields nothing is done. -/
  | noFields {s : Stop} {m' : Machine} : fields = [] → Unwritten m m' →
    BlockResult ev kind source fields sort m (.error s m')
  /-- Nothing is fetched, or nothing bound: nothing was written after the source. -/
  | notBound {s : Stop} {m' : Machine} : fetchFields ev fields source m = .error s m' →
    Unwritten (sourceLeft ev source m) m' → BlockResult ev kind source fields sort m (.error s m')
  /-- The block fails after that: nothing was written once its fields were bound. -/
  | refused {s : Stop} {m₁ m' : Machine} : fetchFields ev fields source m = .ok () m₁ →
    Fetched (sourceLeft ev source m) m₁ → Refused m₁ fields sort → Unwritten m₁ m' →
    BlockResult ev kind source fields sort m (.error s m')
  | finished {m₁ m' : Machine} {lists p : List Nat} : fetchFields ev fields source m = .ok () m₁ →
    Fetched (sourceLeft ev source m) m₁ → Finished kind fields sort m₁ lists p m' →
    BlockResult ev kind source fields sort m (.ok () m')

/-- What a block does with its columns. -/
def arrange (kind : BlockKind) (first : String) (fields : List String) (sort : Option SortSpec)
    (lists : List Nat) (columns : List (List Value)) : Run Unit := do
  let rows := Rows.count columns
  checkRows first rows (fields.zip columns)
  let sorted ← noted (sortColumns fields lists columns sort)
  match kind with
  | .request => log .block .debug ("request block bound " ++ toString rows ++ " row(s)")
  | .table => showTable fields rows sorted

/-- What a block does once its fields are bound. -/
def arrangeFields (kind : BlockKind) (first : String) (fields : List String)
    (sort : Option SortSpec) : Run Unit := do
  let lists ← fields.mapM columnList
  arrange kind first fields sort lists (columnsOf (← get) lists)

theorem run_cons (ev : Evaluator) (kind : BlockKind) (source : Option Expr) (first : String)
    (rest : List String) (sort : Option SortSpec) :
    run ev kind source (first :: rest) sort [] = (fetchFields ev (first :: rest) source >>=
      fun _ => arrangeFields kind first (first :: rest) sort) := rfl

/-- What comes of a block once its fields are bound. -/
inductive LateResult (kind : BlockKind) (fields : List String) (sort : Option SortSpec)
    (m : Machine) : EStateM.Result Stop Machine Unit → Prop
  | refused {s : Stop} {m' : Machine} : Refused m fields sort → Unwritten m m' →
    LateResult kind fields sort m (.error s m')
  | finished {m' : Machine} {lists p : List Nat} : Finished kind fields sort m lists p m' →
    LateResult kind fields sort m (.ok () m')

theorem arrange_result {kind : BlockKind} (first : String) {fields : List String}
    {sort : Option SortSpec} {lists : List Nat} (hlists : Lists m fields lists) {m₁ : Machine}
    (h₁ : Unwritten m m₁) :
    LateResult kind fields sort m
      (arrange kind first fields sort lists (columnsOf m lists) m₁) := by
  refine (reads_even first hlists).bind_then (R := LateResult kind fields sort m) h₁ .refused
    fun _ m₂ heven h₂ => ?_
  change LateResult kind fields sort m (EStateM.bind _ _ m₂)
  unfold EStateM.bind
  have hsort := (sortColumns_result sort h₂ hlists heven).noted
  generalize noted (sortColumns fields lists (columnsOf m lists) sort) m₂ = r at hsort ⊢
  cases hsort with
  | failure hrefused h => exact .refused hrefused h
  | @arranged p m₃ hp hst hconfig houtput =>
    simp only [Rows.reorder_eq] at hst
    cases kind with
    | request =>
      obtain ⟨m', hrun, h⟩ := exists_log .block .debug ("request block bound " ++
        toString (Rows.count (columnsOf m lists)) ++ " row(s)") m₃
      change LateResult .request fields sort m (log _ _ _ _)
      rw [hrun]
      rw [← h.store] at hst
      exact .finished ⟨hlists, hp.perm, heven, hp, hst, fun _ => h.output.trans houtput, nofun⟩
    | table =>
      obtain ⟨m', widths, hrun, hstore, hlines⟩ := showTable_eq fields
        (hp.perm.length_eq.trans List.length_range) (columnsOf m lists) m₃
      change LateResult .table fields sort m (showTable _ _ _ _)
      rw [hrun]
      rw [← hstore] at hst hlines
      rw [houtput, hconfig] at hlines
      exact .finished ⟨hlists, hp.perm, heven, hp, hst, nofun, fun _ => ⟨widths, hlines⟩⟩

theorem arrangeFields_result (kind : BlockKind) (first : String) (fields : List String)
    (sort : Option SortSpec) (m : Machine) :
    LateResult kind fields sort m (arrangeFields kind first fields sort m) := by
  have hlists : Reads m (Lists m fields) (fun _ => Refused m fields sort)
      (fields.mapM columnList) :=
    .mapM fun name hname => reads_columnList fun _ hnot => .notList hname hnot
  refine hlists.bind_then (R := LateResult kind fields sort m) (.refl m) .refused
    fun lists m₁ hlists h₁ => ?_
  have hcolumns : columnsOf m₁ lists = columnsOf m lists := by rw [columnsOf, columnsOf, h₁.store]
  change LateResult kind fields sort m
    (arrange kind first fields sort lists (columnsOf m₁ lists) m₁)
  rw [hcolumns]
  exact arrange_result first hlists h₁

/-- **What a block does.** A block that changes no columns comes to one of four ends.

1. Without fields it fails at once.
2. If its source fails, nothing is fetched or the fields cannot be bound, nothing was written since
   the source was evaluated: no variable, no list, no field path, no output.
3. If it fails once its fields are bound, because a field holds no list, columns differ in length,
   or they cannot be sorted as asked for, then nothing was written since: no list is reordered, and
   no line shown.
4. Otherwise one permutation of the rows reorders the lists of all fields, and a table shows its
   headers and then its rows in this order. -/
theorem run_result (ev : Evaluator) (kind : BlockKind) (source : Option Expr)
    (fields : List String) (sort : Option SortSpec) (m : Machine) :
    BlockResult ev kind source fields sort m (run ev kind source fields sort [] m) := by
  cases fields with
  | nil => exact .noFields rfl ((Unwritten.refl m).arise _)
  | cons first rest =>
    rw [run_cons]
    change BlockResult ev kind source _ sort m (EStateM.bind _ _ m)
    unfold EStateM.bind
    have hfetch := fetchFields_result ev (first :: rest) source m
    cases hrun : fetchFields ev (first :: rest) source m with
    | error s m₁ =>
      rw [hrun] at hfetch
      cases hfetch with
      | failure h => exact .notBound hrun h
    | ok u m₁ =>
      rw [hrun] at hfetch
      cases hfetch with
      | fetched h =>
        have hlate := arrangeFields_result kind first (first :: rest) sort m₁
        dsimp only
        generalize arrangeFields kind first (first :: rest) sort m₁ = r at hlate
        cases hlate with
        | refused hrefused hm' => exact .refused hrun h hrefused hm'
        | finished hfinished => exact .finished hrun h hfinished

/-- Two fields that hold one list: it is sorted once, and shown twice. -/
example (ev : Evaluator) :
    let scopes := #[{ vars := [("a", .list 0), ("b", .list 0)] }]
    run ev .table none ["a", "b"] (some (.general .ascending)) []
        { store := { lists := #[[.bool true, .bool false]], scopes } } =
      .ok () {
        store := { lists := #[[.bool false, .bool true]], scopes }
        events := #[.out "a      b", .out "false  false", .out "true   true"] } := by
  cbv

end TableScript.Block
