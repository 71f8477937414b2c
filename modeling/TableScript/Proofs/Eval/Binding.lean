import TableScript.Eval.Block
import TableScript.Proofs.Capture.Merge
import TableScript.Proofs.Eval.Reading
import TableScript.Proofs.Value.Assignment
import TableScript.Proofs.Value.Failures
import TableScript.Proofs.Value.Making

/-!
# Fields bound to columns

A block captures its fields from a document and binds each of them to a new list. `Bound` says what
that does to the store; `bindFields_bound` that binding fields does it with the columns of the
capture. A column is used once, so a field that is listed twice ends up with no cells.
-/

namespace TableScript

/-- The columns of a capture without one of them. -/
theorem Capture.column?_filter_ne {α : Type} (c : Capture α) (name n : String) :
    Capture.column? (c.filter (·.1 ≠ name)) n = if n = name then none else c.column? n := by
  induction c with
  | nil =>
    split_ifs <;> rfl
  | cons col rest ih =>
    obtain ⟨k, cells⟩ := col
    rw [List.filter_cons, Capture.column?_cons]
    by_cases hk : k = name
    · subst hk
      rw [if_neg (by simp), ih]
      by_cases hn : n = k
      · rw [if_pos hn, if_pos hn]
      · rw [if_neg hn, if_neg hn, if_neg hn]
    · rw [if_pos (by simpa using hk), Capture.column?_cons, ih]
      by_cases hn : n = k
      · rw [if_pos hn, if_pos hn, if_neg (hn ▸ hk)]
      · rw [if_neg hn, if_neg hn]

namespace Block

open Run

/-! ## What binding does to the store -/

/-- Seen from the scope `s`, every field is bound anew, to a list made of its cells, where an
assignment to it goes. Nothing else that the store held changes. -/
structure Bound (s : Nat) (fields : List String) (cells : String → List Json) (st st' : Store) :
    Prop where
  grows : st.Grows st'
  outline : st.SameOutline st'
  bound : ∀ name ∈ fields, ∃ v, st'.binding? (st.owner s name true) name = some v ∧
    Store.Made st st' (.arr (cells name)) v
  kept {t : Nat} {name : String} : (name ∈ fields → t ≠ st.owner s name true) →
    st'.binding? t name = st.binding? t name

/-- The store with a name bound to a new list. -/
def bindCells (s : Nat) (name : String) (cells : List Json) (st : Store) : Store :=
  (st.ofJson (.arr cells)).2.assign s name (st.ofJson (.arr cells)).1 true

theorem owner_ofJson (st : Store) (j : Json) (s : Nat) (name : String) :
    (st.ofJson j).2.owner s name true = st.owner s name true := by
  have hscopes := st.scopes_ofJson j
  have hchain : (st.ofJson j).2.chain s = st.chain s :=
    (Store.SameOutline.of_scopes_eq hscopes).chain_eq s
  rw [Store.owner, Store.owner, hchain]
  simp only [Store.binds_eq_of_scopes_eq hscopes]

variable {s : Nat} {st st' : Store} {fields : List String} {cells cells' : String → List Json}

/-- One name is bound to its cells, and no other name changes its owner. -/
theorem bound_bindCells (hs : s < st.scopes.size) (name : String) (js : List Json) :
    Bound s [name] (fun _ => js) st (bindCells s name js st) := by
  have hscopes := st.scopes_ofJson (.arr js)
  have hs' : s < (st.ofJson (.arr js)).2.scopes.size := hscopes ▸ hs
  have hassign : (st.ofJson (.arr js)).2.Grows (bindCells s name js st) :=
    ⟨le_rfl, le_rfl, fun _ => rfl, fun _ => rfl, rfl⟩
  have hbinding : ∀ t n, (bindCells s name js st).binding? t n =
      if t = st.owner s name true ∧ n = name then some (st.ofJson (.arr js)).1
      else st.binding? t n := by
    intro t n
    unfold bindCells
    rw [Store.binding?_assign hs', owner_ofJson, Store.binding?,
      Store.scopeAt_eq_of_scopes_eq hscopes, ← Store.binding?]
  refine ⟨(st.grows_ofJson _).trans hassign, ?_, ?_, ?_⟩
  · exact (Store.SameOutline.of_scopes_eq hscopes).trans (Store.sameOutline_define _ _ _ _)
  · intro n hn
    obtain rfl := List.mem_singleton.1 hn
    refine ⟨_, (hbinding _ n).trans (if_pos ⟨rfl, rfl⟩), ?_⟩
    exact (st.made_ofJson (.arr js)).grow (.refl st) hassign
  · intro t n ht
    rw [hbinding, if_neg]
    rintro ⟨rfl, rfl⟩
    exact ht List.mem_cons_self rfl

theorem owner_bindCells (hs : s < st.scopes.size) (name : String) (js : List Json) (n : String) :
    (bindCells s name js st).owner s n true = st.owner s n true := by
  have hs' : s < (st.ofJson (.arr js)).2.scopes.size := st.scopes_ofJson (.arr js) ▸ hs
  unfold bindCells
  rw [Store.owner_assign hs', owner_ofJson]

/-- A name is bound to its cells, then further ones, of which it may be one again. -/
theorem Bound.cons (hs : s < st.scopes.size) {name : String} {js : List Json}
    (h : Bound s fields cells' (bindCells s name js st) st')
    (hfirst : name ∉ fields → cells name = js) (hrest : ∀ n ∈ fields, cells n = cells' n) :
    Bound s (name :: fields) cells st st' := by
  have hname := bound_bindCells hs name js
  refine ⟨hname.grows.trans h.grows, hname.outline.trans h.outline, fun n hn => ?_, ?_⟩
  · by_cases hmem : n ∈ fields
    · obtain ⟨v, hv, hmade⟩ := h.bound n hmem
      rw [owner_bindCells hs] at hv
      rw [hrest n hmem]
      exact ⟨v, hv, hmade.grow hname.grows (.refl st')⟩
    · -- bound first and not again
      obtain rfl := (List.mem_cons.1 hn).resolve_right hmem
      obtain ⟨v, hv, hmade⟩ := hname.bound n List.mem_cons_self
      rw [hfirst hmem]
      exact ⟨v, (h.kept fun hn => absurd hn hmem).trans hv, hmade.grow (.refl st) h.grows⟩
  · intro t n ht
    rw [h.kept fun hn => (owner_bindCells hs name js n).symm ▸ ht (List.mem_cons_of_mem _ hn),
      hname.kept fun hn => ht (List.mem_singleton.1 hn ▸ List.mem_cons_self)]

/-! ## Binding columns -/

theorem bindColumns_cons (capture : Capture) (name : String) (rest : List String) (m : Machine) :
    bindColumns capture (name :: rest) m = bindColumns (capture.filter (·.1 ≠ name)) rest
      { m with store := bindCells m.scope name ((capture.column? name).getD []) m.store } := rfl

/-- The cells a field gets: those of its column, or none if the field is listed more than once. -/
def cellsFor (capture : Capture) (fields : List String) (name : String) : List Json :=
  if fields.count name = 1 then (capture.column? name).getD [] else []

theorem cellsFor_cons_self {capture : Capture} {name : String} {rest : List String}
    (h : name ∉ rest) : cellsFor capture (name :: rest) name = (capture.column? name).getD [] := by
  have hcount : (name :: rest).count name = 1 := by
    rw [List.count_cons_self, List.count_eq_zero_of_not_mem h]
  exact if_pos hcount

/-- What is left for the other fields, once the column of the first is used. -/
theorem cellsFor_cons {capture : Capture} {name n : String} {rest : List String} (h : n ∈ rest) :
    cellsFor capture (name :: rest) n = cellsFor (capture.filter (·.1 ≠ name)) rest n := by
  unfold cellsFor
  rw [Capture.column?_filter_ne]
  by_cases hn : n = name
  · subst hn
    have hcount : (n :: rest).count n ≠ 1 := by
      have hrest := List.count_pos_iff.2 h
      rw [List.count_cons_self]
      omega
    rw [if_neg hcount, if_pos rfl, Option.getD_none, ite_self]
  · rw [List.count_cons_of_ne (Ne.symm hn), if_neg hn]

/-- Columns are bound to the end, whatever the fields are. -/
theorem bindColumns_bound (fields : List String) (capture : Capture) (m : Machine)
    (hs : fields ≠ [] → m.scope < m.store.scopes.size) :
    ∃ st, bindColumns capture fields m = .ok () { m with store := st } ∧
      Bound m.scope fields (cellsFor capture fields) m.store st := by
  induction fields generalizing capture m with
  | nil =>
    refine ⟨m.store, rfl, .refl _, .of_scopes_eq rfl, ?_, fun _ => rfl⟩
    exact fun name hname => absurd hname List.not_mem_nil
  | cons name rest ih =>
    have hs := hs (List.cons_ne_nil _ _)
    let js := (capture.column? name).getD []
    have hsize := (bound_bindCells hs name js).outline.size
    obtain ⟨st, hrun, hbound⟩ := ih (capture.filter (·.1 ≠ name))
      { m with store := bindCells m.scope name js m.store } fun _ => hsize ▸ hs
    refine ⟨st, (bindColumns_cons capture name rest m).trans hrun, ?_⟩
    exact hbound.cons hs cellsFor_cons_self fun n hn => cellsFor_cons hn

/-! ## Binding fields -/

theorem reads_fieldPath (m : Machine) (name : String) :
    Reads m (fun field => field.1 = name ∧ m.store.lookupField? m.scope name = some field.2)
      (fun _ => True) (fieldPath name) := by
  refine .get_bind fun m₁ h => ?_
  rw [h.store, h.scope]
  cases hpath : m.store.lookupField? m.scope name with
  | some path => exact Reads.of_pure ⟨rfl, rfl⟩ m₁ h
  | none => exact Reads.fail trivial m₁ h

/-- The fields with the paths that they are declared with. -/
structure Declared (m : Machine) (names : List String) (fields : List (String × Path)) : Prop where
  names : fields.map (·.1) = names
  path : ∀ f ∈ fields, m.store.lookupField? m.scope f.1 = some f.2

theorem declared_of_forall₂ {m : Machine} {names : List String} {fields : List (String × Path)}
    (h : names.Forall₂ (fun name field =>
      field.1 = name ∧ m.store.lookupField? m.scope name = some field.2) fields) :
    Declared m names fields := by
  induction h with
  | nil => exact ⟨rfl, nofun⟩
  | cons hfield _ ih =>
    refine ⟨congrArg₂ List.cons hfield.1 ih.names, fun f hf => ?_⟩
    rcases List.mem_cons.1 hf with rfl | hf
    · exact hfield.1 ▸ hfield.2
    · exact ih.path f hf

theorem Declared.scope_lt {m : Machine} {names : List String} {fields : List (String × Path)}
    (h : Declared m names fields) (hnames : names ≠ []) : m.scope < m.store.scopes.size := by
  have hfields : fields ≠ [] := by
    rintro rfl
    exact hnames h.names.symm
  obtain ⟨f, hf⟩ := List.exists_mem_of_ne_nil fields hfields
  exact Store.lt_size_of_lookupField? (h.path f hf)

/-- What comes of binding fields: a failure before anything is written, or all of them bound. -/
inductive BindResult (names : List String) (document : Json) (m : Machine) :
    EStateM.Result Stop Machine Unit → Prop
  | failure {f : Fault} {span : Option Span} {m' : Machine} : Unwritten m m' →
    BindResult names document m (.error (.unwind (.failure f span)) m')
  | bound {fields : List (String × Path)} {capture : Capture} {m₁ : Machine} {st : Store} :
    Declared m names fields → (Trie.ofFields fields).capture document = .ok capture →
    Unwritten m m₁ → Bound m.scope names (cellsFor capture names) m.store st →
    BindResult names document m (.ok () { m₁ with store := st })

theorem bindFields_result (names : List String) (document : Json) (m : Machine) :
    BindResult names document m (bindFields names document m) := by
  refine (Reads.mapM fun name _ => reads_fieldPath m name).bind_then
    (R := BindResult names document m) (.refl m) (fun _ h => .failure h)
    fun fields m₁ hfields h₁ => ?_
  refine (Reads.ensure fun _ _ => trivial).bind_then h₁ (fun _ h => .failure h)
    fun capture m₂ hcapture h₂ => ?_
  refine (Reads.log (F := fun _ => True) _ _ _).bind_then h₂ (fun _ h => .failure h)
    fun _ m₃ _ h₃ => ?_
  have hdeclared := declared_of_forall₂ hfields
  have hs : names ≠ [] → m₃.scope < m₃.store.scopes.size := by
    rw [h₃.scope, h₃.store]
    exact hdeclared.scope_lt
  obtain ⟨st, hbind, hbound⟩ := bindColumns_bound names capture m₃ hs
  rw [h₃.scope, h₃.store] at hbound
  rw [hbind]
  exact .bound hdeclared hcapture h₃ hbound

/-- **Fields are bound to their columns.** When binding fields succeeds, every field that is listed
once is bound, where an assignment to it goes, to a new list made of the cells of its column in the
capture of all fields, or of no cells if it has no column; a field that is listed more than once is
bound to an empty list. No other variable changes, nor what any list or map held. -/
theorem bindFields_bound {names : List String} {document : Json} {m m' : Machine}
    (h : bindFields names document m = .ok () m') :
    ∃ fields capture, Declared m names fields ∧
      (Trie.ofFields fields).capture document = .ok capture ∧
      Bound m.scope names (cellsFor capture names) m.store m'.store := by
  have hresult := bindFields_result names document m
  rw [h] at hresult
  cases hresult with
  | bound hdeclared hcapture _ hbound => exact ⟨_, _, hdeclared, hcapture, hbound⟩

/-- A field declared in the scope that binds it, and one declared in the scope around. -/
theorem bindFields_bound_nested :
    let outer := (({} : Store).newScope none).2.defineField 0 "x" [.key "a", .allElements]
    let store := (outer.newScope (some 0)).2.defineField 1 "y" [.key "b"]
    let document := Json.obj [("a", .arr [.int 1, .int 2]), ("b", .int 3)]
    let bound : Store := {
      lists := #[[], [], [.int 3, .int 3], [.int 1, .int 2]]
      scopes := #[{ vars := [("x", .list 3)], fields := [("x", [.key "a", .allElements])] },
        { vars := [("y", .list 2)], fields := [("y", [.key "b"])], parent := some 0 }] }
    bindFields ["y", "x"] document { store, scope := 1 } = .ok () { store := bound, scope := 1 } ∧
      ∃ fields capture, Declared { store, scope := 1 } ["y", "x"] fields ∧
        (Trie.ofFields fields).capture document = .ok capture ∧
        Bound 1 ["y", "x"] (cellsFor capture ["y", "x"]) store bound := by
  intro outer store document bound
  have hrun : bindFields ["y", "x"] document { store, scope := 1 } =
      .ok () { store := bound, scope := 1 } := by cbv
  exact ⟨hrun, bindFields_bound hrun⟩

/-- A field that is listed twice has a column, and is bound to no cells. -/
theorem repeated_field_bound_to_nothing :
    let store := (({} : Store).newScope none).2.defineField 0 "x" [.key "a"]
    let document := Json.obj [("a", .int 1)]
    let fields := [("x", [.key "a"]), ("x", [.key "a"])]
    let bound : Store := {
      lists := #[[], [.int 1], []]
      scopes := #[{ vars := [("x", .list 2)], fields := [("x", [.key "a"])] }] }
    Declared { store } ["x", "x"] fields ∧
      (Trie.ofFields fields).capture document = .ok [("x", [.int 1])] ∧
      bindFields ["x", "x"] document { store } = .ok () { store := bound } ∧
      bound.binding? (store.owner 0 "x" true) "x" = some (.list 2) ∧ bound.items 2 = [] := by
  refine ⟨⟨rfl, fun f hf => ?_⟩, by cbv, by cbv, by cbv, by cbv⟩
  obtain rfl : f = ("x", [.key "a"]) := by simpa using hf
  cbv

end Block
end TableScript
