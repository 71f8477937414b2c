import TableScript.Proofs.Eval.Quiet

/-!
# Steps keep the guarantees of their parts

An evaluator evaluates expressions, statements, calls and deferred groups, and may guarantee
something for each. Every step of evaluation keeps a guarantee that the evaluator of its parts
keeps; there is one lemma for each of them. What is left is to say that the guarantees fit scopes,
writes, frames and deferred groups (`Guarantees.Lawful`), and then every evaluator keeps them
(`keeps_ofFuel`).
-/

namespace TableScript

open Run

/-- What the parts of an evaluator guarantee. -/
structure Guarantees where
  /-- Expressions and calls. -/
  expr : Guarantee
  /-- Statements. -/
  stmt : Guarantee
  /-- Deferred groups of a frame. -/
  deferred : List Deferred → Frame → Guarantee
  /-- Expressions and statements, when the fuel runs out. -/
  cut : Machine → Machine → Prop := fun _ _ => True
  /-- Deferred groups, when the fuel runs out. -/
  deferredCut : Machine → Machine → Prop := fun _ _ => True

/-- An evaluator keeps guarantees. -/
structure Evaluator.Keeps (ev : Evaluator) (G : Guarantees) : Prop where
  expr (e : Expr) : Meets G.expr G.cut (ev.expr e)
  block (body : List Stmt) : Meets G.stmt G.cut (ev.block body)
  call (f : Callable) (args : CallArgs) : Meets G.expr G.cut (ev.call f args)
  deferred (groups : List Deferred) (frame : Frame) :
    Meets (G.deferred groups frame) G.deferredCut (ev.deferred groups frame)

/-- Guarantees that fit what steps do with scopes, frames, deferred groups and exits. -/
class Guarantees.Lawful (G : Guarantees) : Prop where
  expr : G.expr.Lawful
  stmt : G.stmt.Lawful
  cuts : G.stmt.Cuts G.cut
  deferredCut_refl (m : Machine) : G.deferredCut m m
  stmt_of_expr {e : Ending} {m m' : Machine} : G.expr e m m' → G.stmt e m m'
  /-- Statements may write. -/
  write {m : Machine} {st : Store} :
    m.store.Writes m.scope st → G.stmt .done m { m with store := st }
  /-- A body may run in a scope of its own. -/
  inScope {e : Ending} {m m' : Machine} {vars : List (String × Value)} :
    e ≠ .crashed → G.stmt e (m.inNewScope m.scope vars) m' → G.stmt e m { m' with scope := m.scope }
  /-- A crash may leave the machine in an inner scope. -/
  inScope_crashed {m m' : Machine} {vars : List (String × Value)} :
    G.stmt .crashed (m.inNewScope m.scope vars) m' → G.stmt .crashed m m'
  /-- The end of the fuel, too. -/
  inScope_cut {m m' : Machine} {vars : List (String × Value)} :
    G.cut (m.inNewScope m.scope vars) m' → G.cut m m'
  /-- A group of the current scope may be registered. -/
  register {m : Machine} {g : Deferred} {groups : List Deferred} {outer : List (List Deferred)} :
    m.frames = groups :: outer → g.scope = m.scope → G.stmt .done m { m with
      frames := (g :: groups) :: outer
      history := .registered g :: m.history }
  /-- Where there is no frame, none can be registered. -/
  noFrame {m : Machine} : m.frames = [] → G.stmt .failed m { m with
      faults := .bug "defer with no active frame" :: m.faults }
  /-- An exit may be asked for. -/
  exit (m : Machine) (code : Int32) :
    G.expr (.exited code) m { m with turns := .exitAsked code :: m.turns }
  /-- A body may run in a new scope and in a frame of its own. -/
  frame {ev : Evaluator} {α : Type} {body : Run α} (parent : Nat) (vars : List (String × Value)) :
    ev.Keeps G → Meets G.stmt G.cut body →
      Meets G.expr G.cut (newScope parent vars >>= fun s => Callable.inFrame ev s body)
  /-- The groups of a frame may run. -/
  groups {ev : Evaluator} (groups : List Deferred) (frame : Frame) :
    ev.Keeps G → Meets (G.deferred groups frame) G.deferredCut (Deferred.run ev groups frame)

variable {α β : Type} {G : Guarantees} [G.Lawful] {ev : Evaluator}

instance : G.expr.Lawful := Guarantees.Lawful.expr
instance : G.stmt.Lawful := Guarantees.Lawful.stmt
instance : G.stmt.Cuts G.cut := Guarantees.Lawful.cuts

instance : G.expr.Cuts G.cut where
  refl := Guarantee.Cuts.refl G.stmt
  trans h := Guarantee.Cuts.trans (Guarantees.Lawful.stmt_of_expr h)

theorem Run.Meets.stmt {x : Run α} (hx : Meets G.expr G.cut x) : Meets G.stmt G.cut x :=
  ⟨hx.toKeeps.mono Guarantees.Lawful.stmt_of_expr, hx.of_cut⟩

theorem keeps_outOfFuel {H : Guarantee} : Meets H G.cut (throw .outOfFuel : Run α) :=
  .outOfFuel (Guarantee.Cuts.refl G.stmt)

/-! ## Names -/

theorem yields_lookup (name : String) : Yields (fun _ => True) (lookup name) := by
  refine .bind .of_get fun m _ => ?_
  split
  · exact .of_pure trivial
  · split
    · exact .of_pure trivial
    · exact .fail trivial

/-- A computation that looks at the machine and writes. -/
theorem keeps_write {x : Machine → Run α} {f : Machine → Store}
    (hx : ∀ m, ∃ a, x m m = .ok a { m with store := f m })
    (hf : ∀ m : Machine, m.store.Writes m.scope (f m)) : Meets G.stmt G.cut (get >>= x) := by
  refine ⟨⟨fun {m e m'} h => ?_⟩, fun {m m'} h => ?_⟩
  · obtain ⟨a, ha⟩ := hx m
    rw [ended?_get_bind, ha] at h
    obtain ⟨rfl, rfl⟩ := Prod.mk.inj (Option.some.inj h)
    exact Guarantees.Lawful.write (hf m)
  · obtain ⟨a, ha⟩ := hx m
    change x m m = _ at h
    rw [ha] at h
    cases h

theorem keeps_assign (name : String) (v : Value) : Meets G.stmt G.cut (assign name v) :=
  keeps_write (fun _ => ⟨(), rfl⟩) fun (m : Machine) => m.store.writes_assign m.scope name v true

/-! ## Expressions -/

namespace Expr

theorem keeps_calledFunction (callee : Expr) (v : Value) :
    Meets G.expr G.cut (calledFunction callee v) := by
  unfold calledFunction
  split
  · exact .of_pure _
  · exact .atSpan _ (.fail trivial)

theorem keeps_resolveCallee (hev : ev.Keeps G) (callee : Expr) :
    Meets G.expr G.cut (resolveCallee ev callee) := by
  have hrest := keeps_calledFunction (G := G) callee
  unfold resolveCallee
  split
  · refine .bind .of_get fun m => ?_
    split
    · exact .bind (.of_pure _) hrest
    · split
      · exact .bind (.of_pure _) hrest
      · exact .bind (.atSpan _ (.fail trivial)) hrest
  · exact .bind (hev.expr callee) hrest

theorem keeps_evalNamed (hev : ev.Keeps G) (named : List (String × Expr)) :
    Meets G.expr G.cut (evalNamed ev named) := by
  refine .mapM (fun arg => ?_) named
  exact .bind (hev.expr arg.2) fun _ => .of_pure _

theorem keeps_evalMulti (hev : ev.Keeps G) (e : Expr) (expected : Option Nat) :
    Meets G.expr G.cut (evalMulti ev e expected) := by
  unfold evalMulti
  split
  · refine .bind (keeps_resolveCallee hev _) fun f => .bind (.mapM hev.expr _) fun args => ?_
    exact .bind (keeps_evalNamed hev _) fun named => .atSpan _ (hev.call f _)
  · exact .bind (hev.expr e) fun _ => .of_pure _

theorem keeps_evalReturn (hev : ev.Keeps G) (exprs : List Expr) :
    Meets G.expr G.cut (evalReturn ev exprs) := by
  unfold evalReturn
  split
  · exact keeps_evalMulti hev _ none
  · exact .mapM hev.expr _

theorem keeps_evalEntries (hev : ev.Keeps G) (entries : List (Expr × Expr)) (acc : List Entry) :
    Meets G.expr G.cut (evalEntries ev acc entries) := by
  induction entries generalizing acc with
  | nil => exact .of_pure _
  | cons entry rest ih =>
    refine .bind (hev.expr entry.1) fun key => .bind (hev.expr entry.2) fun value => ?_
    exact .bind (.atSpan _ (.ensure key.noBug_mapKey)) fun _ => ih _

theorem keeps_evalBound (hev : ev.Keeps G) (bound : Option Expr) :
    Meets G.expr G.cut (evalBound ev bound) := by
  cases bound with
  | none => exact .of_pure _
  | some e =>
    refine .bind (hev.expr e) fun v => .bind (.atSpan _ (.ensure v.noBug_requireInt)) fun _ => ?_
    exact .of_pure _

theorem keeps_evalBinary (hev : ev.Keeps G) (op : BinaryOp) (lhs rhs : Expr) :
    Meets G.expr G.cut (evalBinary ev op lhs rhs) := by
  refine .bind (hev.expr lhs) fun l => ?_
  split
  · exact .bind .of_get fun _ => .ite (hev.expr rhs) (.of_pure _)
  · exact .bind .of_get fun _ => .ite (.of_pure _) (hev.expr rhs)
  · exact .bind (hev.expr rhs) fun r => .ofStore (Operator.steady_binary _ l r)

theorem keeps_evalKind (hev : ev.Keeps G) (e : Expr) : Meets G.expr G.cut (evalKind ev e) := by
  unfold evalKind
  split
  · exact .of_pure _
  · exact .of_yields (yields_lookup _)
  · exact .bind (.mapM hev.expr _) fun items => .ofStore (Store.steady_allocList items)
  · exact .bind (keeps_evalEntries hev _ _) fun _ => .ofStore (.of_modifyGet fun _ => rfl)
  · exact keeps_evalBinary hev _ _ _
  · exact .bind (hev.expr _) fun v => .bind .of_get fun m =>
      .ensure (Operator.noBug_unary m.store _ v)
  · exact .bind (hev.expr _) fun _ => .bind .of_get fun _ => .ite (hev.expr _) (hev.expr _)
  · exact .bind (hev.expr _) fun t => .bind (hev.expr _) fun i => .bind .of_get fun m =>
      .ensure (m.store.noBug_index t i)
  · refine .bind (hev.expr _) fun t => .bind (keeps_evalBound hev _) fun start => ?_
    exact .bind (keeps_evalBound hev _) fun stop => .ofStore (Store.steady_slice t start stop)
  · refine .bind (keeps_evalMulti hev e (some 1)) fun values => ?_
    split
    · exact .of_pure _
    · exact .fail trivial
  · exact .bind .of_get fun _ => .ofStore (.of_modifyGet fun _ => rfl)

theorem keeps_eval (hev : ev.Keeps G) (e : Expr) : Meets G.expr G.cut (e.eval ev) :=
  .atSpan _ (keeps_evalKind hev e)

end Expr

/-! ## Calls -/

namespace Builtin

theorem keeps_runExit (c : CallArgs) : Meets G.expr G.cut (runExit c) := by
  refine ⟨⟨fun {m e m'} h => ?_⟩, fun {m m'} h => ?_⟩
  · obtain ⟨code, hexit⟩ | ⟨f, m₁, hfail, hstill⟩ := runExit_cases c m
    · rw [hexit] at h
      obtain ⟨rfl, rfl⟩ := Prod.mk.inj (Option.some.inj h)
      exact Guarantees.Lawful.exit m code
    · rw [hfail] at h
      obtain ⟨rfl, rfl⟩ := Prod.mk.inj (Option.some.inj h)
      exact Guarantee.Lawful.quiet ⟨nofun, hstill⟩
  · obtain ⟨code, hexit⟩ | ⟨f, m₁, hfail, -⟩ := runExit_cases c m
    · rw [hexit] at h
      cases h
    · rw [hfail] at h
      cases h

theorem keeps_call (b : Builtin) (c : CallArgs) : Meets G.expr G.cut (b.call c) := by
  refine .atSpan _ (.bind_yields (.ensure (b.contract.noBug_check b.name c)) fun _ hcheck => ?_)
  by_cases hb : b = .exit
  · subst hb
    exact keeps_runExit c
  · exact .of_yields (yields_run hb (Contract.admits_of_check hcheck))

end Builtin

namespace Callable

/-- The frame of a call: the arguments are wrong, or there is a scope for the body. -/
theorem keeps_bindParams (hev : ev.Keeps G) (name : String) (c : Closure) (args : CallArgs)
    {body : Run α} (hbody : Meets G.stmt G.cut body) :
    Meets G.expr G.cut (bindParams name c args >>= fun scope => inFrame ev scope body) := by
  unfold bindParams
  split
  · exact .bind_of (P := fun _ => False) (.atSpan _ (.fail trivial)) (fun h => nomatch h) nofun
  · split
    · exact .bind_of (P := fun _ => False) (.atSpan _ (.fail trivial)) (fun h => nomatch h) nofun
    · exact Guarantees.Lawful.frame _ _ hev hbody

theorem keeps_runBody (hev : ev.Keeps G) (c : Closure) : Meets G.stmt G.cut (runBody ev c) := by
  unfold runBody
  split
  · exact .bind (.mapM (fun e => (hev.expr e).stmt) _) fun _ => .of_pure _
  · refine .bind (hev.block _) fun signal => ?_
    split
    · exact .fail (.fromFunction _ rfl)
    · exact .fail (.fromFunction _ rfl)
    · exact .of_pure _
  · refine .bind (hev.block _) fun signal => ?_
    rcases signal with _ | _ | _ | values
    · dsimp only
      split
      · exact .bind (Expr.keeps_evalReturn hev _).stmt fun _ => .of_pure _
      · exact .of_pure _
    · exact .fail (.fromFunction _ rfl)
    · exact .fail (.fromFunction _ rfl)
    · exact .of_pure _

theorem keeps_checkReturns (name : String) (returned : Option (List Value)) (args : CallArgs) :
    Meets G.expr G.cut (checkReturns name returned args) := by
  unfold checkReturns
  split
  · exact .of_pure _
  · exact .ite (.atSpan _ (.fail trivial)) (.of_pure _)
  · exact .ite (.atSpan _ (.fail trivial)) (.of_pure _)

theorem keeps_call (hev : ev.Keeps G) (f : Callable) (args : CallArgs) :
    Meets G.expr G.cut (f.call ev args) := by
  unfold call
  split
  · exact Builtin.keeps_call _ args
  · refine .bind .of_get fun m => ?_
    split
    · exact .of_yields (.crash (P := fun _ => True) (by decide))
    · rw [← bind_assoc]
      refine .bind (keeps_bindParams hev _ _ args (keeps_runBody hev _)) fun returned => ?_
      exact keeps_checkReturns _ returned args

end Callable

/-! ## Blocks -/

namespace Block

theorem yields_fieldPath (name : String) : Yields (fun _ => True) (fieldPath name) := by
  refine .bind .of_get fun m _ => ?_
  split
  · exact .of_pure trivial
  · exact .fail trivial

theorem keeps_bindColumns (fields : List String) (capture : Capture) :
    Meets G.stmt G.cut (bindColumns capture fields) := by
  induction fields generalizing capture with
  | nil => exact .of_pure _
  | cons name rest ih =>
    refine .bind (.ofStore (.of_modifyGet fun st => ?_)) fun list => ?_
    · exact st.scopes_ofJsonItems _
    · exact .bind (keeps_assign name list) fun _ => ih _

theorem keeps_bindFields (fields : List String) (document : Json) :
    Meets G.stmt G.cut (bindFields fields document) := by
  refine .bind (.mapM (fun name => .of_yields (yields_fieldPath name)) fields) fun paths => ?_
  refine .bind (.ensure (Trie.noBug_capture _ _)) fun capture => ?_
  exact .bind (.log _ _ _) fun _ => keeps_bindColumns fields capture

theorem yields_columnList (name : String) : Yields (fun _ => True) (columnList name) :=
  .bind (yields_lookup name) fun v _ => (Yields.ensure v.noBug_requireList).mono fun _ => trivial

theorem yields_replaceItems (list : Nat) (items : List Value) :
    Yields (fun _ => True) (replaceItems list items) :=
  .modifyStore fun _ => rfl

theorem keeps_mapColumn (hev : ev.Keeps G) (f : Callable) (name : String) :
    Meets G.expr G.cut (mapColumn ev f name) := by
  refine .bind (.of_yields (yields_columnList name)) fun list => .bind .of_get fun m => ?_
  refine .bind (.mapM (fun cell => ?_) _) fun mapped => .of_yields (yields_replaceItems list mapped)
  exact .bind (hev.call f _) fun _ => .of_pure _

theorem yields_colourColumn (pattern : Pattern.Regex) (style : Style) (name : String) :
    Yields (fun _ => True) (colourColumn pattern style name) :=
  .bind (yields_columnList name) fun _ _ => .bind .of_get fun _ _ => yields_replaceItems _ _

theorem keeps_evalText (hev : ev.Keeps G) (e : Expr) : Meets G.expr G.cut (evalText ev e) :=
  .bind (hev.expr e) fun v => .bind (.atSpan _ (.ensure v.noBug_requireStr)) fun _ => .of_pure _

theorem keeps_colourColumns (hev : ev.Keeps G) (fields : List String) (pattern : Expr)
    (style : Style) :
    Meets G.expr G.cut (do
      let text ← evalText ev pattern
      let compiled ← match Pattern.Regex.compile text with
        | .ok r => pure r
        | .error e => atSpan pattern.span (fail (.parse e.message))
      fields.forM (colourColumn compiled style)) := by
  have hcolumns r : Meets G.expr G.cut (fields.forM (colourColumn r style)) :=
    .of_yields (.forM (yields_colourColumn r style) fields)
  refine .bind (keeps_evalText hev pattern) fun text => ?_
  split
  · exact .bind (.of_pure _) hcolumns
  · exact .bind (.atSpan _ (.fail trivial)) hcolumns

theorem keeps_applyMod (hev : ev.Keeps G) (mod : FieldMod) :
    Meets G.expr G.cut (applyMod ev mod) := by
  cases mod with
  | map fields function =>
    refine .bind (hev.expr function) fun v => ?_
    refine .bind (.atSpan _ (.ensure v.noBug_requireFn)) fun f => ?_
    exact .forM (keeps_mapColumn hev f) fields
  | colour fields colour pattern =>
    refine .bind (keeps_evalText hev colour) fun name => ?_
    split
    · exact .bind (.of_pure _) (keeps_colourColumns hev fields pattern)
    · exact .bind (.atSpan _ (.fail trivial)) (keeps_colourColumns hev fields pattern)

theorem keeps_checkRows (first : String) (rows : Nat) (columns : List (String × List Value)) :
    Meets G.expr G.cut (checkRows first rows columns) := by
  induction columns with
  | nil => exact .of_pure _
  | cons column rest ih => exact .ite (.fail trivial) ih

/-- The rules of a block name columns that it has, so that sorting meets no bug. -/
theorem yields_sortColumns {fields : List String} (lists : List Nat) {columns : List (List Value)}
    (h : columns.length = fields.length) (sort : Option SortSpec) :
    Yields (fun _ => True) (sortColumns fields lists columns sort) := by
  cases sort with
  | none => exact .of_pure trivial
  | some spec =>
    refine .bind (.lift (noBug_sortRules fields spec)) fun rules hrules => ?_
    have hnamed : ∀ r ∈ rules, r.column < columns.length := fun r hr =>
      h ▸ lt_length_of_sortRules hrules r hr
    refine .bind (.lift (Rows.noBug_sort hnamed)) fun sorted _ => ?_
    exact .bind (.forM (fun _ => yields_replaceItems _ _) _) fun _ _ => .of_pure trivial

theorem keeps_fetchFields (hev : ev.Keeps G) (fields : List String) (source : Option Expr) :
    Meets G.stmt G.cut (fetchFields ev fields source) := by
  cases source with
  | none => exact .of_pure _
  | some source =>
    refine .bind (keeps_evalText hev source).stmt fun url => .bind (.log _ _ _) fun _ => ?_
    refine .bind (.atSpan _ (.of_yields (yields_fetch url))) fun document => ?_
    exact keeps_bindFields fields document

theorem yields_showTable (fields : List String) (rows : Nat) (columns : List (List Value)) :
    Yields (fun _ => True) (showTable fields rows columns) :=
  .bind .of_get fun _ _ => .bind yields_colour fun _ _ => .forM (fun _ => .emit _) _

theorem keeps_run (hev : ev.Keeps G) (kind : BlockKind) (source : Option Expr)
    (fields : List String) (sort : Option SortSpec) (mods : List FieldMod) :
    Meets G.stmt G.cut (run ev kind source fields sort mods) := by
  unfold run
  split
  · exact .fail trivial
  · refine .bind (keeps_fetchFields hev _ source) fun _ => ?_
    refine .bind (.forM (fun mod => (keeps_applyMod hev mod).stmt) mods) fun _ => ?_
    refine .bind_yields (.mapM yields_columnList _) fun lists hlists => .bind .of_get fun m => ?_
    refine .bind (keeps_checkRows _ _ _).stmt fun _ => ?_
    have hcolumns : (lists.map m.store.items).length = _ := (List.length_map _).trans hlists
    refine .bind (.of_yields (yields_sortColumns lists hcolumns sort).noted) fun columns => ?_
    split
    · exact .log _ _ _
    · exact .of_yields (yields_showTable _ _ columns)

end Block

/-! ## Statements -/

namespace Stmt

theorem keeps_follow (hev : ev.Keeps G) (path : List Expr) (container : Value) :
    Meets G.expr G.cut (follow ev container path) := by
  induction path generalizing container with
  | nil => exact .of_pure _
  | cons e rest ih =>
    refine .bind (hev.expr e) fun key => .bind .of_get fun m => ?_
    exact .bind (.atSpan _ (.ensure (m.store.noBug_index _ _))) fun inner => ih inner

theorem keeps_readTarget (hev : ev.Keeps G) (target : Target) :
    Meets G.expr G.cut (readTarget ev target) := by
  obtain ⟨name, path⟩ := target
  exact .bind (.of_yields (yields_lookup name)) fun v => keeps_follow hev path v

theorem keeps_writePath (hev : ev.Keeps G) (v : Value) (rest : List Expr) (container : Value)
    (e : Expr) : Meets G.expr G.cut (writePath ev v container e rest) := by
  induction rest generalizing container e with
  | nil =>
    exact .bind (hev.expr e) fun key => .atSpan _ (.ofStore (Store.steady_setIndex _ key v))
  | cons next rest ih =>
    refine .bind (hev.expr e) fun key => .bind .of_get fun m => ?_
    exact .bind (.atSpan _ (.ensure (m.store.noBug_index _ _))) fun inner => ih inner next

theorem keeps_writeTarget (hev : ev.Keeps G) (v : Value) (target : Target) :
    Meets G.stmt G.cut (writeTarget ev v target) := by
  obtain ⟨name, path⟩ := target
  cases path with
  | nil => exact keeps_assign name v
  | cons e rest =>
    exact .bind (.of_yields (yields_lookup name)) fun w => (keeps_writePath hev v rest w e).stmt

theorem keeps_assignedValues (hev : ev.Keeps G) (count : Nat) (values : List Expr) :
    Meets G.expr G.cut (assignedValues ev count values) := by
  refine .ite (.mapM hev.expr values) ?_
  split
  · exact Expr.keeps_evalMulti hev _ _
  · exact .of_pure _

theorem keeps_runAssign (hev : ev.Keeps G) (targets : List Target) (values : List Expr) :
    Meets G.stmt G.cut (runAssign ev targets values) := by
  refine .bind (keeps_assignedValues hev _ values).stmt fun vals => .ite (.fail trivial) ?_
  exact .forM (fun pair : Target × Value => keeps_writeTarget hev pair.2 pair.1) _

omit [G.Lawful] in
/-- A body in a new scope: the scope is left again unless there is a crash. -/
theorem ended?_inScope {vars : List (String × Value)} {body : List Stmt} {m m' : Machine}
    {e : Ending} (h : ended? (inScope ev vars body m) = some (e, m')) :
    ∃ m₁, ended? (ev.block body (m.inNewScope m.scope vars)) = some (e, m₁) ∧
      m' = if e = .crashed then m₁ else { m₁ with scope := m.scope } := by
  change ended? ((attempt (ev.block body) >>= _) (m.inNewScope m.scope vars)) = _ at h
  obtain ⟨rfl, hcrash⟩ | ⟨r, m₁, hblock, h⟩ := ended?_attempt_bind h
  · exact ⟨m', hcrash, rfl⟩
  rw [enterScope, ended?_modify_bind, ended?_resume] at h
  obtain ⟨rfl, rfl⟩ := Prod.mk.inj (Option.some.inj h)
  exact ⟨m₁, hblock, (if_neg (Ending.ofResult_ne_crashed r)).symm⟩

theorem keeps_inScope (hev : ev.Keeps G) (vars : List (String × Value)) (body : List Stmt) :
    Meets G.stmt G.cut (inScope ev vars body) := by
  refine ⟨⟨fun {m e m'} h => ?_⟩, fun {m m'} h => ?_⟩
  · obtain ⟨m₁, hblock, rfl⟩ := ended?_inScope h
    have hstmt := (hev.block body).of_ended hblock
    by_cases he : e = .crashed
    · subst he
      exact Guarantees.Lawful.inScope_crashed hstmt
    · rw [if_neg he]
      exact Guarantees.Lawful.inScope he hstmt
  · change (attempt (ev.block body) >>= _) (m.inNewScope m.scope vars) = _ at h
    obtain hcut | ⟨r, m₁, -, h⟩ := outOfFuel_attempt_bind h
    · exact Guarantees.Lawful.inScope_cut ((hev.block body).of_cut hcut)
    · cases r <;> cases h

theorem keeps_runBranches (hev : ev.Keeps G) (otherwise : Option (List Stmt))
    (branches : List (Expr × List Stmt)) :
    Meets G.stmt G.cut (runBranches ev otherwise branches) := by
  induction branches with
  | nil =>
    cases otherwise with
    | none => exact .of_pure _
    | some body => exact hev.block body
  | cons branch rest ih =>
    refine .bind (hev.expr branch.1).stmt fun c => .bind .of_get fun m => ?_
    exact .ite (hev.block branch.2) ih

theorem keeps_continues (hev : ev.Keeps G) (cond : Option Expr) :
    Meets G.expr G.cut (continues ev cond) := by
  cases cond with
  | none => exact .of_pure _
  | some cond => exact .bind (hev.expr cond) fun _ => .bind .of_get fun _ => .of_pure _

theorem keeps_runWhile (hev : ev.Keeps G) (cond : Option Expr) (body : List Stmt) (rounds : Nat) :
    Meets G.stmt G.cut (runWhile ev cond body rounds) := by
  induction rounds with
  | zero => exact keeps_outOfFuel
  | succ rounds ih =>
    refine .bind (keeps_continues hev cond).stmt fun again => .ite ?_ (.of_pure _)
    refine .bind (keeps_inScope hev [] body) fun signal => ?_
    split
    · exact .of_pure _
    · exact .of_pure _
    · exact ih

theorem keeps_runRows (hev : ev.Keeps G) (vars : List String) (body : List Stmt)
    (rows : List (List Value)) : Meets G.stmt G.cut (runRows ev vars body rows) := by
  induction rows with
  | nil => exact .of_pure _
  | cons row rest ih =>
    refine .bind (keeps_inScope hev _ body) fun signal => ?_
    split
    · exact .of_pure _
    · exact .of_pure _
    · exact ih

theorem keeps_register (body : List Stmt) (onlyOnFailure : Bool) :
    Meets G.stmt G.cut (register body onlyOnFailure) := by
  have hlog := fun text => Yields.log .evaluation .debug text
  refine ⟨⟨fun {m e m'} h => ?_⟩, fun {m m'} h => ?_⟩
  · rw [register, ended?_get_bind] at h
    cases hframes : m.frames with
    | nil =>
      rw [hframes] at h
      obtain ⟨rfl, rfl⟩ := Prod.mk.inj (Option.some.inj h)
      exact Guarantees.Lawful.noFrame hframes
    | cons groups outer =>
      rw [hframes] at h
      exact Guarantee.Lawful.trans (Guarantees.Lawful.register hframes rfl)
        (Guarantee.Lawful.quiet ((hlog _).keeps.of_ended h))
  · rw [register, get_bind_apply] at h
    cases hframes : m.frames with
    | nil =>
      rw [hframes] at h
      cases h
    | cons groups outer =>
      rw [hframes] at h
      exact absurd h ((hlog _).ne_outOfFuel _ _)

theorem keeps_runShell (hev : ev.Keeps G) (targets : ShellTargets) (command : Expr) (quiet : Bool)
    (catchBody failBody : Option (List Stmt)) :
    Meets G.stmt G.cut (runShell ev targets command quiet catchBody failBody) := by
  refine .bind (Block.keeps_evalText hev command).stmt fun text => ?_
  refine .bind (.ensure (noBug_shellSlots targets)) fun slots => .bind .of_get fun m => ?_
  refine .bind (.of_yields (yields_execute _ _ _ _)) fun reply => ?_
  refine .bind (.forM (fun slot => ?_) _) fun _ => .ite (.of_pure _) ?_
  · exact keeps_assign _ _
  · split
    · exact .bind (.log _ _ _) fun _ => hev.block _
    · exact .bind (.log _ _ _) fun _ => .bind (hev.block _) fun _ => .fail trivial
    · exact .fail trivial

theorem keeps_runKind (hev : ev.Keeps G) (rounds : Nat) (kind : StmtKind) :
    Meets G.stmt G.cut (runKind ev rounds kind) := by
  cases kind with
  | expr e => exact .bind (Expr.keeps_evalMulti hev e none).stmt fun _ => .of_pure _
  | assign targets values =>
    exact .bind (keeps_runAssign hev targets values) fun _ => .of_pure _
  | compoundAssign target op value =>
    refine .bind (keeps_readTarget hev target).stmt fun current => ?_
    refine .bind (hev.expr value).stmt fun rhs => ?_
    refine .bind (.ofStore (Operator.steady_binary op current rhs)) fun updated => ?_
    exact .bind (keeps_writeTarget hev updated target) fun _ => .of_pure _
  | step target delta =>
    refine .bind (keeps_readTarget hev target).stmt fun current => .bind .of_get fun m => ?_
    refine .bind (.ensure (Operator.noBug_unary m.store .plus current)) fun number => ?_
    refine .bind (.ofStore (Operator.steady_binary .add number _)) fun updated => ?_
    exact .bind (keeps_writeTarget hev updated target) fun _ => .of_pure _
  | unset name =>
    have hwrite : Meets G.stmt G.cut (do
        let m ← get
        ofStore (modifyGet (·.unset m.scope name true))) :=
      keeps_write (fun _ => ⟨_, rfl⟩) fun m => m.store.writes_unset m.scope name true
    have hnote :
        Meets G.stmt G.cut (log .evaluation .debug ("unset of unbound '" ++ name ++ "'")) :=
      .log _ _ _
    exact (hwrite.bind fun removed => hnote.when (c := !removed) fun _ => .of_pure none :)
  | branch branches otherwise => exact keeps_runBranches hev otherwise branches
  | whileLoop cond body => exact keeps_runWhile hev cond body rounds
  | forLoop vars iter body =>
    refine .bind (hev.expr iter).stmt fun iterable => .bind .of_get fun m => ?_
    refine .bind (.ensure (noBug_loopRows m.store _ iterable)) fun rows => ?_
    exact keeps_runRows hev vars body rows
  | breakLoop => exact .of_pure _
  | continueLoop => exact .of_pure _
  | returnValues values =>
    exact .bind (Expr.keeps_evalReturn hev values).stmt fun _ => .of_pure _
  | fnDef name params body ret =>
    have hwrite : Meets G.stmt G.cut (do
        let m ← get
        let f ← ofStore (modifyGet
          (·.newClosure { params, body := .block name body ret, scope := m.scope }))
        modifyStore (·.define m.scope name f)) :=
      keeps_write (fun _ => ⟨(), rfl⟩) fun m => m.store.writes_newClosure m.scope name _
    exact (hwrite.bind fun _ => .of_pure none :)
  | defer body onlyOnFailure => exact .bind (keeps_register body _) fun _ => .of_pure _
  | shell targets command quiet catchBody failBody =>
    exact keeps_runShell hev targets command quiet catchBody failBody
  | fieldDecl name path =>
    have hwrite : Meets G.stmt G.cut (do
        let m ← get
        modifyStore (·.defineField m.scope name path)) :=
      keeps_write (fun _ => ⟨(), rfl⟩) fun m => m.store.writes_defineField m.scope name path
    exact (hwrite.bind fun _ => .of_pure none :)
  | block kind source fields sort mods =>
    exact .bind (Block.keeps_run hev kind source fields sort mods) fun _ => .of_pure _

theorem keeps_runAll (hev : ev.Keeps G) (rounds : Nat) (body : List Stmt) :
    Meets G.stmt G.cut (runAll ev rounds body) := by
  induction body with
  | nil => exact .of_pure _
  | cons s rest ih =>
    obtain ⟨kind, span⟩ := s
    refine .bind (.atSpan span (keeps_runKind hev rounds kind)) fun signal => ?_
    split
    · exact .of_pure _
    · exact ih

end Stmt

/-- **Every evaluator keeps lawful guarantees**, however deep it goes. -/
theorem keeps_ofFuel (fuel : Nat) : (Evaluator.ofFuel fuel).Keeps G := by
  induction fuel with
  | zero =>
    exact ⟨fun _ => keeps_outOfFuel, fun _ => keeps_outOfFuel, fun _ _ => keeps_outOfFuel,
      fun _ _ => .outOfFuel Guarantees.Lawful.deferredCut_refl⟩
  | succ fuel ih =>
    exact {
      expr := Expr.keeps_eval ih
      block := Stmt.keeps_runAll ih fuel
      call := Callable.keeps_call ih
      deferred := fun groups frame => Guarantees.Lawful.groups groups frame ih }

end TableScript
