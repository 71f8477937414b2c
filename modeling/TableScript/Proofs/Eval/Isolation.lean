import TableScript.Proofs.Eval.ExitCode
import TableScript.Proofs.Eval.Oblivious

/-!
# Scripts do not see the scripts before them

A machine runs scripts one after the other. What a script leaves behind is what lies outside (the
answers that commands and addresses have left, and the events that happened) and nothing else.

1. Every step of evaluation is oblivious when the evaluator of its parts is (`ObliviousParts`), and
   so is every evaluator (`oblivious_ofFuel`) and the run of a script (`Script.oblivious_run`);
2. a script starts on a machine of which nothing but the settings and the outside is kept
   (`Script.started_eq`). So on a machine on which other scripts ran, however they ended, it does
   what it does on a fresh one (`Script.run_isolated`).
-/

namespace TableScript

open Run

/-- The parts of an evaluator are oblivious. -/
structure Evaluator.ObliviousParts (ev : Evaluator) : Prop where
  expr (e : Expr) : Oblivious (ev.expr e)
  block (body : List Stmt) : Oblivious (ev.block body)
  call (f : Callable) (args : CallArgs) : Oblivious (ev.call f args)
  deferred (groups : List Deferred) (frame : Frame) : Oblivious (ev.deferred groups frame)

variable {α : Type} {ev : Evaluator}

/-! ## Names, scopes and frames -/

namespace Run

theorem oblivious_lookup (name : String) : Oblivious (lookup name) := by
  refine .get_bind (fun m => ?_) fun _ _ => rfl
  split
  · exact .of_pure _
  · split
    · exact .of_pure _
    · exact .fail _

theorem oblivious_assign (name : String) (v : Value) : Oblivious (assign name v) :=
  .get_bind (fun _ => .modifyStore _) fun _ _ => rfl

theorem oblivious_openFrame (kind : FrameKind) : Oblivious (openFrame kind) :=
  .bind (.mark _) fun _ => .of_modify (fun _ _ => rfl) fun _ => ⟨rfl, rfl⟩

theorem oblivious_leaveFrame (how : Except Unwind Unit) : Oblivious (leaveFrame how) :=
  .bind (.mark _) fun _ => ⟨fun _ _ => rfl, fun _ => ⟨rfl, rfl⟩⟩

theorem oblivious_endFrame (result : Except Unwind α) (deferred : Except Unwind Unit) :
    Oblivious (endFrame result deferred) := by
  have hrest : Oblivious (resume result >>= fun value => resume deferred >>= fun _ => pure value) :=
    .bind (.resume _) fun _ => .bind (.resume _) fun _ => .of_pure _
  refine .bind (.mark _) fun _ => ?_
  split
  · exact .bind (.record _) fun _ => hrest
  · exact hrest

theorem oblivious_enterScope (s : Nat) : Oblivious (enterScope s) :=
  .of_modify (fun _ _ => rfl) fun _ => ⟨rfl, rfl⟩

theorem oblivious_newScope (parent : Nat) (vars : List (String × Value)) :
    Oblivious (newScope parent vars) :=
  .ofStore _

end Run

/-! ## Expressions -/

namespace Expr

theorem oblivious_calledFunction (callee : Expr) (v : Value) :
    Oblivious (calledFunction callee v) := by
  unfold calledFunction
  split
  · exact .of_pure _
  · exact .atSpan _ (.fail _)

theorem oblivious_resolveCallee (hev : ev.ObliviousParts) (callee : Expr) :
    Oblivious (resolveCallee ev callee) := by
  have hrest := oblivious_calledFunction callee
  unfold resolveCallee
  split
  · refine .get_bind (fun m => ?_) fun _ _ => rfl
    split
    · exact .bind (.of_pure _) hrest
    · split
      · exact .bind (.of_pure _) hrest
      · exact .bind (.atSpan _ (.fail _)) hrest
  · exact .bind (hev.expr callee) hrest

theorem oblivious_evalNamed (hev : ev.ObliviousParts) (named : List (String × Expr)) :
    Oblivious (evalNamed ev named) := by
  refine .mapM (fun arg => ?_) named
  exact .bind (hev.expr arg.2) fun _ => .of_pure _

theorem oblivious_evalMulti (hev : ev.ObliviousParts) (e : Expr) (expected : Option Nat) :
    Oblivious (evalMulti ev e expected) := by
  unfold evalMulti
  split
  · refine .bind (oblivious_resolveCallee hev _) fun f => .bind (.mapM hev.expr _) fun args => ?_
    exact .bind (oblivious_evalNamed hev _) fun named => .atSpan _ (hev.call f _)
  · exact .bind (hev.expr e) fun _ => .of_pure _

theorem oblivious_evalReturn (hev : ev.ObliviousParts) (exprs : List Expr) :
    Oblivious (evalReturn ev exprs) := by
  unfold evalReturn
  split
  · exact oblivious_evalMulti hev _ none
  · exact .mapM hev.expr _

theorem oblivious_evalEntries (hev : ev.ObliviousParts) (entries : List (Expr × Expr))
    (acc : List Entry) : Oblivious (evalEntries ev acc entries) := by
  induction entries generalizing acc with
  | nil => exact .of_pure _
  | cons entry rest ih =>
    refine .bind (hev.expr entry.1) fun key => .bind (hev.expr entry.2) fun value => ?_
    exact .bind (.atSpan _ (.ensure _)) fun _ => ih _

theorem oblivious_evalBound (hev : ev.ObliviousParts) (bound : Option Expr) :
    Oblivious (evalBound ev bound) := by
  cases bound with
  | none => exact .of_pure _
  | some e =>
    exact .bind (hev.expr e) fun _ => .bind (.atSpan _ (.ensure _)) fun _ => .of_pure _

theorem oblivious_evalBinary (hev : ev.ObliviousParts) (op : BinaryOp) (lhs rhs : Expr) :
    Oblivious (evalBinary ev op lhs rhs) := by
  refine .bind (hev.expr lhs) fun l => ?_
  split
  · exact .get_bind (fun _ => .ite (hev.expr rhs) (.of_pure _)) fun _ _ => rfl
  · exact .get_bind (fun _ => .ite (.of_pure _) (hev.expr rhs)) fun _ _ => rfl
  · exact .bind (hev.expr rhs) fun _ => .ofStore _

theorem oblivious_evalKind (hev : ev.ObliviousParts) (e : Expr) : Oblivious (evalKind ev e) := by
  unfold evalKind
  split
  · exact .of_pure _
  · exact oblivious_lookup _
  · exact .bind (.mapM hev.expr _) fun _ => .ofStore _
  · exact .bind (oblivious_evalEntries hev _ _) fun _ => .ofStore _
  · exact oblivious_evalBinary hev _ _ _
  · exact .bind (hev.expr _) fun _ => .get_bind (fun _ => .ensure _) fun _ _ => rfl
  · refine .bind (hev.expr _) fun _ => .get_bind (fun _ => ?_) fun _ _ => rfl
    exact .ite (hev.expr _) (hev.expr _)
  · refine .bind (hev.expr _) fun _ => .bind (hev.expr _) fun _ => ?_
    exact .get_bind (fun _ => .ensure _) fun _ _ => rfl
  · refine .bind (hev.expr _) fun _ => .bind (oblivious_evalBound hev _) fun _ => ?_
    exact .bind (oblivious_evalBound hev _) fun _ => .ofStore _
  · refine .bind (oblivious_evalMulti hev e (some 1)) fun values => ?_
    split
    · exact .of_pure _
    · exact .fail _
  · exact .get_bind (fun _ => .ofStore _) fun _ _ => rfl

theorem oblivious_eval (hev : ev.ObliviousParts) (e : Expr) : Oblivious (e.eval ev) :=
  .atSpan _ (oblivious_evalKind hev e)

end Expr

/-! ## Calls -/

namespace Callable

theorem oblivious_bindParams (name : String) (c : Closure) (args : CallArgs) :
    Oblivious (bindParams name c args) := by
  unfold bindParams
  split
  · exact .atSpan _ (.fail _)
  · exact .ite (.atSpan _ (.fail _)) (oblivious_newScope _ _)

theorem oblivious_runBody (hev : ev.ObliviousParts) (c : Closure) : Oblivious (runBody ev c) := by
  unfold runBody
  split
  · exact .bind (.mapM hev.expr _) fun _ => .of_pure _
  · refine .bind (hev.block _) fun signal => ?_
    split
    · exact .fail _
    · exact .fail _
    · exact .of_pure _
  · refine .bind (hev.block _) fun signal => ?_
    split
    · exact .of_pure _
    · exact .fail _
    · split
      · exact .bind (Expr.oblivious_evalReturn hev _) fun _ => .of_pure _
      · exact .of_pure _

theorem oblivious_inFrame (hev : ev.ObliviousParts) (scope : Nat) {body : Run α}
    (hbody : Oblivious body) : Oblivious (inFrame ev scope body) := by
  refine .get_bind (fun m => ?_) fun _ _ => rfl
  refine .bind (oblivious_enterScope _) fun _ => .bind (oblivious_openFrame _) fun _ => ?_
  refine .bind hbody.attempt fun result => .bind (oblivious_leaveFrame _) fun groups => ?_
  refine .bind (hev.deferred _ _).attempt fun deferred => ?_
  exact .bind (oblivious_enterScope _) fun _ => oblivious_endFrame result deferred

theorem oblivious_checkReturns (name : String) (returned : Option (List Value)) (args : CallArgs) :
    Oblivious (checkReturns name returned args) := by
  unfold checkReturns
  split
  · exact .of_pure _
  · exact .ite (.atSpan _ (.fail _)) (.of_pure _)
  · exact .ite (.atSpan _ (.fail _)) (.of_pure _)

theorem oblivious_call (hev : ev.ObliviousParts) (f : Callable) (args : CallArgs) :
    Oblivious (f.call ev args) := by
  unfold call
  split
  · exact Builtin.oblivious_call args _
  · refine .get_bind (fun m => ?_) fun _ _ => rfl
    split
    · exact .stop _
    · refine .bind (oblivious_bindParams _ _ args) fun scope => ?_
      refine .bind (oblivious_inFrame hev scope (oblivious_runBody hev _)) fun returned => ?_
      exact oblivious_checkReturns _ returned args

end Callable

/-! ## Blocks -/

namespace Block

theorem oblivious_fieldPath (name : String) : Oblivious (fieldPath name) := by
  refine .get_bind (fun m => ?_) fun _ _ => rfl
  split
  · exact .of_pure _
  · exact .fail _

theorem oblivious_bindColumns (fields : List String) (capture : Capture) :
    Oblivious (bindColumns capture fields) := by
  induction fields generalizing capture with
  | nil => exact .of_pure _
  | cons name rest ih =>
    exact .bind (.ofStore _) fun list => .bind (oblivious_assign name list) fun _ => ih _

theorem oblivious_bindFields (fields : List String) (document : Json) :
    Oblivious (bindFields fields document) := by
  refine .bind (.mapM oblivious_fieldPath fields) fun paths => .bind (.ensure _) fun capture => ?_
  exact .bind (.log _ _ _) fun _ => oblivious_bindColumns fields capture

theorem oblivious_columnList (name : String) : Oblivious (columnList name) :=
  .bind (oblivious_lookup name) fun _ => .ensure _

theorem oblivious_replaceItems (list : Nat) (items : List Value) :
    Oblivious (replaceItems list items) :=
  .modifyStore _

theorem oblivious_mapColumn (hev : ev.ObliviousParts) (f : Callable) (name : String) :
    Oblivious (mapColumn ev f name) := by
  refine .bind (oblivious_columnList name) fun list => .get_bind (fun m => ?_) fun _ _ => rfl
  refine .bind (.mapM (fun cell => ?_) _) fun mapped => oblivious_replaceItems list mapped
  exact .bind (hev.call f _) fun _ => .of_pure _

theorem oblivious_colourColumn (pattern : Pattern.Regex) (style : Style) (name : String) :
    Oblivious (colourColumn pattern style name) :=
  .bind (oblivious_columnList name) fun _ =>
    .get_bind (fun _ => oblivious_replaceItems _ _) fun _ _ => rfl

theorem oblivious_evalText (hev : ev.ObliviousParts) (e : Expr) : Oblivious (evalText ev e) :=
  .bind (hev.expr e) fun _ => .bind (.atSpan _ (.ensure _)) fun _ => .of_pure _

theorem oblivious_colourColumns (hev : ev.ObliviousParts) (fields : List String) (pattern : Expr)
    (style : Style) : Oblivious (do
      let text ← evalText ev pattern
      let compiled ← match Pattern.Regex.compile text with
        | .ok r => pure r
        | .error e => atSpan pattern.span (fail (.parse e.message))
      fields.forM (colourColumn compiled style)) := by
  have hcolumns r : Oblivious (fields.forM (colourColumn r style)) :=
    .forM (oblivious_colourColumn r style) fields
  refine .bind (oblivious_evalText hev pattern) fun text => ?_
  split
  · exact .bind (.of_pure _) hcolumns
  · exact .bind (.atSpan _ (.fail _)) hcolumns

theorem oblivious_applyMod (hev : ev.ObliviousParts) (mod : FieldMod) :
    Oblivious (applyMod ev mod) := by
  cases mod with
  | map fields function =>
    refine .bind (hev.expr function) fun v => .bind (.atSpan _ (.ensure _)) fun f => ?_
    exact .forM (oblivious_mapColumn hev f) fields
  | colour fields colour pattern =>
    refine .bind (oblivious_evalText hev colour) fun name => ?_
    split
    · exact .bind (.of_pure _) (oblivious_colourColumns hev fields pattern)
    · exact .bind (.atSpan _ (.fail _)) (oblivious_colourColumns hev fields pattern)

theorem oblivious_checkRows (first : String) (rows : Nat) (columns : List (String × List Value)) :
    Oblivious (checkRows first rows columns) := by
  induction columns with
  | nil => exact .of_pure _
  | cons column rest ih => exact .ite (.fail _) ih

theorem oblivious_sortColumns (fields : List String) (lists : List Nat)
    (columns : List (List Value)) (sort : Option SortSpec) :
    Oblivious (sortColumns fields lists columns sort) := by
  cases sort with
  | none => exact .of_pure _
  | some spec =>
    refine .bind (.lift _) fun rules => .bind (.lift _) fun sorted => ?_
    exact .bind (.forM (fun _ => oblivious_replaceItems _ _) _) fun _ => .of_pure _

theorem oblivious_fetchFields (hev : ev.ObliviousParts) (fields : List String)
    (source : Option Expr) : Oblivious (fetchFields ev fields source) := by
  cases source with
  | none => exact .of_pure _
  | some source =>
    refine .bind (oblivious_evalText hev source) fun url => .bind (.log _ _ _) fun _ => ?_
    exact .bind (.atSpan _ (oblivious_fetch url)) (oblivious_bindFields fields)

theorem oblivious_showTable (fields : List String) (rows : Nat) (columns : List (List Value)) :
    Oblivious (showTable fields rows columns) :=
  .get_bind (fun _ => .bind .colour fun _ => .forM (fun _ => .emit _) _) fun _ _ => rfl

theorem oblivious_run (hev : ev.ObliviousParts) (kind : BlockKind) (source : Option Expr)
    (fields : List String) (sort : Option SortSpec) (mods : List FieldMod) :
    Oblivious (run ev kind source fields sort mods) := by
  unfold run
  split
  · exact .fail _
  · refine .bind (oblivious_fetchFields hev _ source) fun _ => ?_
    refine .bind (.forM (oblivious_applyMod hev) mods) fun _ => ?_
    refine .bind (.mapM oblivious_columnList _) fun lists => .get_bind (fun m => ?_) fun _ _ => rfl
    refine .bind (oblivious_checkRows _ _ _) fun _ => ?_
    refine .bind (oblivious_sortColumns _ _ _ _).noted fun columns => ?_
    split
    · exact .log _ _ _
    · exact oblivious_showTable _ _ columns

end Block

/-! ## Deferred groups -/

namespace Deferred

theorem oblivious_runBody (hev : ev.ObliviousParts) (g : Deferred) : Oblivious (runBody ev g) := by
  refine .get_bind (fun m => ?_) fun _ _ => rfl
  refine .bind (oblivious_openFrame _) fun _ => .bind (hev.block g.body).attempt fun result => ?_
  refine .bind (oblivious_leaveFrame _) fun nested => ?_
  refine .bind (hev.deferred _ _).attempt fun deferred => ?_
  exact .bind (oblivious_endFrame result deferred) fun _ => .of_pure _

theorem oblivious_isolated (hev : ev.ObliviousParts) (g : Deferred) :
    Oblivious (isolated ev g) := by
  refine .get_bind (fun m => .get_bind (fun m' => ?_) fun _ _ => rfl) fun _ _ => rfl
  refine .bind (oblivious_enterScope _) fun _ => .bind (oblivious_runBody hev g).guarded ?_
  intro outcome
  exact .bind (.of_modify (fun _ _ => rfl) fun _ => ⟨rfl, rfl⟩) fun _ => .of_pure _

theorem oblivious_noteFailure (u : Unwind) : Oblivious (noteFailure u) := by
  refine .get_bind (fun m => .ite ?_ (.of_pure _)) fun _ _ => rfl
  split
  · exact .log _ _ _
  · exact .bind (.mark _) fun _ => .stop _

theorem oblivious_settle (requested : Option Int32)
    (outcome : Except String (Except Unwind Unit)) : Oblivious (settle requested outcome) := by
  unfold settle
  split
  · exact .of_pure _
  · refine .get_bind (fun m => .ite ?_ (.of_pure _)) fun _ _ => rfl
    exact .bind (.changeExit _) fun _ => .of_pure _
  · refine .bind (.record _) fun _ => .bind (oblivious_noteFailure _) fun _ => ?_
    exact .bind (.changeExit _) fun _ => .of_pure _
  · refine .bind (.mark _) fun _ => .bind (.record _) fun _ => .bind (.log _ _ _) fun _ => ?_
    exact .bind (.changeExit _) fun _ => .of_pure _

theorem oblivious_runAll (hev : ev.ObliviousParts) (frame : Frame) (groups : List Deferred)
    (requested : Option Int32) : Oblivious (runAll ev frame requested groups) := by
  induction groups generalizing requested with
  | nil =>
    unfold runAll
    split
    · exact .stop _
    · exact .of_pure _
  | cons g rest ih =>
    refine .get_bind (fun m => .ite ?_ ?_) fun m past => ?_
    · exact .bind (.mark _) fun _ => .bind (.log _ _ _) fun _ => ih requested
    · refine .bind (oblivious_isolated hev g) fun outcome => ?_
      exact .bind (oblivious_settle requested outcome) ih
    · cases frame <;> rfl

end Deferred

/-! ## Statements -/

namespace Stmt

theorem oblivious_follow (hev : ev.ObliviousParts) (path : List Expr) (container : Value) :
    Oblivious (follow ev container path) := by
  induction path generalizing container with
  | nil => exact .of_pure _
  | cons e rest ih =>
    refine .bind (hev.expr e) fun key => .get_bind (fun m => ?_) fun _ _ => rfl
    exact .bind (.atSpan _ (.ensure _)) ih

theorem oblivious_readTarget (hev : ev.ObliviousParts) (target : Target) :
    Oblivious (readTarget ev target) := by
  obtain ⟨name, path⟩ := target
  exact .bind (oblivious_lookup name) (oblivious_follow hev path)

theorem oblivious_writePath (hev : ev.ObliviousParts) (v : Value) (rest : List Expr)
    (container : Value) (e : Expr) : Oblivious (writePath ev v container e rest) := by
  induction rest generalizing container e with
  | nil => exact .bind (hev.expr e) fun _ => .atSpan _ (.ofStore _)
  | cons next rest ih =>
    refine .bind (hev.expr e) fun key => .get_bind (fun m => ?_) fun _ _ => rfl
    exact .bind (.atSpan _ (.ensure _)) fun inner => ih inner next

theorem oblivious_writeTarget (hev : ev.ObliviousParts) (v : Value) (target : Target) :
    Oblivious (writeTarget ev v target) := by
  obtain ⟨name, path⟩ := target
  cases path with
  | nil => exact oblivious_assign name v
  | cons e rest =>
    exact .bind (oblivious_lookup name) fun w => oblivious_writePath hev v rest w e

theorem oblivious_assignedValues (hev : ev.ObliviousParts) (count : Nat) (values : List Expr) :
    Oblivious (assignedValues ev count values) := by
  refine .ite (.mapM hev.expr values) ?_
  split
  · exact Expr.oblivious_evalMulti hev _ _
  · exact .of_pure _

theorem oblivious_runAssign (hev : ev.ObliviousParts) (targets : List Target)
    (values : List Expr) : Oblivious (runAssign ev targets values) := by
  refine .bind (oblivious_assignedValues hev _ values) fun vals => .ite (.fail _) ?_
  exact .forM (fun pair : Target × Value => oblivious_writeTarget hev pair.2 pair.1) _

theorem oblivious_inScope (hev : ev.ObliviousParts) (vars : List (String × Value))
    (body : List Stmt) : Oblivious (inScope ev vars body) := by
  refine .get_bind (fun m => .bind (oblivious_newScope _ _) fun scope => ?_) fun _ _ => rfl
  refine .bind (oblivious_enterScope _) fun _ => .bind (hev.block body).attempt fun result => ?_
  exact .bind (oblivious_enterScope _) fun _ => .resume result

theorem oblivious_runBranches (hev : ev.ObliviousParts) (otherwise : Option (List Stmt))
    (branches : List (Expr × List Stmt)) : Oblivious (runBranches ev otherwise branches) := by
  induction branches with
  | nil =>
    cases otherwise with
    | none => exact .of_pure _
    | some body => exact hev.block body
  | cons branch rest ih =>
    refine .bind (hev.expr branch.1) fun c => .get_bind (fun m => ?_) fun _ _ => rfl
    exact .ite (hev.block branch.2) ih

theorem oblivious_continues (hev : ev.ObliviousParts) (cond : Option Expr) :
    Oblivious (continues ev cond) := by
  cases cond with
  | none => exact .of_pure _
  | some cond =>
    exact .bind (hev.expr cond) fun _ => .get_bind (fun _ => .of_pure _) fun _ _ => rfl

theorem oblivious_runWhile (hev : ev.ObliviousParts) (cond : Option Expr) (body : List Stmt)
    (rounds : Nat) : Oblivious (runWhile ev cond body rounds) := by
  induction rounds with
  | zero => exact .stop _
  | succ rounds ih =>
    refine .bind (oblivious_continues hev cond) fun again => .ite ?_ (.of_pure _)
    refine .bind (oblivious_inScope hev [] body) fun signal => ?_
    split
    · exact .of_pure _
    · exact .of_pure _
    · exact ih

theorem oblivious_runRows (hev : ev.ObliviousParts) (vars : List String) (body : List Stmt)
    (rows : List (List Value)) : Oblivious (runRows ev vars body rows) := by
  induction rows with
  | nil => exact .of_pure _
  | cons row rest ih =>
    refine .bind (oblivious_inScope hev _ body) fun signal => ?_
    split
    · exact .of_pure _
    · exact .of_pure _
    · exact ih

/-- Registering writes the machine back that it has read, so it is a change of the machine. -/
theorem register_eq (body : List Stmt) (onlyOnFailure : Bool) :
    register body onlyOnFailure = (do
      let m ← get
      match m.frames with
      | [] => fail (.bug "defer with no active frame")
      | groups :: outer =>
        let g : Deferred := { body, onlyOnFailure, scope := m.scope }
        modify fun m => { m with
          frames := (g :: groups) :: outer
          history := .registered g :: m.history }
        log .evaluation .debug ("registered " ++ (if onlyOnFailure then "errdefer" else "defer") ++
          " (group " ++ toString (g :: groups).length ++ ")")) := by
  funext m
  rcases m with ⟨store, scope, _ | ⟨groups, outer⟩⟩
  · rfl
  · rfl

theorem oblivious_register (body : List Stmt) (onlyOnFailure : Bool) :
    Oblivious (register body onlyOnFailure) := by
  rw [register_eq]
  refine .get_bind (fun m => ?_) fun _ _ => rfl
  split
  · exact .fail _
  · exact .bind (.of_modify (fun _ _ => rfl) fun _ => ⟨rfl, rfl⟩) fun _ => .log _ _ _

theorem oblivious_runShell (hev : ev.ObliviousParts) (targets : ShellTargets) (command : Expr)
    (quiet : Bool) (catchBody failBody : Option (List Stmt)) :
    Oblivious (runShell ev targets command quiet catchBody failBody) := by
  refine .bind (Block.oblivious_evalText hev command) fun text => .bind (.ensure _) fun slots => ?_
  refine .get_bind (fun m => .bind (oblivious_execute _ _ _ _) fun reply => ?_) fun _ _ => rfl
  refine .bind (.forM (fun slot => ?_) _) fun _ => .ite (.of_pure _) ?_
  · exact oblivious_assign _ _
  · split
    · exact .bind (.log _ _ _) fun _ => hev.block _
    · exact .bind (.log _ _ _) fun _ => .bind (hev.block _) fun _ => .fail _
    · exact .fail _

theorem oblivious_runKind (hev : ev.ObliviousParts) (rounds : Nat) (kind : StmtKind) :
    Oblivious (runKind ev rounds kind) := by
  cases kind with
  | expr e => exact .bind (Expr.oblivious_evalMulti hev e none) fun _ => .of_pure _
  | assign targets values =>
    exact .bind (oblivious_runAssign hev targets values) fun _ => .of_pure _
  | compoundAssign target op value =>
    refine .bind (oblivious_readTarget hev target) fun current => .bind (hev.expr value) fun _ => ?_
    refine .bind (.ofStore _) fun updated => ?_
    exact .bind (oblivious_writeTarget hev updated target) fun _ => .of_pure _
  | step target delta =>
    refine .bind (oblivious_readTarget hev target) fun current => ?_
    refine .get_bind (fun m => .bind (.ensure _) fun number => ?_) fun _ _ => rfl
    refine .bind (.ofStore _) fun updated => ?_
    exact .bind (oblivious_writeTarget hev updated target) fun _ => .of_pure _
  | unset name =>
    refine .get_bind (fun m => .bind (.ofStore _) fun removed => ?_) fun _ _ => rfl
    exact .when (.log _ _ _) fun _ => .of_pure _
  | branch branches otherwise => exact oblivious_runBranches hev otherwise branches
  | whileLoop cond body => exact oblivious_runWhile hev cond body rounds
  | forLoop vars iter body =>
    refine .bind (hev.expr iter) fun iterable => .get_bind (fun m => ?_) fun _ _ => rfl
    exact .bind (.ensure _) (oblivious_runRows hev vars body)
  | breakLoop => exact .of_pure _
  | continueLoop => exact .of_pure _
  | returnValues values => exact .bind (Expr.oblivious_evalReturn hev values) fun _ => .of_pure _
  | fnDef name params body ret =>
    refine .get_bind (fun m => .bind (.ofStore _) fun f => ?_) fun _ _ => rfl
    exact .bind (.modifyStore _) fun _ => .of_pure _
  | defer body onlyOnFailure => exact .bind (oblivious_register body _) fun _ => .of_pure _
  | shell targets command quiet catchBody failBody =>
    exact oblivious_runShell hev targets command quiet catchBody failBody
  | fieldDecl name path =>
    exact .get_bind (fun _ => .bind (.modifyStore _) fun _ => .of_pure _) fun _ _ => rfl
  | block kind source fields sort mods =>
    exact .bind (Block.oblivious_run hev kind source fields sort mods) fun _ => .of_pure _

theorem oblivious_runAll (hev : ev.ObliviousParts) (rounds : Nat) (body : List Stmt) :
    Oblivious (runAll ev rounds body) := by
  induction body with
  | nil => exact .of_pure _
  | cons s rest ih =>
    obtain ⟨kind, span⟩ := s
    refine .bind (.atSpan span (oblivious_runKind hev rounds kind)) fun signal => ?_
    split
    · exact .of_pure _
    · exact ih

end Stmt

/-- **Every evaluator is oblivious**, however deep it goes. -/
theorem oblivious_ofFuel (fuel : Nat) : (Evaluator.ofFuel fuel).ObliviousParts := by
  induction fuel with
  | zero => exact ⟨fun _ => .stop _, fun _ => .stop _, fun _ _ => .stop _, fun _ _ => .stop _⟩
  | succ fuel ih =>
    exact {
      expr := Expr.oblivious_eval ih
      block := Stmt.oblivious_runAll ih fuel
      call := Callable.oblivious_call ih
      deferred := fun groups frame => Deferred.oblivious_runAll ih frame groups none }

/-! ## Scripts -/

namespace Script

variable {m : Machine}

theorem oblivious_report (u : Unwind) : Oblivious (report u) := by
  refine .get_bind (fun m => ?_) fun _ _ => rfl
  split
  · exact .bind (.log _ _ _) fun _ => .of_pure _
  · exact .stop _

theorem oblivious_conclude (result : Except Unwind (Option Signal)) :
    Oblivious (conclude result) := by
  unfold conclude
  split
  · exact .of_pure _
  · exact .of_pure _
  · refine .bind (.of_modify (fun _ _ => rfl) fun _ => ⟨rfl, rfl⟩) fun _ => ?_
    exact .bind (oblivious_report _) fun _ => .of_pure _
  · exact .of_pure _
  · exact .bind (oblivious_report _) fun _ => .of_pure _

/-- What a script does once the machine is set up for it. -/
def body (ev : Evaluator) (s : Script) : Run Outcome := do
  let (code, diagnostics) ← conclude (← attempt (ev.block s.stmts))
  changeExit fun e => (e.begin code).1
  let groups ← leaveFrame (.error (.exit (← get).exit.initialCode))
  let deferred ← attempt (ev.deferred groups .script)
  mark .closed
  match deferred with
  | .ok () => pure ()
  | .error u =>
    log .evaluation .error u.message
    changeExit (·.escalate 1)
  return { exitCode := (← get).exit.code, diagnostics }

theorem run_eq (fuel : Nat) (s : Script) (m : Machine) :
    s.run fuel m = s.body (.ofFuel fuel) (s.started m) := rfl

theorem oblivious_body (hev : ev.ObliviousParts) (s : Script) : Oblivious (s.body ev) := by
  have hend (diagnostics : List String) : Oblivious (do
      return { exitCode := (← get).exit.code, diagnostics } : Run Outcome) :=
    .get_bind (fun _ => .of_pure _) fun _ _ => rfl
  refine .bind (hev.block s.stmts).attempt fun result => ?_
  refine .bind (oblivious_conclude result) fun concluded => .bind (.changeExit _) fun _ => ?_
  refine .get_bind (fun m => .bind (oblivious_leaveFrame _) fun groups => ?_) fun _ _ => rfl
  refine .bind (hev.deferred groups .script).attempt fun deferred => .bind (.mark _) fun _ => ?_
  split
  · exact hend _
  · exact .bind (.log _ _ _) fun _ => .bind (.changeExit _) fun _ => hend _

theorem sameSettings_run (fuel : Nat) (s : Script) (m : Machine) :
    SameSettings m (left (s.run fuel m)) := by
  have hsettings := (oblivious_body (oblivious_ofFuel fuel) s).settings (s.started m)
  exact ⟨hsettings.config, hsettings.logLevel⟩

end Script

/-- A machine that no script has run on yet. -/
def Machine.fresh (config : Config) (logLevel : Option LogLevel) (shell : CommandRunner)
    (transport : Transport) : Machine :=
  { config, logLevel, shell, transport }

/-- A machine after scripts have run on it one after the other, each with some fuel and however it
ended. -/
inductive Machine.RanFrom (first : Machine) : Machine → Prop
  | start : RanFrom first first
  | next {m : Machine} (fuel : Nat) (s : Script) :
    RanFrom first m → RanFrom first (left (s.run fuel m))

theorem Machine.RanFrom.sameSettings {first m : Machine} (h : first.RanFrom m) :
    SameSettings first m := by
  induction h with
  | start => exact .refl first
  | next fuel s _ ih => exact ih.trans (s.sameSettings_run fuel _)

namespace Script

/-- Of the machine that a script finds, it starts with the settings and the outside, and with the
events of earlier scripts in front of its own. -/
theorem started_eq {first m : Machine} (h : SameSettings first m) (s : Script) :
    s.started m =
      (s.started (.fresh first.config first.logLevel m.shell m.transport)).after m.events := by
  obtain ⟨hconfig, hlevel⟩ := h
  simp [started, Machine.fresh, Machine.after, hconfig, hlevel]

/-- **Scripts are isolated.** On a machine on which any scripts have run, however they ended, a
script ends as on a fresh machine with the same settings and with what the earlier scripts left of
the outside: with the same outcome, the same new events, the same store and globals, and the same
outside. -/
theorem run_isolated {config : Config} {logLevel : Option LogLevel} {shell : CommandRunner}
    {transport : Transport} {m : Machine}
    (h : (Machine.fresh config logLevel shell transport).RanFrom m) (fuel : Nat) (s : Script) :
    s.run fuel m =
        resultAfter m.events (s.run fuel (.fresh config logLevel m.shell m.transport)) ∧
      ∀ outcome m', s.run fuel m = .ok outcome m' →
        ∃ m₁, s.run fuel (.fresh config logLevel m.shell m.transport) = .ok outcome m₁ ∧
          m'.events = m.events ++ m₁.events ∧ m'.store = m₁.store ∧ m'.globals = m₁.globals ∧
          m'.shell = m₁.shell ∧ m'.transport = m₁.transport := by
  have hrun : s.run fuel m =
      resultAfter m.events (s.run fuel (.fresh config logLevel m.shell m.transport)) := by
    have hbody := oblivious_body (oblivious_ofFuel fuel) s
    rw [run_eq, run_eq, started_eq h.sameSettings s]
    exact hbody.after _ m.events
  refine ⟨hrun, fun outcome m' hm' => ?_⟩
  rw [hrun] at hm'
  cases hfresh : s.run fuel (.fresh config logLevel m.shell m.transport) with
  | error stop m₁ =>
    rw [hfresh] at hm'
    cases hm'
  | ok outcome₁ m₁ =>
    rw [hfresh] at hm'
    obtain ⟨rfl, rfl⟩ := EStateM.Result.ok.inj hm'
    exact ⟨m₁, rfl, rfl, rfl, rfl, rfl, rfl⟩

/-- A script that sets a variable, prints and exits with code three. -/
def leavingTraces : Script :=
  { stmts := [.mk (.assign [.mk "x" []] [.mk (.literal (.int 1)) none]) none,
      deferStmt (callStmt "print" [7]), callStmt "exit" [3]] }

/-- A machine on which the script has run. -/
def traced : Machine :=
  left (leavingTraces.run 9 (.fresh { echo := false } none (.scripted []) .none))

/-- A script that prints ends well on a machine that another script left with an exit code. -/
theorem run_isolated_traced :
    (Machine.fresh { echo := false } none (.scripted []) .none).RanFrom traced ∧
      traced.exit.code = 3 ∧ traced.events = #[.out "7"] ∧
      ∃ m', ({ stmts := [callStmt "print" [8]] } : Script).run 9 traced = .ok ⟨0, []⟩ m' := by
  have hran : (Machine.fresh { echo := false } none (.scripted []) .none).RanFrom traced :=
    .next 9 leavingTraces .start
  have hfresh : finished? (({ stmts := [callStmt "print" [8]] } : Script).run 9
      (.fresh { echo := false } none traced.shell traced.transport)) = some (0, [], []) := by
    decide +kernel
  obtain ⟨m₁, hm₁, -⟩ := eq_ok_of_finished? hfresh
  obtain ⟨hrun, -⟩ := run_isolated hran 9 { stmts := [callStmt "print" [8]] }
  rw [hm₁] at hrun
  exact ⟨hran, by decide +kernel, by decide +kernel, _, hrun⟩

end Script
end TableScript
