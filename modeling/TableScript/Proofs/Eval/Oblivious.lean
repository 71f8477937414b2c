import TableScript.Eval.Script

/-!
# Computations that do not look back

Events are only ever added. A computation is *oblivious* when it comes to the same, whatever
happened before it, and adds the same events; and it leaves the settings of the machine alone,
however it ends.

1. `Oblivious` can be put together: a computation is oblivious when its parts are, and when what it
   reads of the machine is not the events (`Oblivious.get_bind`);
2. running a command, fetching a document and calling a built-in function are oblivious
   (`Builtin.oblivious_call`).
-/

namespace TableScript

/-- The machine when other events happened before its own. -/
def Machine.after (m : Machine) (past : Array Event) : Machine :=
  { m with events := past ++ m.events }

/-- The settings of a machine are as before. -/
structure SameSettings (m m' : Machine) : Prop where
  config : m'.config = m.config
  logLevel : m'.logLevel = m.logLevel

theorem SameSettings.refl (m : Machine) : SameSettings m m := ⟨rfl, rfl⟩

theorem SameSettings.trans {m₁ m₂ m₃ : Machine} (h : SameSettings m₁ m₂)
    (h' : SameSettings m₂ m₃) : SameSettings m₁ m₃ :=
  ⟨h'.config.trans h.config, h'.logLevel.trans h.logLevel⟩

namespace Run

variable {α β γ : Type}

/-- What a computation comes to when other events happened before. -/
def resultAfter (past : Array Event) :
    EStateM.Result Stop Machine α → EStateM.Result Stop Machine α
  | .ok a m => .ok a (m.after past)
  | .error s m => .error s (m.after past)

/-- The machine that a computation leaves, however it ends. -/
def left : EStateM.Result Stop Machine α → Machine
  | .ok _ m => m
  | .error _ m => m

/-- A computation that does not look at what happened before and leaves the settings alone. -/
structure Oblivious (x : Run α) : Prop where
  after (m : Machine) (past : Array Event) : x (m.after past) = resultAfter past (x m)
  settings (m : Machine) : SameSettings m (left (x m))

namespace Oblivious

variable {x : Run α}

theorem of_pure (a : α) : Oblivious (pure a : Run α) := ⟨fun _ _ => rfl, fun m => .refl m⟩

theorem stop (s : Stop) : Oblivious (throw s : Run α) := ⟨fun _ _ => rfl, fun m => .refl m⟩

theorem bind {f : α → Run β} (hx : Oblivious x) (hf : ∀ a, Oblivious (f a)) :
    Oblivious (x >>= f) := by
  refine ⟨fun m past => ?_, fun m => ?_⟩
  · change EStateM.bind x f _ = resultAfter past (EStateM.bind x f m)
    unfold EStateM.bind
    rw [hx.after]
    cases x m with
    | ok a m₁ => exact (hf a).after m₁ past
    | error s m₁ => rfl
  · change SameSettings m (left (EStateM.bind x f m))
    unfold EStateM.bind
    have hsettings := hx.settings m
    generalize x m = r at hsettings ⊢
    cases r with
    | ok a m₁ => exact hsettings.trans ((hf a).settings m₁)
    | error s m₁ => exact hsettings

/-- A computation that looks at the machine first, but not at its events. -/
theorem get_bind {f : Machine → Run α} (hf : ∀ m, Oblivious (f m))
    (hread : ∀ m past, f (m.after past) = f m) : Oblivious (get >>= f) := by
  refine ⟨fun m past => ?_, fun m => (hf m).settings m⟩
  change f (m.after past) (m.after past) = resultAfter past (f m m)
  rw [hread]
  exact (hf m).after m past

/-- A change of the machine that neither reads nor changes the events and the settings. -/
theorem of_modify {g : Machine → Machine} (hg : ∀ m past, g (m.after past) = (g m).after past)
    (hsettings : ∀ m, SameSettings m (g m)) : Oblivious (modify g : Run PUnit) :=
  ⟨fun m past => congrArg (EStateM.Result.ok PUnit.unit) (hg m past), hsettings⟩

theorem ite {c : Prop} [Decidable c] {y : Run α} (hx : Oblivious x) (hy : Oblivious y) :
    Oblivious (if c then x else y) := by
  split
  · exact hx
  · exact hy

/-- A computation that takes place only under a condition, and what follows it. -/
theorem when {c : Prop} [Decidable c] {y : Run PUnit} {k : PUnit → Run β} (hy : Oblivious y)
    (hk : ∀ u, Oblivious (k u)) : Oblivious (if c then y >>= k else k ⟨⟩) :=
  ite (hy.bind hk) (hk ⟨⟩)

theorem mapM {f : β → Run γ} (hf : ∀ b, Oblivious (f b)) (bs : List β) :
    Oblivious (bs.mapM f) := by
  induction bs with
  | nil => exact of_pure _
  | cons b bs ih =>
    rw [List.mapM_cons]
    exact (hf b).bind fun _ => ih.bind fun _ => of_pure _

theorem forM {f : β → Run PUnit} (hf : ∀ b, Oblivious (f b)) (bs : List β) :
    Oblivious (bs.forM f) := by
  induction bs with
  | nil => exact of_pure _
  | cons b bs ih => exact (hf b).bind fun _ => ih

/-! ### What steps are made of -/

theorem lift (r : Except Fault α) : Oblivious (lift r) := by
  cases r with
  | ok a => exact of_pure a
  | error f => exact stop _

/-- A computation that only makes something else of what another one comes to. What it makes of a
result is seen on any computation that comes to it. -/
theorem of_result {y : Run β} (hx : Oblivious x)
    (g : EStateM.Result Stop Machine α → EStateM.Result Stop Machine β) (hy : ∀ m, y m = g (x m))
    (hafter : ∀ r past, g (resultAfter past r) = resultAfter past (g r))
    (hsettings : ∀ r, SameSettings (left r) (left (g r))) : Oblivious y := by
  refine ⟨fun m past => ?_, fun m => ?_⟩
  · rw [hy, hy, hx.after, hafter]
  · rw [hy]
    exact (hx.settings m).trans (hsettings _)

theorem noted (hx : Oblivious x) : Oblivious (noted x) := by
  refine hx.of_result (fun r => Run.noted (fun _ => r) {}) (fun _ => rfl) (fun r past => ?_)
    fun r => ?_
  · rcases r with ⟨a, m⟩ | ⟨⟨⟨f, span⟩ | code⟩ | message | _, m⟩ <;> rfl
  · rcases r with ⟨a, m⟩ | ⟨⟨⟨f, span⟩ | code⟩ | message | _, m⟩ <;> exact ⟨rfl, rfl⟩

theorem fail (f : Fault) : Oblivious (fail f : Run α) :=
  .bind (.of_modify (fun _ _ => rfl) fun _ => ⟨rfl, rfl⟩) fun _ => stop _

theorem ensure (r : Except Fault α) : Oblivious (ensure r) := (lift r).noted

theorem ofStore (x : StoreM α) : Oblivious (ofStore x) := by
  refine ⟨fun m past => ?_, fun m => ?_⟩
  · unfold Run.ofStore Machine.after
    dsimp only
    cases x m.store <;> rfl
  · unfold Run.ofStore
    dsimp only
    cases x m.store <;> exact ⟨rfl, rfl⟩

theorem atSpan (span : Option Span) (hx : Oblivious x) : Oblivious (atSpan span x) := by
  refine hx.of_result (fun r => Run.atSpan span (fun _ => r) {}) (fun _ => rfl) (fun r past => ?_)
    fun r => ?_
  · rcases r with ⟨a, m⟩ | ⟨u | message | _, m⟩ <;> rfl
  · rcases r with ⟨a, m⟩ | ⟨u | message | _, m⟩ <;> exact .refl m

theorem attempt (hx : Oblivious x) : Oblivious (attempt x) := by
  refine hx.of_result (fun r => Run.attempt (fun _ => r) {}) (fun _ => rfl) (fun r past => ?_)
    fun r => ?_
  · rcases r with ⟨a, m⟩ | ⟨u | message | _, m⟩ <;> rfl
  · rcases r with ⟨a, m⟩ | ⟨u | message | _, m⟩ <;> exact .refl m

theorem guarded (hx : Oblivious x) : Oblivious (guarded x) := by
  refine hx.of_result (fun r => Run.guarded (fun _ => r) {}) (fun _ => rfl) (fun r past => ?_)
    fun r => ?_
  · rcases r with ⟨a, m⟩ | ⟨u | message | _, m⟩ <;> rfl
  · rcases r with ⟨a, m⟩ | ⟨u | message | _, m⟩ <;> exact .refl m

theorem resume (r : Except Unwind α) : Oblivious (resume r) := by
  cases r with
  | ok a => exact of_pure a
  | error u => exact stop _

/-- An event comes after all that happened before. -/
theorem emit (e : Event) : Oblivious (emit e) := by
  refine of_modify (fun m past => ?_) fun _ => ⟨rfl, rfl⟩
  unfold Machine.after
  rw [Array.append_push]

theorem log (source : LogSource) (level : LogLevel) (text : String) :
    Oblivious (log source level text) :=
  get_bind (fun _ => ite (emit _) (of_pure _)) fun _ _ => rfl

theorem record (t : Turn) : Oblivious (record t) := of_modify (fun _ _ => rfl) fun _ => ⟨rfl, rfl⟩

theorem mark (e : FrameEvent) : Oblivious (mark e) := of_modify (fun _ _ => rfl) fun _ => ⟨rfl, rfl⟩

theorem changeExit (f : ExitStatus → ExitStatus) : Oblivious (changeExit f) := by
  refine get_bind (fun m => ?_) fun _ _ => rfl
  refine bind (of_modify (fun _ _ => rfl) fun _ => ⟨rfl, rfl⟩) fun _ => ?_
  split
  · exact log _ _ _
  · exact of_pure _

theorem colour : Oblivious colour := get_bind (fun _ => of_pure _) fun _ _ => rfl

theorem modifyStore (f : Store → Store) : Oblivious (modifyStore f) :=
  of_modify (fun _ _ => rfl) fun _ => ⟨rfl, rfl⟩

end Oblivious

/-! ## The outside world -/

theorem oblivious_programReply (host : Shell.Host) (program text : String)
    (captureOut captureErr quiet : Bool) :
    Oblivious (programReply host program text captureOut captureErr quiet) := by
  unfold programReply
  refine .when (.log _ _ _) fun _ => .ite (.of_pure _) ?_
  refine .bind (.of_modify (fun _ _ => rfl) fun _ => ⟨rfl, rfl⟩) fun _ => ?_
  refine .when (.emit _) fun _ => .when (.emit _) fun _ => ?_
  exact .bind (.log _ _ _) fun _ => .of_pure _

theorem oblivious_execute (text : String) (captureOut captureErr quiet : Bool) :
    Oblivious (execute text captureOut captureErr quiet) := by
  refine .bind (.emit _) fun _ => .get_bind (fun m => ?_) fun _ _ => rfl
  split
  · exact .bind (.of_modify (fun _ _ => rfl) fun _ => ⟨rfl, rfl⟩) fun _ => .of_pure _
  · exact oblivious_programReply _ _ _ _ _ _

theorem oblivious_fetch (url : String) : Oblivious (fetch url) := by
  refine .get_bind (fun m => ?_) fun _ _ => rfl
  split
  · exact .fail _
  · refine .bind (.emit _) fun _ => ?_
    split
    · exact .bind (.log _ _ _) fun _ => .of_pure _
    · exact .fail _
  · refine .bind (.emit _) fun _ => ?_
    split
    · exact .fail _
    · exact .bind (.of_modify (fun _ _ => rfl) fun _ => ⟨rfl, rfl⟩) fun _ => .ensure _

theorem oblivious_arg (c : CallArgs) (i : Nat) : Oblivious (c.arg i) := by
  unfold CallArgs.arg
  split
  · exact .of_pure _
  · exact .stop _

end Run

/-! ## Built-in functions -/

namespace Builtin

open Run

variable (c : CallArgs)

theorem oblivious_richText (v : Value) : Oblivious (richText v) := by
  unfold richText
  split
  · exact .of_pure _
  · exact .get_bind (fun _ => .of_pure _) fun _ _ => rfl

theorem oblivious_joined : Oblivious (joined c) :=
  .get_bind (fun _ => .bind .colour fun _ => .of_pure _) fun _ _ => rfl

theorem oblivious_plainArg (i : Nat) : Oblivious (plainArg c i) :=
  .bind (oblivious_arg c i) fun _ => .bind (.ensure _) fun _ => .of_pure _

theorem oblivious_listArg (i : Nat) : Oblivious (listArg c i) :=
  .bind (oblivious_arg c i) fun _ => .bind (.ensure _) fun _ =>
    .get_bind (fun _ => .of_pure _) fun _ _ => rfl

theorem oblivious_mapArg (i : Nat) : Oblivious (mapArg c i) :=
  .bind (oblivious_arg c i) fun _ => .bind (.ensure _) fun _ =>
    .get_bind (fun _ => .of_pure _) fun _ _ => rfl

theorem oblivious_returnList (items : List Value) : Oblivious (returnList items) :=
  .bind (.ofStore _) fun _ => .of_pure _

theorem oblivious_compile (pattern : String) : Oblivious (compile pattern) := by
  unfold compile
  split
  · exact .of_pure _
  · exact .fail _

theorem oblivious_channel (v : Value) : Oblivious (channel v) :=
  .bind (.ensure _) fun _ => .ite (.of_pure _) (.fail _)

theorem oblivious_fallible (result : Except Unwind Value) : Oblivious (fallible c result) := by
  unfold fallible
  split
  · exact .of_pure _
  · exact .of_pure _
  · exact .of_pure _
  · exact .stop _

theorem oblivious_rangeList (start stop step : Int64) : Oblivious (rangeList start stop step) :=
  .ite (.fail _) (oblivious_returnList _)

theorem oblivious_runLen : Oblivious (runLen c) := by
  refine .get_bind (fun m => .bind (oblivious_arg c 0) fun v => ?_) fun _ _ => rfl
  split
  · exact .of_pure _
  · exact .of_pure _
  · exact .of_pure _
  · exact .fail _

theorem oblivious_runInt : Oblivious (runInt c) := by
  refine .bind (oblivious_arg c 0) fun v => ?_
  split
  · exact .ite (.of_pure _) (.fail _)
  · exact .bind (.ensure _) fun _ => .of_pure _

theorem oblivious_runFloat : Oblivious (runFloat c) := by
  refine .bind (oblivious_arg c 0) fun v => ?_
  split
  · exact .of_pure _
  · exact .bind (.ensure _) fun _ => .of_pure _

theorem oblivious_runJoin : Oblivious (runJoin c) :=
  .bind (oblivious_plainArg c 1) fun _ => .bind (oblivious_listArg c 0) fun _ =>
    .get_bind (fun _ => .of_pure _) fun _ _ => rfl

theorem oblivious_runReplace : Oblivious (runReplace c) :=
  .bind (oblivious_plainArg c 0) fun _ => .bind (oblivious_plainArg c 1) fun _ =>
    .bind (oblivious_compile _) fun _ => .bind (oblivious_plainArg c 2) fun _ => .of_pure _

theorem oblivious_runIsMatch : Oblivious (runIsMatch c) :=
  .bind (oblivious_plainArg c 0) fun _ => .bind (oblivious_plainArg c 1) fun _ =>
    .bind (oblivious_compile _) fun _ => .of_pure _

theorem oblivious_runTruncate : Oblivious (runTruncate c) := by
  refine .bind (oblivious_arg c 0) fun _ => .bind (.ensure _) fun _ => ?_
  refine .bind (oblivious_arg c 1) fun _ => .bind (.ensure _) fun _ => ?_
  exact .ite (.fail _) (.ite (.of_pure _) (.of_pure _))

theorem oblivious_runRange : Oblivious (runRange c) := by
  refine .bind (.mapM (fun _ => .ensure _) _) fun words => ?_
  split
  · exact oblivious_rangeList _ _ _
  · exact oblivious_rangeList _ _ _
  · exact oblivious_rangeList _ _ _
  · exact .fail _

theorem oblivious_runSort : Oblivious (runSort c) := by
  have hrest (backwards : Bool) : Oblivious (do
      let items ← listArg c 0
      returnList (← ensure (Rows.sortValues items
        (if backwards then .descending else .ascending)))) :=
    .bind (oblivious_listArg c 0) fun _ => .bind (.ensure _) fun _ => oblivious_returnList _
  unfold runSort
  split
  · exact .bind (.ensure _) hrest
  · exact hrest false

theorem oblivious_runAbs : Oblivious (runAbs c) := by
  refine .bind (oblivious_arg c 0) fun v => ?_
  split
  · exact .ite (.fail _) (.of_pure _)
  · exact .bind (.ensure _) fun _ => .of_pure _

theorem oblivious_runPow : Oblivious (runPow c) :=
  .bind (oblivious_arg c 0) fun _ => .bind (.ensure _) fun _ => .bind (oblivious_arg c 1) fun _ =>
    .bind (.ensure _) fun _ => .of_pure _

theorem oblivious_runExit : Oblivious (runExit c) := by
  have hrest (code : Int64) : Oblivious (do
      if Int32.minValue.toInt ≤ code.toInt ∧ code.toInt ≤ Int32.maxValue.toInt then
        record (.exitAsked (.ofInt code.toInt))
        throw (.unwind (.exit (.ofInt code.toInt)))
      else fail (.typeMismatch ("exit code " ++ toString code ++ " out of range")) :
      Run (List Value)) :=
    .ite (.bind (.record _) fun _ => .stop _) (.fail _)
  unfold runExit
  split
  · exact .bind (.ensure _) hrest
  · exact hrest 0

theorem oblivious_runSleep : Oblivious (runSleep c) := by
  refine .bind (oblivious_arg c 0) fun _ => .bind (.ensure _) fun _ => ?_
  exact .ite (.fail _) (.ite (.stop _) (.of_pure _))

theorem oblivious_valueOfJson (j : Json) : Oblivious (valueOfJson j) := .ofStore _

/-- What is made of the value that a text or an address stands for. -/
theorem oblivious_attempt_fallible {x : Run Value} (hx : Oblivious x) :
    Oblivious (attempt x >>= fallible c) :=
  .bind hx.attempt (oblivious_fallible c)

theorem oblivious_runParseJson : Oblivious (runParseJson c) := by
  refine .bind (oblivious_plainArg c 0) fun s => oblivious_attempt_fallible c ?_
  split
  · exact oblivious_valueOfJson _
  · exact .fail _

theorem oblivious_runParseInt : Oblivious (runParseInt c) := by
  refine .bind (oblivious_plainArg c 0) fun s => oblivious_attempt_fallible c ?_
  split
  · exact .of_pure _
  · exact .fail _

theorem oblivious_runParseFloat : Oblivious (runParseFloat c) := by
  refine .bind (oblivious_plainArg c 0) fun s => oblivious_attempt_fallible c ?_
  split
  · exact .of_pure _
  · exact .fail _

theorem oblivious_runHttpGet : Oblivious (runHttpGet c) := by
  refine .bind (oblivious_plainArg c 0) fun url => oblivious_attempt_fallible c ?_
  exact .bind (oblivious_fetch url) oblivious_valueOfJson

theorem oblivious_runRgb : Oblivious (runRgb c) := by
  refine .bind (oblivious_arg c 1) fun r => .bind (oblivious_channel r) fun _ => ?_
  refine .bind (oblivious_arg c 2) fun g => .bind (oblivious_channel g) fun _ => ?_
  refine .bind (oblivious_arg c 3) fun b => .bind (oblivious_channel b) fun _ => ?_
  exact .bind (oblivious_arg c 0) fun v => .bind (oblivious_richText v) fun _ => .of_pure _

theorem oblivious_runStyle (name : String) : Oblivious (runStyle name c) := by
  unfold runStyle
  split
  · exact .bind (oblivious_arg c 0) fun v => .bind (oblivious_richText v) fun _ => .of_pure _
  · exact .fail _

theorem oblivious_run (b : Builtin) : Oblivious (b.run c) := by
  cases b with
  | print | printErr =>
    exact .bind (oblivious_joined c) fun _ => .bind (.emit _) fun _ => .of_pure _
  | debug => exact .bind (oblivious_joined c) fun _ => .bind (.log _ _ _) fun _ => .of_pure _
  | len => exact oblivious_runLen c
  | typeOf => exact .bind (oblivious_arg c 0) fun _ => .of_pure _
  | str => exact .bind (oblivious_arg c 0) fun v => .bind (oblivious_richText v) fun _ => .of_pure _
  | int => exact oblivious_runInt c
  | float => exact oblivious_runFloat c
  | upper | lower =>
    exact .bind (oblivious_arg c 0) fun _ => .bind (.ensure _) fun _ => .of_pure _
  | join => exact oblivious_runJoin c
  | split =>
    exact .bind (oblivious_plainArg c 0) fun _ => .bind (oblivious_plainArg c 1) fun _ =>
      oblivious_returnList _
  | replace => exact oblivious_runReplace c
  | isMatch => exact oblivious_runIsMatch c
  | startsWith | endsWith =>
    exact .bind (oblivious_plainArg c 1) fun _ => .bind (oblivious_plainArg c 0) fun _ => .of_pure _
  | truncate => exact oblivious_runTruncate c
  | keys | values => exact .bind (oblivious_mapArg c 0) fun _ => oblivious_returnList _
  | range => exact oblivious_runRange c
  | unique =>
    exact .bind (oblivious_listArg c 0) fun _ =>
      .get_bind (fun _ => oblivious_returnList _) fun _ _ => rfl
  | sort => exact oblivious_runSort c
  | abs => exact oblivious_runAbs c
  | pow => exact oblivious_runPow c
  | exit => exact oblivious_runExit c
  | error => exact .bind (oblivious_plainArg c 0) fun _ => .of_pure _
  | sleep => exact oblivious_runSleep c
  | parseJson => exact oblivious_runParseJson c
  | parseInt => exact oblivious_runParseInt c
  | parseFloat => exact oblivious_runParseFloat c
  | httpGet => exact oblivious_runHttpGet c
  | hyperlink =>
    exact .bind (oblivious_plainArg c 1) fun _ => .bind (oblivious_arg c 0) fun v =>
      .bind (oblivious_richText v) fun _ => .of_pure _
  | rgb => exact oblivious_runRgb c
  | style name known => exact oblivious_runStyle c name

theorem oblivious_call (b : Builtin) : Oblivious (b.call c) :=
  .atSpan _ (.bind (.ensure _) fun _ => oblivious_run c b)

end Builtin
end TableScript
