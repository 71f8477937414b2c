import TableScript.Proofs.Eval.Frames
import TableScript.Proofs.Eval.Steps

/-!
# Bugs that a script can meet

The one bug that can arise while a script runs is that the signal of a loop escapes from a function
or from the whole script. It is said of every failure that arises, also of those that are caught or
only noted, and of scripts that never end, too: the failures up to any point are those that have
arisen when the fuel runs out there.

1. `Tracked`: no frame is lost, and all failures that arose are explained;
2. `explaining`: expressions and statements are tracked where there is a frame, and deferred groups
   everywhere, because each opens a frame of its own;
3. `Script.bugs_are_escapes`: the bugs of a whole run are escaped signals, and built-in functions
   read no argument that the check of the call did not ensure.
-/

namespace TableScript

open Run

/-- No frame is lost, and the failures that arose are explained. -/
structure Tracked (m m' : Machine) : Prop where
  frames : m.frames.length ≤ m'.frames.length
  explained : FaultsExplained m m'

variable {α β : Type} {ev : Evaluator} {m m' m₁ m₂ m₃ : Machine}

theorem FaultsExplained.refl (m : Machine) : FaultsExplained m m := .of_eq rfl rfl

theorem Tracked.refl (m : Machine) : Tracked m m := ⟨Nat.le_refl _, .refl m⟩

theorem Tracked.trans (h : Tracked m₁ m₂) (h' : Tracked m₂ m₃) : Tracked m₁ m₃ :=
  ⟨Nat.le_trans h.frames h'.frames, h.explained.trans h'.explained⟩

theorem Tracked.of_still (h : Still m m') : Tracked m m' :=
  ⟨Nat.le_of_eq (congrArg List.length h.frames).symm, h.explained⟩

/-- There is a frame afterwards if there was one before. -/
theorem Tracked.frames_ne_nil (h : Tracked m m') (hm : m.frames ≠ []) : m'.frames ≠ [] := by
  have hlength := h.frames
  rw [← List.length_pos_iff] at hm ⊢
  omega

/-- All parts of an evaluator are tracked: deferred groups everywhere, the others in a frame. -/
def explaining : Guarantees where
  expr := fun _ m m' => m.frames ≠ [] → Tracked m m'
  stmt := fun _ m m' => m.frames ≠ [] → Tracked m m'
  deferred _ _ := fun _ => Tracked
  cut := fun m m' => m.frames ≠ [] → Tracked m m'
  deferredCut := Tracked

/-! ## The machine that is left -/

namespace Run

/-- The machine that a computation leaves, whatever comes of it. -/
def after (x : Run α) (m : Machine) : Machine :=
  match x m with
  | .ok _ m' => m'
  | .error _ m' => m'

/-- A relation that holds of every ending and of the end of the fuel holds of what is left. -/
theorem Meets.after {R : Machine → Machine → Prop} {x : Run α} (hx : Meets (fun _ => R) R x)
    (m : Machine) : R m (x.after m) := by
  unfold Run.after
  cases hrun : x m with
  | ok a m₁ => exact hx.of_ended (ended?_ok hrun)
  | error s m₁ =>
    cases s with
    | unwind u =>
      have hended : ended? (x m) = some (u.ending, m₁) := by rw [hrun]; rfl
      exact hx.of_ended hended
    | crash message =>
      have hended : ended? (x m) = some (.crashed, m₁) := by rw [hrun]; rfl
      exact hx.of_ended hended
    | outOfFuel => exact hx.of_cut hrun

theorem meets_of_after {R : Machine → Machine → Prop} {x : Run α}
    (hx : ∀ m, R m (x.after m)) : Meets (fun _ => R) R x := by
  refine ⟨⟨fun {m e m'} h => ?_⟩, fun {m m'} h => ?_⟩
  · have hafter := hx m
    unfold Run.after at hafter
    cases hrun : x m with
    | ok a m₁ =>
      rw [hrun] at h hafter
      obtain ⟨-, rfl⟩ := Prod.mk.inj (Option.some.inj h)
      exact hafter
    | error s m₁ =>
      rw [hrun] at h hafter
      cases s with
      | unwind u =>
        obtain ⟨-, rfl⟩ := Prod.mk.inj (Option.some.inj h)
        exact hafter
      | crash message =>
        obtain ⟨-, rfl⟩ := Prod.mk.inj (Option.some.inj h)
        exact hafter
      | outOfFuel => cases h
  · have hafter := hx m
    unfold Run.after at hafter
    rw [h] at hafter
    exact hafter

theorem after_attempt (x : Run α) (m : Machine) : (attempt x).after m = x.after m := by
  unfold after attempt
  cases x m with
  | ok a m₁ => rfl
  | error s m₁ => cases s <;> rfl

/-- What follows a caught result starts on the machine that is left. -/
theorem after_attempt_bind (x : Run α) (f : Except Unwind α → Run β) (m : Machine) :
    (attempt x >>= f).after m = x.after m ∨
      ∃ r, (attempt x >>= f).after m = (f r).after (x.after m) := by
  unfold after
  change (match EStateM.bind (attempt x) f m with | .ok _ m' => m' | .error _ m' => m') = _ ∨
    ∃ r, (match EStateM.bind (attempt x) f m with | .ok _ m' => m' | .error _ m' => m') = _
  unfold EStateM.bind attempt
  cases x m with
  | ok a m₁ => exact .inr ⟨.ok a, rfl⟩
  | error s m₁ =>
    cases s with
    | unwind u => exact .inr ⟨.error u, rfl⟩
    | crash message => exact .inl rfl
    | outOfFuel => exact .inl rfl

end Run

/-! ## Tracked computations -/

instance : Guarantee.Lawful fun _ => Tracked where
  quiet h := .of_still h.2
  trans := .trans

instance : Guarantee.Cuts (fun _ => Tracked) Tracked where
  refl := .refl
  trans := .trans

/-- A change that leaves frames, failures and transport alone. -/
theorem tracked_modify {f : Machine → Machine}
    (hf : ∀ m, (f m).frames = m.frames ∧ (f m).faults = m.faults ∧ (f m).transport = m.transport) :
    Meets (fun _ => Tracked) Tracked (modify f : Run PUnit) := by
  refine meets_of_after fun m => ?_
  obtain ⟨hframes, hfaults, htransport⟩ := hf m
  exact ⟨Nat.le_of_eq (congrArg List.length hframes).symm, .of_eq hfaults htransport⟩

theorem tracked_mark (e : FrameEvent) : Meets (fun _ => Tracked) Tracked (mark e) :=
  tracked_modify fun _ => ⟨rfl, rfl, rfl⟩

theorem tracked_record (t : Turn) : Meets (fun _ => Tracked) Tracked (record t) :=
  tracked_modify fun _ => ⟨rfl, rfl, rfl⟩

theorem tracked_changeExit (f : ExitStatus → ExitStatus) :
    Meets (fun _ => Tracked) Tracked (changeExit f) := by
  refine .bind .of_get fun m => .bind (tracked_modify fun _ => ⟨rfl, rfl, rfl⟩) fun _ => ?_
  split
  · exact .log _ _ _
  · exact .of_pure _

theorem tracked_resume (r : Except Unwind α) : Meets (fun _ => Tracked) Tracked (resume r) := by
  refine meets_of_after fun m => ?_
  cases r <;> exact .refl m

theorem tracked_endFrame (result : Except Unwind α) (deferred : Except Unwind Unit) :
    Meets (fun _ => Tracked) Tracked (endFrame result deferred) := by
  have hrest : Meets (fun _ => Tracked) Tracked (do
      let value ← resume result
      resume deferred
      return value) :=
    .bind (tracked_resume result) fun _ => .bind (tracked_resume deferred) fun _ => .of_pure _
  unfold endFrame
  refine .bind (tracked_mark _) fun _ => ?_
  split
  · exact .bind (tracked_record _) fun _ => hrest
  · exact hrest

theorem tracked_leaveCall (scope : Nat) (r : Except Unwind α) (d : Except Unwind Unit) :
    Meets (fun _ => Tracked) Tracked (enterScope scope >>= fun _ => endFrame r d) :=
  .bind (tracked_modify fun _ => ⟨rfl, rfl, rfl⟩) fun _ => tracked_endFrame r d

/-! ## Frames -/

/-- A frame is tracked from where it is opened, if its body and what comes at its end are. -/
theorem tracked_frame (hev : ev.Keeps explaining) (kind : FrameKind) {body : Run α}
    (hbody : Meets explaining.stmt explaining.cut body) (frame : Except Unwind α → Frame)
    {close : Except Unwind α → Except Unwind Unit → Run β}
    (hclose : ∀ r d, Meets (fun _ => Tracked) Tracked (close r d)) (m : Machine) :
    Tracked m (Run.after (do
      let result ← attempt body
      let groups ← leaveFrame (result.map fun _ => ())
      let deferred ← attempt (ev.deferred groups (frame result))
      close result deferred) (m.inside kind)) := by
  have hinside : Tracked (m.inside kind) (body.after (m.inside kind)) :=
    Meets.after (R := fun m m' => m.frames ≠ [] → Tracked m m') hbody _ (List.cons_ne_nil _ _)
  have hopened : Tracked m (m.inside kind) := ⟨Nat.le_succ _, .of_eq rfl rfl⟩
  obtain heq | ⟨result, heq⟩ := after_attempt_bind body _ (m.inside kind)
  · rw [heq]
    exact hopened.trans hinside
  rw [heq]
  -- the frame is left; there are as many around it as there were
  have hleft : Tracked m ((body.after (m.inside kind)).leftBy (result.map fun _ => ())) := by
    refine ⟨?_, (hopened.trans hinside).explained.trans (.of_eq rfl rfl)⟩
    have hlength := hinside.frames
    simp only [Machine.inside, Machine.leftBy, List.length_cons, List.length_tail] at hlength ⊢
    omega
  refine hleft.trans ?_
  have hgroups := (hev.deferred ((body.after (m.inside kind)).frames.headD []) (frame result)).after
    ((body.after (m.inside kind)).leftBy (result.map fun _ => ()))
  obtain heq | ⟨deferred, heq⟩ := after_attempt_bind
    (ev.deferred ((body.after (m.inside kind)).frames.headD []) (frame result)) (close result)
    ((body.after (m.inside kind)).leftBy (result.map fun _ => ()))
  · exact heq ▸ hgroups
  · exact heq ▸ hgroups.trans ((hclose result deferred).after _)

namespace Deferred

theorem tracked_runBody (hev : ev.Keeps explaining) (g : Deferred) :
    Meets (fun _ => Tracked) Tracked (runBody ev g) := by
  refine meets_of_after fun m => ?_
  exact tracked_frame hev (.group g m.scope) (hev.block g.body) _
    (fun r d => .bind (tracked_endFrame r d) fun _ => .of_pure _) m

/-- A group is tracked, although frames that it left open are dropped. -/
theorem tracked_isolated (hev : ev.Keeps explaining) (g : Deferred) :
    Meets (fun _ => Tracked) Tracked (isolated ev g) := by
  refine meets_of_after fun m => ?_
  have hbody := (tracked_runBody hev g).after { m with scope := g.scope }
  have hrestored : ∀ {m₁}, Tracked { m with scope := g.scope } m₁ →
      Tracked m (restored m.scope m.frames.length m₁) := by
    intro m₁ h
    refine ⟨?_, h.explained.faults, h.explained.answers⟩
    have hlength : m.frames.length ≤ m₁.frames.length := h.frames
    simp only [restored, List.length_drop]
    omega
  unfold after at hbody ⊢
  rw [isolated_eq]
  unfold guarded
  cases hrun : runBody ev g { m with scope := g.scope } with
  | ok a m₁ =>
    rw [hrun] at hbody
    exact hrestored hbody
  | error s m₁ =>
    rw [hrun] at hbody
    cases s with
    | unwind u => exact hrestored hbody
    | crash message => exact hrestored hbody
    | outOfFuel => exact ⟨hbody.frames, hbody.explained.faults, hbody.explained.answers⟩

theorem tracked_noteFailure (u : Unwind) : Meets (fun _ => Tracked) Tracked (noteFailure u) := by
  refine .bind .of_get fun m => .ite ?_ (.of_pure _)
  split
  · exact .log _ _ _
  · exact .bind (tracked_mark _) fun _ => .of_yields (.crash (P := fun _ => True) (by decide))

theorem tracked_settle (requested : Option Int32) (outcome : Except String (Except Unwind Unit)) :
    Meets (fun _ => Tracked) Tracked (settle requested outcome) := by
  rcases outcome with message | (⟨fault, span⟩ | code) | _
  · refine .bind (tracked_mark _) fun _ => .bind (tracked_record _) fun _ => ?_
    exact .bind (.log _ _ _) fun _ => .bind (tracked_changeExit _) fun _ => .of_pure _
  · refine .bind (tracked_record _) fun _ => .bind (tracked_noteFailure _) fun _ => ?_
    exact .bind (tracked_changeExit _) fun _ => .of_pure _
  · exact .bind .of_get fun m =>
      .ite (.bind (tracked_changeExit _) fun _ => .of_pure _) (.of_pure _)
  · exact .of_pure _

theorem tracked_runAll (hev : ev.Keeps explaining) (frame : Frame) (groups : List Deferred)
    (requested : Option Int32) :
    Meets (fun _ => Tracked) Tracked (runAll ev frame requested groups) := by
  induction groups generalizing requested with
  | nil =>
    cases requested with
    | none => exact .of_pure _
    | some code => exact meets_of_after .refl
  | cons g rest ih =>
    refine .bind .of_get fun m => .ite ?_ ?_
    · exact .bind (tracked_mark _) fun _ => .bind (.log _ _ _) fun _ => ih requested
    · refine .bind (tracked_isolated hev g) fun outcome => ?_
      exact .bind (tracked_settle requested outcome) fun requested' => ih requested'

end Deferred

/-! ## Evaluators -/

instance : Guarantee.Lawful explaining.expr where
  quiet h _ := .of_still h.2
  trans h h' hm := (h hm).trans (h' ((h hm).frames_ne_nil hm))

instance : Guarantee.Cuts explaining.expr explaining.cut where
  refl m _ := .refl m
  trans h h' hm := (h hm).trans (h' ((h hm).frames_ne_nil hm))

instance : explaining.Lawful where
  expr := inferInstance
  stmt := inferInstanceAs (Guarantee.Lawful explaining.expr)
  cuts := inferInstanceAs (Guarantee.Cuts explaining.expr explaining.cut)
  deferredCut_refl := .refl
  stmt_of_expr h := h
  write _ _ := ⟨Nat.le_refl _, .of_eq rfl rfl⟩
  inScope _ h hm := ⟨(h hm).frames, (h hm).explained.faults, (h hm).explained.answers⟩
  inScope_crashed h hm := ⟨(h hm).frames, (h hm).explained.faults, (h hm).explained.answers⟩
  inScope_cut h hm := ⟨(h hm).frames, (h hm).explained.faults, (h hm).explained.answers⟩
  register hframes _ _ := ⟨by simp [hframes], .of_eq rfl rfl⟩
  noFrame hframes hm := absurd hframes hm
  exit _ _ _ := ⟨Nat.le_refl _, .of_eq rfl rfl⟩
  frame parent vars hev hbody := by
    refine meets_of_after (R := fun m m' => m.frames ≠ [] → Tracked m m') fun m _ => ?_
    have hframe := tracked_frame hev .call hbody (fun r => .call (Callable.hasFailed r))
      (tracked_leaveCall m.scope) (m.inNewScope parent vars)
    exact ⟨hframe.frames, hframe.explained.faults, hframe.explained.answers⟩
  groups groups frame hev := Deferred.tracked_runAll hev frame groups none

/-! ## Scripts -/

instance : Guarantee.Lawful fun _ => FaultsExplained where
  quiet h := h.2.explained
  trans := .trans

instance : Guarantee.Cuts (fun _ => FaultsExplained) FaultsExplained where
  refl := .refl
  trans := .trans

theorem Run.Meets.explained {x : Run α} (hx : Meets (fun _ => Tracked) Tracked x) :
    Meets (fun _ => FaultsExplained) FaultsExplained x :=
  ⟨hx.toKeeps.mono Tracked.explained, fun h => (hx.of_cut h).explained⟩

theorem explained_attempt {x : Run α} (hx : Meets (fun _ => Tracked) Tracked x) :
    Meets (fun _ => FaultsExplained) FaultsExplained (attempt x) := by
  refine meets_of_after fun m => ?_
  rw [after_attempt]
  exact (hx.after m).explained

namespace Script

/-- Everything that goes wrong while a script runs is explained, from its first statement to its
last deferred group. -/
theorem explained_run (fuel : Nat) (s : Script) (m : Machine) :
    FaultsExplained (s.started m) ((s.run fuel).after m) := by
  have hev : (Evaluator.ofFuel fuel).Keeps explaining := keeps_ofFuel fuel
  have hblock : Tracked (s.started m)
      (((Evaluator.ofFuel fuel).block s.stmts).after (s.started m)) :=
    Meets.after (R := fun m m' => m.frames ≠ [] → Tracked m m') (hev.block s.stmts) _
      (List.cons_ne_nil _ _)
  change FaultsExplained _ (Run.after (attempt _ >>= _) (s.started m))
  obtain heq | ⟨r, heq⟩ :=
    after_attempt_bind ((Evaluator.ofFuel fuel).block s.stmts) _ (s.started m)
  · rw [heq]
    exact hblock.explained
  rw [heq]
  refine hblock.explained.trans (Meets.after (R := FaultsExplained) ?_ _)
  refine .bind (.of_yields (yields_conclude r)) fun c => ?_
  refine .bind (tracked_changeExit _).explained fun _ => .bind .of_get fun _ => ?_
  refine .bind (meets_of_after fun _ => .of_eq rfl rfl) fun groups => ?_
  refine .bind (explained_attempt (hev.deferred groups .script)) fun d => ?_
  refine .bind (tracked_mark _).explained fun _ => ?_
  split
  · exact .bind .of_get fun _ => .of_pure _
  · refine .bind (.log _ _ _) fun _ => .bind (tracked_changeExit _).explained fun _ => ?_
    exact .bind .of_get fun _ => .of_pure _

end Script

/-- A built-in function reads no argument that the check of its call did not ensure. -/
theorem Builtin.run_ne_argument_missing {b : Builtin} {c : CallArgs}
    (h : b.contract.check b.name c = .ok ()) (m m' : Machine) :
    b.run c m ≠ .error (.crash "argument out of range") m' := by
  intro hrun
  by_cases hb : b = .exit
  · subst hb
    change runExit c m = _ at hrun
    obtain ⟨code, hexit⟩ | ⟨f, m₁, hfail, -⟩ := runExit_cases c m
    · rw [hexit] at hrun
      cases hrun
    · rw [hfail] at hrun
      cases hrun
  · have hresult := yields_run hb (Contract.admits_of_check h) m
    rw [hrun] at hresult
    cases hresult with
    | crash _ hne => exact hne rfl

/-- **Bugs are escaped signals.** Whatever commands and documents a script gets, and however far it
runs, every bug that has arisen is the signal of a loop that escaped from a function or to the top
level, unless the transport itself answered with it. And a built-in function whose call has passed
its check never reads an argument that is not there. -/
theorem Script.bugs_are_escapes :
    (∀ (fuel : Nat) (s : Script) (m : Machine) (message : String),
      .bug message ∈ ((s.run fuel).after m).faults →
        EscapeNotice message ∨ .bug message ∈ m.transport.failures) ∧
    ∀ (b : Builtin) (c : CallArgs) (m m' : Machine), b.contract.check b.name c = .ok () →
      b.run c m ≠ .error (.crash "argument out of range") m' := by
  refine ⟨fun fuel s m message h => ?_, fun b c m m' h => Builtin.run_ne_argument_missing h m m'⟩
  obtain hold | hexplained | hanswer := (s.explained_run fuel m).faults h
  · exact absurd hold List.not_mem_nil
  · exact .inl hexplained
  · exact .inr hanswer

/-- A script with a function that breaks out of no loop, and a call of it. -/
def Script.breakingOut : Script where
  stmts := [.mk (.fnDef "f" [] [.mk .breakLoop none] none) none,
    .mk (.expr (.mk (.call (.mk (.ident "f") none) [] []) none)) none]

/-- The signal that escapes is a bug, and the only one; the length of a list can be asked for. -/
theorem Script.bugs_are_escapes_breakingOut :
    ((breakingOut.run 9).after {}).faults = [.bug "Break escaped from f()"] ∧
      EscapeNotice "Break escaped from f()" ∧
      Builtin.len.contract.check "len" { args := [.list 0] } = .ok () ∧
      ∀ m', Builtin.len.run { args := [.list 0] } {} ≠
        .error (.crash "argument out of range") m' := by
  have hrun : ((breakingOut.run 9).after {}).faults = [.bug "Break escaped from f()"] := by
    decide +kernel
  have hescape := bugs_are_escapes.1 9 breakingOut {} "Break escaped from f()" (by simp [hrun])
  refine ⟨hrun, hescape.resolve_right nofun, rfl, fun m' => ?_⟩
  exact bugs_are_escapes.2 .len { args := [.list 0] } {} m' rfl

end TableScript
