import TableScript.Proofs.Eval.Quiet

/-!
# How frames end

What happens when a frame ends, said once for all that is proved about it.

1. `FrameEnds`: the body runs, then the groups it registered; unless one of the two crashes, the
   frame ends with what the body ended with, and with what the groups ended with if the body was
   done. Calls (`ended?_inNewFrame`) and deferred groups (`isolated_eq_ok`) are frames of this kind;
2. `Settled`: what is made of the ending of a group;
3. `ended?_runAll_cons`: one group after the other, and `runWith_eq_ok`: a whole script.
-/

namespace TableScript

open Run

namespace Ending

/-- The ending of a frame, from those of its body and of its groups. -/
def andThen : Ending → Ending → Ending
  | .done, e => e
  | e, _ => e

/-- The turn at the end of a frame: an exit that groups ask for gives way to the body's own. -/
def overruled : Ending → Ending → List Turn
  | .exited own, .exited asked => [.exitOverruled own asked]
  | _, _ => []

/-- A failure, or an exit with a code other than zero. -/
def isFailure : Ending → Bool
  | .failed => true
  | .exited code => code ≠ 0
  | _ => false

/-- The ending of a deferred group. -/
def ofOutcome : Except String (Except Unwind Unit) → Ending
  | .ok r => ofResult r
  | .error _ => .crashed

/-- What is recorded of a group's ending itself. -/
def caught : Ending → List FrameEvent
  | .crashed => [.caught]
  | _ => []

end Ending

/-- Whether a frame counts as failed after an ending of its body: a deferred group fails with any
exit. -/
def FrameKind.failedBy : FrameKind → Ending → Bool
  | .group _ _, e => e ≠ .done
  | _, e => e.isFailure

variable {α : Type} {ev : Evaluator} {m m' : Machine} {e : Ending}

/-! ## Notes and changes of the exit status -/

/-- A computation that always gives a value hands the machine over to what follows. -/
theorem ended?_bind_of_done {x : Run Unit} {R : Machine → Prop}
    (hx : ∀ {e m'}, ended? (x m) = some (e, m') → e = .done ∧ R m') {k : Unit → Run α}
    (h : ended? ((x >>= k) m) = some (e, m')) : ∃ m₁, R m₁ ∧ ended? (k () m₁) = some (e, m') := by
  obtain ⟨hne, h⟩ | ⟨_, m₁, hok, h⟩ := ended?_bind h
  · exact absurd (hx h).1 hne
  · exact ⟨m₁, (hx (ended?_ok hok)).2, h⟩

theorem ended?_log {source : LogSource} {level : LogLevel} {text : String}
    (h : ended? (log source level text m) = some (e, m')) : e = .done ∧ Still m m' := by
  have hquiet : quietly e m m' := (Yields.log source level text).keeps.of_ended h
  rw [log, ended?_get_bind] at h
  split at h <;> exact ⟨(congrArg Prod.fst (Option.some.inj h)).symm, hquiet.2⟩

/-- A change of the exit status, with the note of it, is quiet otherwise. -/
theorem ended?_changeExit {f : ExitStatus → ExitStatus}
    (h : ended? (changeExit f m) = some (e, m')) :
    e = .done ∧ Still { m with exit := f m.exit } m' := by
  rw [changeExit, ended?_get_bind, ended?_modify_bind] at h
  cases hn : m.exit.note? (f m.exit) with
  | some note =>
    rw [hn] at h
    exact ended?_log h
  | none =>
    rw [hn] at h
    obtain ⟨rfl, rfl⟩ := Prod.mk.inj (Option.some.inj h)
    exact ⟨rfl, .refl _⟩

theorem Still.withExit (h : Still m m') (f : ExitStatus → ExitStatus) :
    Still { m with exit := f m.exit } { m' with exit := f m'.exit } :=
  ⟨⟨h.scope, h.frames, congrArg f h.exit, h.turns, h.history⟩, h.scopes, h.explained.faults,
    h.explained.answers⟩

/-! ## Frames -/

/-- The machine in a frame that has just been opened. -/
def Machine.inside (m : Machine) (kind : FrameKind) : Machine :=
  { m with frames := [] :: m.frames, history := .opened kind :: m.history }

/-- The machine after the innermost frame has been left. -/
def Machine.leftBy (m : Machine) (how : Except Unwind Unit) : Machine :=
  { m with frames := m.frames.tail, history := .left how :: m.history }

/-- How a frame ends that has just been opened on a machine. -/
inductive FrameEnds (ev : Evaluator) (kind : FrameKind) (body : Run α) (m : Machine) :
    Ending → Machine → Prop
  | bodyCrashed {m₁ : Machine} : ended? (body (m.inside kind)) = some (.crashed, m₁) →
      FrameEnds ev kind body m .crashed m₁
  | groupsCrashed {how : Except Unwind Unit} {m₁ m₂ : Machine} :
      ended? (body (m.inside kind)) = some (.ofResult how, m₁) →
      ended? (ev.deferred (m₁.frames.headD []) (.call (kind.failedBy (.ofResult how)))
        (m₁.leftBy how)) = some (.crashed, m₂) →
      FrameEnds ev kind body m .crashed m₂
  | ended {how : Except Unwind Unit} {e₂ : Ending} {m₁ m₂ : Machine} : e₂ ≠ .crashed →
      ended? (body (m.inside kind)) = some (.ofResult how, m₁) →
      ended? (ev.deferred (m₁.frames.headD []) (.call (kind.failedBy (.ofResult how)))
        (m₁.leftBy how)) = some (e₂, m₂) →
      FrameEnds ev kind body m ((Ending.ofResult how).andThen e₂)
        { m₂ with
          turns := (Ending.ofResult how).overruled e₂ ++ m₂.turns
          history := .closed :: m₂.history }

theorem ended?_endFrame (result : Except Unwind α) (deferred : Except Unwind Unit) (m : Machine) :
    ended? (endFrame result deferred m) =
      some ((Ending.ofResult result).andThen (.ofResult deferred), { m with
        turns := (Ending.ofResult result).overruled (.ofResult deferred) ++ m.turns
        history := .closed :: m.history }) := by
  rcases result with (⟨f, s⟩ | own) | a <;> rcases deferred with (⟨f', s'⟩ | asked) | _ <;> rfl

theorem Ending.andThen_ne_crashed {e₁ e₂ : Ending} (h₁ : e₁ ≠ .crashed) (h₂ : e₂ ≠ .crashed) :
    e₁.andThen e₂ ≠ .crashed := by
  cases e₁ with
  | done => exact h₂
  | failed => exact nofun
  | exited code => exact nofun
  | crashed => exact absurd rfl h₁

@[simp] theorem Ending.ofResult_map {β : Type} (r : Except Unwind α) (f : α → β) :
    ofResult (r.map f) = ofResult r := by
  cases r <;> rfl

theorem hasFailed_eq (r : Except Unwind α) :
    Callable.hasFailed r = FrameKind.call.failedBy (.ofResult r) := by
  rcases r with (⟨f, s⟩ | code) | a <;> rfl

theorem not_isOk_eq (g : Deferred) (scope : Nat) (r : Except Unwind α) :
    (!r.isOk) = (FrameKind.group g scope).failedBy (.ofResult r) := by
  rcases r with (⟨f, s⟩ | code) | a <;> rfl

/-- A call runs its body as a frame in a new scope, and the caller's scope is restored unless there
is a crash. -/
theorem ended?_inNewFrame {parent : Nat} {vars : List (String × Value)} {body : Run α}
    (h : ended? ((newScope parent vars >>= fun s => Callable.inFrame ev s body) m) =
      some (e, m')) :
    ∃ m₁, FrameEnds ev .call body (m.inNewScope parent vars) e m₁ ∧
      m' = if e = .crashed then m₁ else { m₁ with scope := m.scope } := by
  change ended? ((attempt body >>= _) ((m.inNewScope parent vars).inside .call)) = _ at h
  obtain ⟨rfl, hcrash⟩ | ⟨result, m₁, hbody, h⟩ := ended?_attempt_bind h
  · exact ⟨m', .bodyCrashed hcrash, rfl⟩
  -- the groups run on the machine without the frame
  change ended? ((attempt _ >>= _) (m₁.leftBy (result.map fun _ => ()))) = some (e, m') at h
  rw [← Ending.ofResult_map result fun _ => ()] at hbody
  rw [hasFailed_eq, ← Ending.ofResult_map result fun _ => ()] at h
  obtain ⟨rfl, hcrash⟩ | ⟨deferred, m₂, hgroups, h⟩ := ended?_attempt_bind h
  · exact ⟨m', .groupsCrashed hbody hcrash, rfl⟩
  rw [enterScope, ended?_modify_bind, ended?_endFrame] at h
  obtain ⟨rfl, rfl⟩ := Prod.mk.inj (Option.some.inj h)
  have hframe := FrameEnds.ended (Ending.ofResult_ne_crashed deferred) hbody hgroups
  rw [Ending.ofResult_map] at hframe
  refine ⟨_, hframe, ?_⟩
  rw [if_neg (Ending.andThen_ne_crashed (Ending.ofResult_ne_crashed result)
    (Ending.ofResult_ne_crashed deferred))]

namespace Deferred

/-- The statements of a group run as a frame. -/
theorem ended?_runBody {g : Deferred} (h : ended? (runBody ev g m) = some (e, m')) :
    FrameEnds ev (.group g m.scope) (ev.block g.body) m e m' := by
  rw [runBody, ended?_get_bind] at h
  change ended? ((attempt _ >>= _) (m.inside (.group g m.scope))) = _ at h
  obtain ⟨rfl, hcrash⟩ | ⟨result, m₁, hbody, h⟩ := ended?_attempt_bind h
  · exact .bodyCrashed hcrash
  change ended? ((attempt _ >>= _) (m₁.leftBy (result.map fun _ => ()))) = some (e, m') at h
  rw [← Ending.ofResult_map result fun _ => ()] at hbody
  rw [not_isOk_eq g m.scope, ← Ending.ofResult_map result fun _ => ()] at h
  obtain ⟨rfl, hcrash⟩ | ⟨deferred, m₂, hgroups, h⟩ := ended?_attempt_bind h
  · exact .groupsCrashed hbody hcrash
  rw [ended?_bind_pure, ended?_endFrame] at h
  obtain ⟨rfl, rfl⟩ := Prod.mk.inj (Option.some.inj h)
  have hframe := FrameEnds.ended (Ending.ofResult_ne_crashed deferred) hbody hgroups
  rwa [Ending.ofResult_map] at hframe

theorem ended?_of_guarded {x : Run Unit} {outcome : Except String (Except Unwind Unit)}
    (h : guarded x m = .ok outcome m') : ended? (x m) = some (.ofOutcome outcome, m') := by
  unfold guarded at h
  cases hx : x m with
  | ok a m₁ =>
    rw [hx] at h
    obtain ⟨rfl, rfl⟩ := EStateM.Result.ok.inj h
    rfl
  | error s m₁ =>
    rw [hx] at h
    cases s with
    | unwind u =>
      obtain ⟨rfl, rfl⟩ := EStateM.Result.ok.inj h
      rfl
    | crash message =>
      obtain ⟨rfl, rfl⟩ := EStateM.Result.ok.inj h
      rfl
    | outOfFuel => cases h

/-- Only running out of fuel is not caught. -/
theorem eq_outOfFuel_of_guarded {x : Run Unit} {s : Stop} (h : guarded x m = .error s m') :
    s = .outOfFuel := by
  unfold guarded at h
  cases hx : x m with
  | ok a m₁ =>
    rw [hx] at h
    cases h
  | error s m₁ =>
    rw [hx] at h
    cases s <;> cases h
    rfl

theorem isolated_eq (ev : Evaluator) (g : Deferred) (m : Machine) :
    isolated ev g m = match guarded (runBody ev g) { m with scope := g.scope } with
      | .ok outcome m₁ => .ok outcome (restored m.scope m.frames.length m₁)
      | .error s m₁ => .error s m₁ := by
  change EStateM.bind (guarded (runBody ev g)) _ { m with scope := g.scope } = _
  unfold EStateM.bind
  cases guarded (runBody ev g) { m with scope := g.scope } <;> rfl

/-- A group runs as a frame in the scope it was registered in. -/
theorem isolated_eq_ok {g : Deferred} {outcome : Except String (Except Unwind Unit)}
    (h : isolated ev g m = .ok outcome m') :
    ∃ m₁, FrameEnds ev (.group g g.scope) (ev.block g.body) { m with scope := g.scope }
        (.ofOutcome outcome) m₁ ∧
      m' = restored m.scope m.frames.length m₁ := by
  rw [isolated_eq] at h
  cases hg : guarded (runBody ev g) { m with scope := g.scope } with
  | ok outcome' m₁ =>
    rw [hg] at h
    obtain ⟨rfl, rfl⟩ := EStateM.Result.ok.inj h
    exact ⟨m₁, ended?_runBody (ended?_of_guarded hg), rfl⟩
  | error s m₁ =>
    rw [hg] at h
    cases h

/-- Nothing escapes from a group. -/
theorem ended?_isolated {g : Deferred} (h : ended? (isolated ev g m) = some (e, m')) :
    e = .done := by
  rw [isolated_eq] at h
  cases hg : guarded (runBody ev g) { m with scope := g.scope } with
  | ok outcome m₁ =>
    rw [hg] at h
    exact (congrArg Prod.fst (Option.some.inj h)).symm
  | error s m₁ =>
    obtain rfl := eq_outOfFuel_of_guarded hg
    rw [hg] at h
    cases h

/-! ## What is made of the ending of a group -/

/-- What becomes of the exit asked for so far and of the machine, by the ending of a group. -/
inductive Settled (requested : Option Int32) (m : Machine) :
    Ending → Option Int32 → Machine → Prop
  | done : Settled requested m .done requested m
  | escalated {code : Int32} {m' : Machine} : m.exit.isExiting →
      Still { m with exit := m.exit.escalate code } m' →
      Settled requested m (.exited code) requested m'
  | asked {code : Int32} : m.exit.isExiting = false →
      Settled requested m (.exited code) (some (firstFailure requested code)) m
  | failed {e : Ending} {m' : Machine} : e = .failed ∨ e = .crashed →
      Still { m with
        exit := m.exit.escalate 1
        turns := .groupFailed :: m.turns
        history := e.caught ++ m.history } m' →
      Settled requested m e requested m'

/-- The note of a failed group is quiet; quoting the source may crash. -/
theorem ended?_noteFailure {u : Unwind} (h : ended? (noteFailure u m) = some (e, m')) :
    (e = .done ∧ Still m m') ∨
      (e = .crashed ∧ Still { m with history := .unprintable :: m.history } m') := by
  rw [noteFailure, ended?_get_bind] at h
  split at h
  · cases hr : u.report? m.source with
    | some text =>
      rw [hr] at h
      exact .inl (ended?_log h)
    | none =>
      rw [hr] at h
      obtain ⟨rfl, rfl⟩ := Prod.mk.inj (Option.some.inj h)
      exact .inr ⟨rfl, .refl _⟩
  · obtain ⟨rfl, rfl⟩ := Prod.mk.inj (Option.some.inj h)
    exact .inl ⟨rfl, .refl m⟩

/-- A group's ending is settled, unless the note of its failure crashes. -/
theorem ended?_settle_bind {requested : Option Int32} {outcome : Except String (Except Unwind Unit)}
    {k : Option Int32 → Run α} (h : ended? ((settle requested outcome >>= k) m) = some (e, m')) :
    (e = .crashed ∧ Ending.ofOutcome outcome = .failed ∧ Still { m with
        turns := .groupFailed :: m.turns
        history := .unprintable :: m.history } m') ∨
      ∃ requested' m₁, Settled requested m (.ofOutcome outcome) requested' m₁ ∧
        ended? (k requested' m₁) = some (e, m') := by
  rcases outcome with message | (⟨fault, span⟩ | code) | _
  · simp only [settle, bind_assoc] at h
    rw [mark, ended?_modify_bind, record, ended?_modify_bind] at h
    obtain ⟨m₁, hlog, h⟩ := ended?_bind_of_done ended?_log h
    obtain ⟨m₂, hexit, h⟩ := ended?_bind_of_done ended?_changeExit h
    exact .inr ⟨requested, m₂, .failed (.inr rfl) ((hlog.withExit (·.escalate 1)).trans hexit), h⟩
  · simp only [settle, bind_assoc] at h
    rw [record, ended?_modify_bind] at h
    obtain ⟨hne, h⟩ | ⟨_, m₁, hnote, h⟩ := ended?_bind h
    · obtain ⟨rfl, -⟩ | ⟨rfl, hquiet⟩ := ended?_noteFailure h
      · exact absurd rfl hne
      · exact .inl ⟨rfl, rfl, hquiet⟩
    · have hquiet := ((ended?_noteFailure (ended?_ok hnote)).resolve_right fun h => nomatch h.1).2
      obtain ⟨m₂, hexit, h⟩ := ended?_bind_of_done ended?_changeExit h
      have hstep := (hquiet.withExit (·.escalate 1)).trans hexit
      exact .inr ⟨requested, m₂, .failed (.inl rfl) hstep, h⟩
  · simp only [settle, bind_assoc] at h
    rw [ended?_get_bind] at h
    by_cases hexiting : m.exit.isExiting
    · rw [if_pos hexiting, bind_assoc] at h
      obtain ⟨m₁, hexit, h⟩ := ended?_bind_of_done ended?_changeExit h
      exact .inr ⟨requested, m₁, .escalated hexiting hexit, h⟩
    · rw [if_neg hexiting] at h
      exact .inr ⟨_, m, .asked (by simpa using hexiting), h⟩
  · exact .inr ⟨requested, m, .done, h⟩

/-! ## One group after the other -/

/-- A group is skipped when it waits for a failure and there was none; otherwise it runs, its ending
is settled, and the rest follows. -/
theorem ended?_runAll_cons {frame : Frame} {requested : Option Int32} {g : Deferred}
    {rest : List Deferred} (h : ended? (runAll ev frame requested (g :: rest) m) = some (e, m')) :
    (g.onlyOnFailure ∧ hasFailed m frame = false ∧
      ∃ m₁, Still { m with history := .skipped g :: m.history } m₁ ∧
        ended? (runAll ev frame requested rest m₁) = some (e, m')) ∨
    ((g.onlyOnFailure → hasFailed m frame) ∧
      ∃ outcome m₁, isolated ev g m = .ok outcome m₁ ∧
        ((e = .crashed ∧ Ending.ofOutcome outcome = .failed ∧ Still { m₁ with
            turns := .groupFailed :: m₁.turns
            history := .unprintable :: m₁.history } m') ∨
          ∃ requested' m₂, Settled requested m₁ (.ofOutcome outcome) requested' m₂ ∧
            ended? (runAll ev frame requested' rest m₂) = some (e, m'))) := by
  rw [runAll, ended?_get_bind] at h
  split at h
  · rename_i hskip
    obtain ⟨honly, hfine⟩ : g.onlyOnFailure = true ∧ hasFailed m frame = false := by
      simpa using hskip
    rw [mark, ended?_modify_bind] at h
    exact .inl ⟨honly, hfine, ended?_bind_of_done ended?_log h⟩
  · rename_i hruns
    refine .inr ⟨by simpa using hruns, ?_⟩
    obtain ⟨hne, h⟩ | ⟨outcome, m₁, hok, h⟩ := ended?_bind h
    · exact absurd (ended?_isolated h) hne
    · exact ⟨outcome, m₁, hok, ended?_settle_bind h⟩

end Deferred

/-! ## Scripts -/

namespace Script

/-- The exit code and the diagnostics that follow from how the statements of a script ended. -/
inductive Concluded : Ending → Int32 → List String → Prop
  | done : Concluded .done 0 []
  | escaped (text : String) : Concluded .done 1 [text]
  | failed (text : String) : Concluded .failed 1 [text]
  | exited (code : Int32) : Concluded (.exited code) code []

theorem yields_report (u : Unwind) : Yields (fun _ => True) (report u) := by
  refine .bind .of_get fun m _ => ?_
  split
  · exact .bind (.log _ _ _) fun _ _ => .of_pure trivial
  · exact .crash (by decide)

/-- The diagnostic of a failure is the only one, and exits with code one. -/
theorem yields_reported (u : Unwind) :
    Yields (fun r : Int32 × List String => ∃ text, r = (1, [text])) (do return (1, [← report u])) :=
  (yields_report u).bind fun text _ => .of_pure ⟨text, rfl⟩

/-- What is concluded from how the statements of a script ended is still. -/
theorem yields_conclude (r : Except Unwind (Option Signal)) :
    Yields (fun c => Concluded (.ofResult r) c.1 c.2) (conclude r) := by
  rcases r with (⟨fault, span⟩ | code) | _ | signal
  · refine (yields_reported (.failure fault span)).mono fun {c} hc => ?_
    obtain ⟨text, rfl⟩ := hc
    exact .failed text
  · exact .of_pure (.exited code)
  · exact .of_pure .done
  · cases signal with
    | returned values => exact .of_pure .done
    | breakLoop | continueLoop =>
      refine .bind (.of_modify fun m => (Still.refl m).arise (.inl (.toTopLevel rfl))) fun _ _ => ?_
      refine (yields_reported _).mono fun {c} hc => ?_
      obtain ⟨text, rfl⟩ := hc
      exact .escaped text

/-- A script that finishes: its statements end, the exit begins, the groups of its frame run. -/
theorem runWith_eq_ok {s : Script} {o : Outcome} (h : s.runWith ev m = .ok o m') :
    ∃ e₁ m₁ code m₂ e₂ m₃, e₁ ≠ .crashed ∧ e₂ ≠ .crashed ∧
      ended? (ev.block s.stmts (s.started m)) = some (e₁, m₁) ∧
      Concluded e₁ code o.diagnostics ∧
      Still { m₁ with exit := (m₁.exit.begin code).1 } m₂ ∧
      ended? (ev.deferred (m₂.frames.headD []) .script
        (m₂.leftBy (.error (.exit m₂.exit.initialCode)))) = some (e₂, m₃) ∧
      Still { m₃ with
        exit := if e₂ = .done then m₃.exit else m₃.exit.escalate 1
        history := .closed :: m₃.history } m' ∧
      o.exitCode = m'.exit.code := by
  obtain ⟨_, m₀, hstart, h⟩ := eq_ok_of_bind h
  obtain ⟨-, rfl⟩ := EStateM.Result.ok.inj hstart
  obtain ⟨r, m₁, hblock, h⟩ := eq_ok_of_bind h
  obtain ⟨⟨code, diagnostics⟩, mc, hconclude, h⟩ := eq_ok_of_bind h
  obtain ⟨hquiet, hconcluded⟩ := (yields_conclude r).of_ok hconclude
  obtain ⟨_, m₂, hexit, h⟩ := eq_ok_of_bind h
  have hbegun := (ended?_changeExit (ended?_ok hexit)).2
  obtain ⟨_, _, hget, h⟩ := eq_ok_of_bind h
  obtain ⟨rfl, rfl⟩ := EStateM.Result.ok.inj hget
  obtain ⟨groups, mp, hpop, h⟩ := eq_ok_of_bind h
  obtain ⟨rfl, rfl⟩ := EStateM.Result.ok.inj hpop
  obtain ⟨d, m₃, hgroups, h⟩ := eq_ok_of_bind h
  obtain ⟨_, mc', hclose, h⟩ := eq_ok_of_bind h
  obtain ⟨-, rfl⟩ := EStateM.Result.ok.inj hclose
  have hend : Still { m₃ with
      exit := if Ending.ofResult d = .done then m₃.exit else m₃.exit.escalate 1
      history := .closed :: m₃.history } m' ∧ o = ⟨m'.exit.code, diagnostics⟩ := by
    cases d with
    | ok u =>
      obtain ⟨rfl, rfl⟩ := EStateM.Result.ok.inj h
      exact ⟨.refl _, rfl⟩
    | error u =>
      obtain ⟨_, m₄, hlog, h⟩ := eq_ok_of_bind h
      obtain ⟨_, m₅, hescalate, h⟩ := eq_ok_of_bind h
      obtain ⟨rfl, rfl⟩ := EStateM.Result.ok.inj h
      have hlogged := (ended?_log (ended?_ok hlog)).2
      have hescalated := (ended?_changeExit (ended?_ok hescalate)).2
      rw [Ending.ofResult, if_neg u.ending_ne_done]
      exact ⟨(hlogged.withExit (·.escalate 1)).trans hescalated, rfl⟩
  obtain ⟨hend, rfl⟩ := hend
  exact ⟨.ofResult r, m₁, code, m₂, .ofResult d, m₃, Ending.ofResult_ne_crashed r,
    Ending.ofResult_ne_crashed d, ended?_of_attempt hblock, hconcluded,
    (hquiet.withExit fun s => (s.begin code).1).trans hbegun, ended?_of_attempt hgroups, hend,
    rfl⟩

end Script
end TableScript
