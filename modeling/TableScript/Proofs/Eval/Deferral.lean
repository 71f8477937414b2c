import Mathlib
import TableScript.Proofs.Eval.Chronicle
import TableScript.Proofs.Eval.ExitCode
import TableScript.Proofs.Eval.FrameReading

/-!
# Deferred groups at the end of frames

What becomes of the deferred groups of a script that finishes, said of the one record of its
history and so of every frame it opened.

1. `groups_run_once`: when the body of a frame has ended, its groups are visited once each, the last
   one first; those that do not wait for a failure run, each in its own scope;
2. `failure_groups_run_iff`: groups that wait for a failure run after a failure, and after an exit
   with a code other than zero. In a deferred group they run after an exit with code zero as well;
   `failure_group_runs_after_exit_zero` is a script that does so.

The run of this script is evaluated with its whole history (`cbv`). That takes defining equations of
core functions that stand in modules all over Mathlib, so Mathlib is imported as a whole.
-/

namespace TableScript

/-- Whether a frame is that of a deferred group. -/
def FrameKind.isGroup : FrameKind → Bool
  | group _ _ => true
  | _ => false

/-- A frame fails with a failure and with an exit with a code other than zero; deferred groups fail
with any exit. -/
theorem FrameKind.failedBy_iff (kind : FrameKind) (how : Except Unwind Unit) :
    kind.failedBy (.ofResult how) ↔
      (Ending.ofResult how).isFailure ∨ kind.isGroup ∧ how = .error (.exit 0) := by
  cases kind with
  | script => simp [failedBy, isGroup]
  | call => simp [failedBy, isGroup]
  | group g scope =>
    rcases how with (⟨fault, span⟩ | code) | _
    · simp [failedBy, Ending.ofResult, Unwind.ending, Ending.isFailure]
    · by_cases hcode : code = 0 <;>
        simp [failedBy, isGroup, Ending.ofResult, Unwind.ending, Ending.isFailure, hcode]
    · simp [failedBy, Ending.ofResult, Ending.isFailure]

namespace Visit

variable {v : Visit} {failed : Bool}

theorem Fits.isRun_iff (h : v.Fits failed) (honly : v.group.onlyOnFailure) : v.isRun ↔ failed := by
  cases v with
  | skipped g => simp [isRun, h.2]
  | ran g f => simp [isRun, h.2 honly]

end Visit

namespace FrameRecord

/-- In a frame that was closed, all groups were visited. A group that waits for a failure ran if and
only if the body ended with a failure or with an exit with a code other than zero; in a deferred
group, it ran after an exit with code zero as well. -/
def RunsFailureGroups (f : FrameRecord) : Prop :=
  (f.isClosed → f.visits.map Visit.group = f.registered.reverse) ∧
    ∀ how, f.how? = some how → ∀ v ∈ f.visits, v.group.onlyOnFailure →
      (v.isRun ↔ (Ending.ofResult how).isFailure ∨ f.kind.isGroup ∧ how = .error (.exit 0))

theorem Orderly.runsFailureGroups {f : FrameRecord} (h : f.Orderly) : f.RunsFailureGroups := by
  refine ⟨h.visited, fun how hhow v hmem honly => ?_⟩
  have hfailed : f.hasFailed = f.kind.failedBy (.ofResult how) := by
    unfold hasFailed
    rw [hhow]
  rw [(h.fits hmem).isRun_iff honly, hfailed]
  exact f.kind.failedBy_iff how

end FrameRecord

namespace Script

variable {m m' : Machine}

/-- A statement that registers a group that waits for a failure. -/
def errdeferStmt (s : Stmt) : Stmt := .mk (.defer [s] true) none

/-- **When groups that wait for a failure run.** In every frame of a script that finishes, they run
if and only if the body of the frame ended with a failure or with an exit with a code other than
zero, which for the script itself is the code that the exit began with. In a deferred group, they
run after an exit with code zero as well. -/
theorem failure_groups_run_iff {fuel : Nat} {s : Script} {o : Outcome}
    (h : s.run fuel m = .ok o m') :
    (∃ t : FrameRecord, t.Records m'.history) ∧
      ∀ t : FrameRecord, t.Records m'.history →
        t.how? = some (.error (.exit m'.exit.initialCode)) ∧ t.kind = .script ∧
          ∀ f : FrameRecord, f.Within t → f.RunsFailureGroups := by
  obtain ⟨t, hrecords, hsound, hkind, hhow⟩ := chronicle_run h
  refine ⟨⟨t, hrecords⟩, fun t' hrecords' => ?_⟩
  obtain rfl := hrecords.unique hrecords'
  exact ⟨hhow, hkind, fun f hf => (hsound f hf).runsFailureGroups⟩

/-- A function with a group that waits for a failure exits with code zero. -/
theorem failure_groups_run_iff_call :
    ∃ m', (callingOnce [errdeferStmt (callStmt "print" [1]), callStmt "exit" [0]]).run 9 {} =
        .ok ⟨0, []⟩ m' ∧
      (∃ t : FrameRecord, t.Records m'.history) ∧
      ∀ t : FrameRecord, t.Records m'.history →
        t.how? = some (.error (.exit m'.exit.initialCode)) ∧ t.kind = .script ∧
          ∀ f : FrameRecord, f.Within t → f.RunsFailureGroups := by
  have hrun : finished? ((callingOnce [errdeferStmt (callStmt "print" [1]),
      callStmt "exit" [0]]).run 9 {}) = some (0, [], [.exitAsked 0]) := by decide +kernel
  obtain ⟨m', h, -⟩ := eq_ok_of_finished? hrun
  exact ⟨m', h, failure_groups_run_iff h⟩

/-- The outcome of a script that finishes, and what it did with its frames. -/
def recorded? : EStateM.Result Stop Machine Outcome → Option (Outcome × List FrameEvent)
  | .ok o m => some (o, m.history)
  | .error _ _ => none

theorem eq_ok_of_recorded? {r : EStateM.Result Stop Machine Outcome} {o : Outcome}
    {history : List FrameEvent} (h : recorded? r = some (o, history)) :
    ∃ m', r = .ok o m' ∧ m'.history = history := by
  cases r with
  | error stop m' => cases h
  | ok o m' =>
    obtain ⟨rfl, rfl⟩ := Prod.mk.inj (Option.some.inj h)
    exact ⟨m', rfl, rfl⟩

theorem wellShaped_of_no_calls {f : FrameRecord} (hacts : ∀ c, .called c ∉ f.acts)
    (hvisits : ∀ g c, .ran g c ∈ f.visits → c.WellShaped ∧ ∃ scope, c.kind = .group g scope) :
    f.WellShaped := by
  have hpast : ∀ c, .called c ∉ f.pastActs := by
    unfold FrameRecord.pastActs
    split
    · exact hacts
    · exact fun c hmem => hacts c (List.dropLast_subset _ hmem)
  have hshaped : f.Shaped := ⟨fun hmem => absurd hmem (hacts _), fun hmem => absurd hmem (hpast _),
    fun hmem => (hvisits _ _ hmem).2⟩
  exact FrameRecord.forall_within hshaped (fun c hmem => absurd hmem (hacts c))
    fun g c hmem => (hvisits g c hmem).1

/-- A group that waits for a failure. -/
def waiting : Deferred := ⟨[callStmt "print" [1]], true, 0⟩

/-- A group that registers it and exits with code zero. -/
def exiting : Deferred := ⟨[errdeferStmt (callStmt "print" [1]), callStmt "exit" [0]], false, 0⟩

/-- The frame of the group that waits. -/
def waitingFrame : FrameRecord := .ended (.group waiting 0) [] (.ok ()) [] true

/-- The frame of the group that exits: the one that waits for a failure runs. -/
def exitingFrame : FrameRecord :=
  .ended (.group exiting 0) [.registered waiting] (.error (.exit 0))
    [.ran waiting waitingFrame] true

/-- The frame of a script that defers this group. -/
def exitingScript : FrameRecord :=
  .ended .script [.registered exiting] (.error (.exit 0)) [.ran exiting exitingFrame] true

theorem wellShaped_exitingScript : exitingScript.WellShaped := by
  have hwaiting : waitingFrame.WellShaped := wellShaped_of_no_calls nofun nofun
  have hexiting : exitingFrame.WellShaped := by
    refine wellShaped_of_no_calls (by simp [exitingFrame, FrameRecord.acts]) fun g c hmem => ?_
    obtain ⟨rfl, rfl⟩ : g = waiting ∧ c = waitingFrame := by
      simpa [exitingFrame, FrameRecord.visits] using hmem
    exact ⟨hwaiting, 0, rfl⟩
  refine wellShaped_of_no_calls (by simp [exitingScript, FrameRecord.acts]) fun g c hmem => ?_
  obtain ⟨rfl, rfl⟩ : g = exiting ∧ c = exitingFrame := by
    simpa [exitingScript, FrameRecord.visits] using hmem
  exact ⟨hexiting, 0, rfl⟩

/-- A deferred group ends with an exit with code zero, and so does the script; the group's own
group, which waits for a failure, runs. -/
theorem failure_group_runs_after_exit_zero :
    ∃ m', ({ stmts := [.mk (.defer exiting.body false) none] } : Script).run 9 {} =
        .ok ⟨0, []⟩ m' ∧
      exitingScript.Records m'.history ∧ exitingFrame.Within exitingScript ∧
      exitingFrame.how? = some (.error (.exit 0)) ∧
      ∃ v ∈ exitingFrame.visits, v.group.onlyOnFailure ∧ v.isRun := by
  have hrun : recorded? (({ stmts := [.mk (.defer exiting.body false) none] } : Script).run 9 {}) =
      some (⟨0, []⟩, exitingScript.events.reverse) := by cbv
  obtain ⟨m', h, hhistory⟩ := eq_ok_of_recorded? hrun
  refine ⟨m', h, ⟨wellShaped_exitingScript, rfl, ?_⟩, .ran (List.mem_singleton_self _) .self, rfl,
    _, List.mem_singleton_self _, rfl, rfl⟩
  rw [hhistory, List.reverse_reverse]

end Script
end TableScript
