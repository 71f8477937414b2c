import TableScript.Proofs.Eval.FrameRecord
import TableScript.Proofs.Eval.Steps

/-!
# What computations do with scopes and frames

A computation leaves the scope as it was, and its acts tell what it did with frames: `Chronicle`
says that the history grew by the events of the acts, that the innermost frame grew by the groups
they register and no other frame changed, and that all frames inside the acts are sound. Groups of a
frame are accounted for by visits (`Visited`), and a whole frame by its record (`Framed`). Every
evaluator keeps this, so it holds of whole scripts.

1. `state_balanced`: what is left of scope and frames after an expression, a call, a statement or a
   block, however it ends;
2. `chronicle_run`: the history of a script that finishes is written down from a sound record.
-/

namespace TableScript

open Run

namespace ExitStatus

@[simp] theorem initialCode_escalate (s : ExitStatus) (code : Int32) :
    (s.escalate code).initialCode = s.initialCode := by
  obtain ⟨phase, pending, initial⟩ := s
  cases phase <;> simp only [escalate] <;> split <;> rfl

end ExitStatus

theorem mem_dropLast_append {β : Type} {b : β} {l l' : List β} (h : b ∈ (l ++ l').dropLast) :
    b ∈ l ∨ b ∈ l'.dropLast := by
  rw [List.dropLast_append] at h
  split at h
  · exact .inl (List.dropLast_subset l h)
  · exact List.mem_append.1 h

/-! ## Acts, frames and visits -/

/-- Frames with groups registered in the innermost one, in this order. -/
def extend (groups : List Deferred) (frames : List (List Deferred)) : List (List Deferred) :=
  frames.modifyHead (groups.reverse ++ ·)

@[simp] theorem extend_nil (frames : List (List Deferred)) : extend [] frames = frames := by
  cases frames <;> rfl

@[simp] theorem extend_cons (groups inner : List Deferred) (outer : List (List Deferred)) :
    extend groups (inner :: outer) = (groups.reverse ++ inner) :: outer := rfl

theorem extend_append (groups groups' : List Deferred) (frames : List (List Deferred)) :
    extend (groups ++ groups') frames = extend groups' (extend groups frames) := by
  cases frames with
  | nil => rfl
  | cons inner outer => simp

/-- The acts of a computation tell how the machine has changed. After a crash some frames may be
left open, and the last call may be one of them. -/
structure Chronicle (acts : List Act) (e : Ending) (m m' : Machine) : Prop where
  history : m'.history = (Act.eventsAll acts).reverse ++ m.history
  sound {f : FrameRecord} : .called f ∈ acts → f.Sound
  calls {f : FrameRecord} : .called f ∈ acts → f.kind = .call
  finished {f : FrameRecord} :
    .called f ∈ (if e = .crashed then acts.dropLast else acts) → f.isClosed
  initialCode : m'.exit.initialCode = m.exit.initialCode
  frames : ∃ opened, m'.frames = opened ++ extend (registeredBy acts) m.frames ∧
    (e ≠ .crashed → opened = [])
  scope : e ≠ .crashed → m'.scope = m.scope

/-- The record of a frame tells how the machine has changed. -/
structure Framed (f : FrameRecord) (e : Ending) (m m' : Machine) : Prop where
  history : m'.history = f.events.reverse ++ m.history
  sound : f.Sound
  closed : f.isClosed = decide (e ≠ .crashed)
  initialCode : m'.exit.initialCode = m.exit.initialCode
  frames : ∃ opened, m'.frames = opened ++ m.frames ∧ (e ≠ .crashed → opened = [])

/-- Visits of groups tell how the machine has changed; a crash comes after the last of them. -/
structure Visited (groups : List Deferred) (failed : Bool) (visits : List Visit) (e : Ending)
    (m m' : Machine) : Prop where
  history : m'.history = (if e = .crashed then [.unprintable] else []) ++
    ((Visit.eventsAll visits).reverse ++ m.history)
  sound {g : Deferred} {f : FrameRecord} : .ran g f ∈ visits → f.Sound
  fits {v : Visit} : v ∈ visits → v.Fits failed
  groups : e ≠ .crashed → visits.map Visit.group = groups
  initialCode : m'.exit.initialCode = m.exit.initialCode
  frames : m'.frames = m.frames
  scope : m'.scope = m.scope

/-- Expressions and calls register nothing, and groups are visited one after the other. -/
def chronicling : Guarantees where
  expr := fun e m m' => ∃ acts, registeredBy acts = [] ∧ Chronicle acts e m m'
  stmt := fun e m m' => ∃ acts, Chronicle acts e m m'
  deferred groups frame := fun e m m' =>
    ∃ visits, Visited groups (Deferred.hasFailed m frame) visits e m m'

variable {α : Type} {ev : Evaluator} {m m' m₁ m₂ m₃ : Machine} {e : Ending}

namespace Chronicle

variable {acts acts₁ acts₂ : List Act}

theorem of_quiet (h : Quiet m m') : Chronicle [] e m m' where
  history := h.history
  sound := nofun
  calls := nofun
  finished hmem := by split at hmem <;> cases hmem
  initialCode := congrArg ExitStatus.initialCode h.exit
  frames := ⟨[], by simpa using h.frames, fun _ => rfl⟩
  scope _ := h.scope

theorem frames_eq (h : Chronicle acts e m m') (he : e ≠ .crashed) :
    m'.frames = extend (registeredBy acts) m.frames := by
  obtain ⟨opened, hframes, hopened⟩ := h.frames
  rw [hframes, hopened he, List.nil_append]

/-- A computation that gives a value, and the next one. -/
theorem trans (h₁ : Chronicle acts₁ .done m₁ m₂) (h₂ : Chronicle acts₂ e m₂ m₃) :
    Chronicle (acts₁ ++ acts₂) e m₁ m₃ where
  history := by
    rw [h₂.history, h₁.history, Act.eventsAll_append, List.reverse_append, List.append_assoc]
  sound hmem := (List.mem_append.1 hmem).elim h₁.sound h₂.sound
  calls hmem := (List.mem_append.1 hmem).elim h₁.calls h₂.calls
  finished {f} hmem := by
    by_cases he : e = .crashed
    · rw [if_pos he] at hmem
      exact (mem_dropLast_append hmem).elim (fun h => h₁.finished (by simpa using h))
        fun h => h₂.finished (by rw [if_pos he]; exact h)
    · rw [if_neg he] at hmem
      exact (List.mem_append.1 hmem).elim (fun h => h₁.finished (by simpa using h))
        fun h => h₂.finished (by rw [if_neg he]; exact h)
  initialCode := h₂.initialCode.trans h₁.initialCode
  frames := by
    obtain ⟨opened, hframes, hopened⟩ := h₂.frames
    refine ⟨opened, ?_, hopened⟩
    rw [hframes, h₁.frames_eq nofun, registeredBy_append, extend_append]
  scope he := (h₂.scope he).trans (h₁.scope nofun)

/-- A frame of a call is an act of the body around it. -/
theorem of_framed {f : FrameRecord} (hkind : f.kind = .call) (h : Framed f e m m')
    (hscope : e ≠ .crashed → m'.scope = m.scope) : Chronicle [.called f] e m m' where
  history := by
    rw [h.history]
    simp [Act.eventsAll, Act.events]
  sound hmem := by
    obtain rfl : _ = f := by simpa using hmem
    exact h.sound
  calls hmem := by
    obtain rfl : _ = f := by simpa using hmem
    exact hkind
  finished {c} hmem := by
    by_cases he : e = .crashed
    · rw [if_pos he] at hmem
      cases hmem
    · rw [if_neg he] at hmem
      obtain rfl : c = f := by simpa using hmem
      rw [h.closed]
      exact decide_eq_true he
  initialCode := h.initialCode
  frames := by simpa using h.frames
  scope := hscope

end Chronicle

/-! ## Frames -/

/-- What a frame does with scopes shows only inside of it. -/
theorem Framed.inScope {f : FrameRecord} {parent : Nat} {vars : List (String × Value)}
    (h : Framed f e (m.inNewScope parent vars) m') (scope : Nat) : Framed f e m { m' with scope } :=
  ⟨h.history, h.sound, h.closed, h.initialCode, h.frames⟩

/-- A frame whose body ended is sound when all its groups were visited as they had to be. -/
theorem FrameRecord.sound_ended {kind : FrameKind} {acts : List Act} {how : Except Unwind Unit}
    {visits : List Visit} {e₁ e₂ : Ending} (he₁ : e₁ ≠ .crashed) (hacts : Chronicle acts e₁ m m₁)
    (hvisits : Visited (registeredBy acts).reverse (kind.failedBy (.ofResult how)) visits e₂
      m₂ m₃) :
    (FrameRecord.ended kind acts how visits (e₂ ≠ .crashed)).Sound := by
  have horderly : (FrameRecord.ended kind acts how visits (e₂ ≠ .crashed)).Orderly :=
    { calls := hacts.calls
      finished := fun hmem => hacts.finished (by rw [if_neg he₁]; exact hmem)
      visited := fun hclosed => hvisits.groups (of_decide_eq_true hclosed)
      fits := fun hmem => hvisits.fits hmem }
  exact forall_within horderly (fun _ hmem => hacts.sound hmem) fun _ _ hmem => hvisits.sound hmem

/-- The machine of a body that ended has the frame's groups in its innermost frame. -/
theorem Chronicle.frames_inside {kind : FrameKind} {acts : List Act} (he : e ≠ .crashed)
    (h : Chronicle acts e (m.inside kind) m₁) :
    m₁.frames = (registeredBy acts).reverse :: m.frames := by
  rw [h.frames_eq he]
  simp [Machine.inside]

/-- A frame goes as its body and its groups go. -/
theorem framed_frameEnds (hev : ev.Keeps chronicling) {kind : FrameKind} {body : Run α}
    (hbody : Keeps chronicling.stmt body) (h : FrameEnds ev kind body m e m') :
    ∃ f : FrameRecord, f.kind = kind ∧ Framed f e m m' := by
  cases h with
  | bodyCrashed hcrash =>
    obtain ⟨acts, hacts⟩ := hbody.of_ended hcrash
    have horderly : (FrameRecord.broken kind acts).Orderly :=
      ⟨hacts.calls, fun hmem => hacts.finished hmem, fun h => Bool.noConfusion h,
        fun hmem => absurd hmem List.not_mem_nil⟩
    refine ⟨.broken kind acts, rfl, ?_, ?_, rfl, hacts.initialCode, ?_⟩
    · rw [hacts.history]
      simp [FrameRecord.events, Machine.inside]
    · exact FrameRecord.forall_within horderly (fun _ hmem => hacts.sound hmem)
        fun _ _ hmem => absurd hmem List.not_mem_nil
    · obtain ⟨opened, hframes, -⟩ := hacts.frames
      refine ⟨opened ++ [(registeredBy acts).reverse], ?_, fun he => absurd rfl he⟩
      rw [hframes]
      simp [Machine.inside]
  | @groupsCrashed how m₁ _ hended hcrash =>
    obtain ⟨acts, hacts⟩ := hbody.of_ended hended
    obtain ⟨visits, hvisits⟩ := (hev.deferred _ _).of_ended hcrash
    have he₁ := Ending.ofResult_ne_crashed how
    have hframes := hacts.frames_inside he₁
    rw [hframes, List.headD_cons] at hvisits
    refine ⟨.ended kind acts how visits false, rfl, ?_, FrameRecord.sound_ended he₁ hacts hvisits,
      rfl, hvisits.initialCode.trans hacts.initialCode, [], ?_, fun _ => rfl⟩
    · rw [hvisits.history]
      simp [FrameRecord.events, Machine.leftBy, hacts.history, Machine.inside]
    · rw [hvisits.frames]
      simp [Machine.leftBy, hframes]
  | @ended how e₂ m₁ m₂ he₂ hended hgroups =>
    obtain ⟨acts, hacts⟩ := hbody.of_ended hended
    obtain ⟨visits, hvisits⟩ := (hev.deferred _ _).of_ended hgroups
    have he₁ := Ending.ofResult_ne_crashed how
    have hframes := hacts.frames_inside he₁
    rw [hframes, List.headD_cons] at hvisits
    have hsound : (FrameRecord.ended kind acts how visits (e₂ ≠ .crashed)).Sound :=
      FrameRecord.sound_ended he₁ hacts hvisits
    rw [decide_eq_true he₂] at hsound
    refine ⟨.ended kind acts how visits true, rfl, ?_, hsound, ?_,
      hvisits.initialCode.trans hacts.initialCode, [], ?_, fun _ => rfl⟩
    · change .closed :: m₂.history = _
      rw [hvisits.history, if_neg he₂]
      simp [FrameRecord.events, Machine.leftBy, hacts.history, Machine.inside]
    · exact (decide_eq_true (Ending.andThen_ne_crashed he₁ he₂)).symm
    · change m₂.frames = _
      rw [hvisits.frames]
      simp [Machine.leftBy, hframes]

/-! ## Groups -/

/-- What a group that ran adds to the history: its frame, and the catch of a crash. -/
theorem Framed.history_ran {f : FrameRecord} (h : Framed f e m m₁) (g : Deferred) :
    e.caught ++ m₁.history = (Visit.ran g f).events.reverse ++ m.history := by
  rw [h.history, Visit.events, h.closed]
  cases e <;> simp [Ending.caught]

namespace Visited

variable {failed : Bool} {groups : List Deferred} {visits : List Visit}

/-- There are no groups. -/
theorem nil (he : e ≠ .crashed) : Visited [] failed [] e m m where
  history := by simp [he, Visit.eventsAll]
  sound := nofun
  fits := nofun
  groups _ := rfl
  initialCode := rfl
  frames := rfl
  scope := rfl

/-- The note of a failed group crashes, and the groups that are left are not visited. -/
theorem unprintable (h : m'.history = .unprintable :: m.history)
    (hcode : m'.exit.initialCode = m.exit.initialCode) (hframes : m'.frames = m.frames)
    (hscope : m'.scope = m.scope) : Visited groups failed [] .crashed m m' where
  history := h
  sound := nofun
  fits := nofun
  groups he := absurd rfl he
  initialCode := hcode
  frames := hframes
  scope := hscope

/-- A group is visited, then the others. -/
theorem cons {v : Visit} (hfits : v.Fits failed) (hsound : ∀ {g f}, v = .ran g f → f.Sound)
    (hhistory : m₁.history = v.events.reverse ++ m.history)
    (hcode : m₁.exit.initialCode = m.exit.initialCode) (hframes : m₁.frames = m.frames)
    (hscope : m₁.scope = m.scope) (h : Visited groups failed visits e m₁ m') :
    Visited (v.group :: groups) failed (v :: visits) e m m' where
  history := by
    rw [h.history, hhistory, Visit.eventsAll, List.reverse_append, List.append_assoc]
  sound hmem := by
    obtain rfl | hmem := List.mem_cons.1 hmem
    · exact hsound rfl
    · exact h.sound hmem
  fits hmem := by
    obtain rfl | hmem := List.mem_cons.1 hmem
    · exact hfits
    · exact h.fits hmem
  groups he := congrArg (v.group :: ·) (h.groups he)
  initialCode := h.initialCode.trans hcode
  frames := h.frames.trans hframes
  scope := h.scope.trans hscope

end Visited

namespace Deferred

theorem hasFailed_eq_of_initialCode (h : m'.exit.initialCode = m.exit.initialCode) (frame : Frame) :
    hasFailed m' frame = hasFailed m frame := by
  cases frame with
  | script => simp [hasFailed, h]
  | call failed => rfl

/-- What is made of the ending of a group changes nothing but the exit code and the record of a
crash. -/
theorem Settled.kept {requested requested' : Option Int32}
    (h : Settled requested m e requested' m') :
    m'.history = e.caught ++ m.history ∧ m'.exit.initialCode = m.exit.initialCode ∧
      m'.frames = m.frames ∧ m'.scope = m.scope := by
  cases h with
  | done => exact ⟨rfl, rfl, rfl, rfl⟩
  | asked _ => exact ⟨rfl, rfl, rfl, rfl⟩
  | @escalated code _ _ hquiet =>
    refine ⟨hquiet.history, ?_, hquiet.frames, hquiet.scope⟩
    rw [hquiet.exit]
    exact m.exit.initialCode_escalate code
  | failed _ hquiet =>
    refine ⟨hquiet.history, ?_, hquiet.frames, hquiet.scope⟩
    rw [hquiet.exit]
    exact m.exit.initialCode_escalate 1

/-- A group runs as a frame of its own, and scope and frames are restored. -/
theorem framed_isolated (hev : ev.Keeps chronicling) {g : Deferred}
    {outcome : Except String (Except Unwind Unit)} (h : isolated ev g m = .ok outcome m') :
    ∃ f : FrameRecord, f.kind = .group g g.scope ∧ Framed f (.ofOutcome outcome) m m' ∧
      m'.frames = m.frames ∧ m'.scope = m.scope := by
  obtain ⟨m₁, hframe, rfl⟩ := isolated_eq_ok h
  obtain ⟨f, hkind, hframed⟩ := framed_frameEnds hev (hev.block g.body).toKeeps hframe
  obtain ⟨opened, hframes, -⟩ := hframed.frames
  have hrestored : (restored m.scope m.frames.length m₁).frames = m.frames := by
    simp [restored, hframes]
  exact ⟨f, hkind, ⟨hframed.history, hframed.sound, hframed.closed, hframed.initialCode,
    [], hrestored, fun _ => rfl⟩, hrestored, rfl⟩

theorem ended?_runAll_nil {frame : Frame} {requested : Option Int32}
    (h : ended? (runAll ev frame requested [] m) = some (e, m')) : e ≠ .crashed ∧ m' = m := by
  cases requested <;>
    (obtain ⟨rfl, rfl⟩ := Prod.mk.inj (Option.some.inj h); exact ⟨nofun, rfl⟩)

/-- The groups of a frame are visited one after the other, whatever was asked for so far. -/
theorem visited_runAll (hev : ev.Keeps chronicling) (frame : Frame) (groups : List Deferred)
    {requested : Option Int32} (h : ended? (runAll ev frame requested groups m) = some (e, m')) :
    ∃ visits, Visited groups (hasFailed m frame) visits e m m' := by
  -- no visit changes whether the frame failed, so the rest is visited as from the start
  induction groups generalizing m requested with
  | nil =>
    obtain ⟨he, rfl⟩ := ended?_runAll_nil h
    exact ⟨[], .nil he⟩
  | cons g rest ih =>
    obtain ⟨honly, hfine, m₁, hquiet, h⟩ | ⟨hruns, outcome, m₁, hok, h⟩ := ended?_runAll_cons h
    · have hcode : m₁.exit.initialCode = m.exit.initialCode :=
        congrArg ExitStatus.initialCode hquiet.exit
      have hfits : (Visit.skipped g).Fits (hasFailed m frame) := ⟨honly, hfine⟩
      obtain ⟨visits, hvisits⟩ := ih h
      rw [hasFailed_eq_of_initialCode hcode] at hvisits
      exact ⟨.skipped g :: visits, .cons hfits nofun hquiet.history hcode hquiet.frames
        hquiet.scope hvisits⟩
    · obtain ⟨f, hkind, hframed, hframes, hscope⟩ := framed_isolated hev hok
      have hhistory := hframed.history_ran g
      have hfits : (Visit.ran g f).Fits (hasFailed m frame) := ⟨hkind, hruns⟩
      have hsound : ∀ {g' f'}, Visit.ran g f = .ran g' f' → f'.Sound := fun heq =>
        (Visit.ran.inj heq).2 ▸ hframed.sound
      obtain ⟨rfl, hfailed, hquiet⟩ | ⟨requested', m₂, hsettled, h⟩ := h
      · rw [hfailed] at hhistory
        exact ⟨[.ran g f], .cons hfits hsound hhistory hframed.initialCode hframes hscope
          (.unprintable hquiet.history (congrArg ExitStatus.initialCode hquiet.exit) hquiet.frames
            hquiet.scope)⟩
      · obtain ⟨hhistory₂, hcode₂, hframes₂, hscope₂⟩ := hsettled.kept
        have hcode := hcode₂.trans hframed.initialCode
        obtain ⟨visits, hvisits⟩ := ih h
        rw [hasFailed_eq_of_initialCode hcode] at hvisits
        exact ⟨.ran g f :: visits, .cons hfits hsound (hhistory₂.trans hhistory) hcode
          (hframes₂.trans hframes) (hscope₂.trans hscope) hvisits⟩

end Deferred

/-! ## Evaluators and scripts -/

instance : Guarantee.Lawful chronicling.stmt where
  quiet h := ⟨[], .of_quiet h.2.toQuiet⟩
  trans := by
    rintro e m₁ m₂ m₃ ⟨acts₁, h₁⟩ ⟨acts₂, h₂⟩
    exact ⟨acts₁ ++ acts₂, h₁.trans h₂⟩

instance : Guarantee.Lawful chronicling.expr where
  quiet h := ⟨[], rfl, .of_quiet h.2.toQuiet⟩
  trans := by
    rintro e m₁ m₂ m₃ ⟨acts₁, hnone₁, h₁⟩ ⟨acts₂, hnone₂, h₂⟩
    exact ⟨acts₁ ++ acts₂, by simp [hnone₁, hnone₂], h₁.trans h₂⟩

instance : chronicling.Lawful where
  expr := inferInstance
  stmt := inferInstance
  cuts := ⟨fun _ => trivial, fun _ _ => trivial⟩
  deferredCut_refl _ := trivial
  stmt_of_expr h := ⟨h.choose, h.choose_spec.2⟩
  write _ := ⟨[], .of_quiet ⟨rfl, rfl, rfl, rfl, rfl⟩⟩
  inScope he h := by
    obtain ⟨acts, hacts⟩ := h
    exact ⟨acts, hacts.history, hacts.sound, hacts.calls, hacts.finished, hacts.initialCode,
      hacts.frames, fun _ => rfl⟩
  inScope_crashed h := by
    obtain ⟨acts, hacts⟩ := h
    exact ⟨acts, hacts.history, hacts.sound, hacts.calls, hacts.finished, hacts.initialCode,
      hacts.frames, fun he => absurd rfl he⟩
  inScope_cut _ := trivial
  register {m g groups outer} hframes _ := by
    refine ⟨[.registered g], rfl, ?_, ?_, ?_, rfl, ⟨[], ?_, fun _ => rfl⟩, fun _ => rfl⟩
    · simp
    · simp
    · simp
    · simp [hframes]
  noFrame _ := ⟨[], .of_quiet ⟨rfl, rfl, rfl, rfl, rfl⟩⟩
  exit m code := ⟨[], rfl, rfl, nofun, nofun, nofun, rfl, ⟨[], by simp, fun _ => rfl⟩, fun _ => rfl⟩
  frame parent vars hev hbody := by
    refine ⟨⟨fun {m e m'} h => ?_⟩, fun _ => trivial⟩
    obtain ⟨m₁, hframe, rfl⟩ := ended?_inNewFrame h
    obtain ⟨f, hkind, hframed⟩ := framed_frameEnds hev hbody.toKeeps hframe
    refine ⟨[.called f], rfl, ?_⟩
    split
    · rename_i hcrash
      exact .of_framed hkind (hframed.inScope m₁.scope) fun he => absurd hcrash he
    · exact .of_framed hkind (hframed.inScope m.scope) fun _ => rfl
  groups groups frame hev := ⟨⟨Deferred.visited_runAll hev frame groups⟩, fun _ => trivial⟩

/-- Scope and frames are as before, unless there was a crash. -/
def sameState : Guarantee := fun e m m' =>
  e ≠ .crashed → m'.scope = m.scope ∧ m'.frames = m.frames

/-- The scope is as before, and so are the frames around the innermost one, which may have got
groups after its own; unless there was a crash. -/
def extendedState : Guarantee := fun e m m' =>
  e ≠ .crashed → m'.scope = m.scope ∧ m'.frames.length = m.frames.length ∧
    m'.frames.tail = m.frames.tail ∧ m.frames.headD [] <:+ m'.frames.headD []

theorem sameState_of_chronicling (h : chronicling.expr e m m') : sameState e m m' := by
  obtain ⟨acts, hnone, hacts⟩ := h
  intro he
  refine ⟨hacts.scope he, ?_⟩
  rw [hacts.frames_eq he, hnone, extend_nil]

theorem extendedState_of_chronicling (h : chronicling.stmt e m m') : extendedState e m m' := by
  obtain ⟨acts, hacts⟩ := h
  intro he
  refine ⟨hacts.scope he, ?_⟩
  rw [hacts.frames_eq he]
  cases m.frames with
  | nil => exact ⟨rfl, rfl, List.nil_suffix⟩
  | cons inner outer => exact ⟨rfl, rfl, List.suffix_append _ _⟩

/-- **Scope and frames are balanced.** On every machine and however they end, expressions and calls
leave scope and frames as they were. Statements and blocks do so too, but for groups that they add
to the innermost frame, after those it has. -/
theorem state_balanced (fuel rounds : Nat) :
    (∀ e : Expr, Keeps sameState (e.eval (.ofFuel fuel))) ∧
      (∀ (e : Expr) (expected : Option Nat),
        Keeps sameState (e.evalMulti (.ofFuel fuel) expected)) ∧
      (∀ (f : Callable) (args : CallArgs), Keeps sameState (f.call (.ofFuel fuel) args)) ∧
      (∀ s : Stmt, Keeps extendedState (s.run (.ofFuel fuel) rounds)) ∧
      ∀ body : List Stmt, Keeps extendedState (Stmt.runAll (.ofFuel fuel) rounds body) := by
  have hev : (Evaluator.ofFuel fuel).Keeps chronicling := keeps_ofFuel fuel
  refine ⟨fun e => ?_, fun e expected => ?_, fun f args => ?_, fun s => ?_, fun body => ?_⟩
  · exact (Expr.keeps_eval hev e).mono sameState_of_chronicling
  · exact (Expr.keeps_evalMulti hev e expected).mono sameState_of_chronicling
  · exact (Callable.keeps_call hev f args).mono sameState_of_chronicling
  · obtain ⟨kind, span⟩ := s
    exact (Keeps.atSpan span (Stmt.keeps_runKind hev rounds kind)).mono extendedState_of_chronicling
  · exact (Stmt.keeps_runAll hev rounds body).mono extendedState_of_chronicling

/-- The history of a script that finishes comes from a sound record of its frame, which was left
with the code that the exit began with. -/
theorem Script.chronicle_run {fuel : Nat} {s : Script} {o : Outcome}
    (h : s.run fuel m = .ok o m') :
    ∃ t : FrameRecord, t.Records m'.history ∧ t.Sound ∧ t.kind = .script ∧
      t.how? = some (.error (.exit m'.exit.initialCode)) := by
  have hev : (Evaluator.ofFuel fuel).Keeps chronicling := keeps_ofFuel fuel
  obtain ⟨e₁, m₁, code, m₂, e₂, m₃, he₁, he₂, hblock, -, hbegun, hgroups, hend, -⟩ :=
    runWith_eq_ok h
  obtain ⟨acts, hacts⟩ := (hev.block s.stmts).of_ended hblock
  obtain ⟨visits, hvisits⟩ := (hev.deferred _ _).of_ended hgroups
  have hframes : m₂.frames = [(registeredBy acts).reverse] := by
    have hbefore : m₂.frames = m₁.frames := hbegun.frames
    rw [hbefore, hacts.frames_eq he₁]
    simp [started]
  have hcode : m'.exit.initialCode = m₂.exit.initialCode := by
    have hbefore : m₃.exit.initialCode = m₂.exit.initialCode := hvisits.initialCode
    rw [hend.exit, ← hbefore]
    split
    · rfl
    · exact m₃.exit.initialCode_escalate 1
  rw [hframes, List.headD_cons] at hvisits
  have hsound : (FrameRecord.ended .script acts (.error (.exit m₂.exit.initialCode)) visits
      (e₂ ≠ .crashed)).Sound := FrameRecord.sound_ended he₁ hacts hvisits
  rw [decide_eq_true he₂] at hsound
  refine ⟨_, ⟨hsound.wellShaped, rfl, ?_⟩, hsound, rfl, by rw [hcode]; rfl⟩
  have hhistory : m₂.history = m₁.history := hbegun.history
  have hlast : m'.history = .closed :: m₃.history := hend.history
  rw [hlast, hvisits.history, if_neg he₂]
  simp [FrameRecord.events, Machine.leftBy, hhistory, hacts.history, started]

end TableScript
