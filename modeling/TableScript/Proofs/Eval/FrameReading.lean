import TableScript.Proofs.Eval.FrameRecord

/-!
# Reading records off histories

A history has one record at most, so what is said about the record of a history is said about the
history. The events of a frame tell where it ends: its body ends with `left`, the visits after it
with the last event of the frame, and a body that crashed where the crash is caught. So frames are
read one after the other (`FrameRecord.readable`), by induction over the frames inside, and the
record of a history is unique (`FrameRecord.Records.unique`).
-/

namespace TableScript

namespace FrameRecord

theorem sizeOf_lt_of_called {f c : FrameRecord} (h : .called c ∈ f.acts) : sizeOf c < sizeOf f := by
  have hlt := List.sizeOf_lt_of_mem h
  rw [Act.called.sizeOf_spec] at hlt
  cases f with
  | broken kind acts =>
    simp only [FrameRecord.acts, broken.sizeOf_spec] at *
    omega
  | ended kind acts how visits closed =>
    simp only [FrameRecord.acts, ended.sizeOf_spec] at *
    omega

theorem sizeOf_lt_of_ran {f c : FrameRecord} {g : Deferred} (h : .ran g c ∈ f.visits) :
    sizeOf c < sizeOf f := by
  have hlt := List.sizeOf_lt_of_mem h
  rw [Visit.ran.sizeOf_spec] at hlt
  cases f with
  | broken kind acts => cases h
  | ended kind acts how visits closed =>
    simp only [FrameRecord.visits, ended.sizeOf_spec] at *
    omega

/-- Induction over the frames inside. -/
theorem induct {P : FrameRecord → Prop}
    (step : ∀ f, (∀ {c}, .called c ∈ f.acts → P c) → (∀ g c, .ran g c ∈ f.visits → P c) → P f)
    (f : FrameRecord) : P f :=
  step f (fun {c} h => have := sizeOf_lt_of_called h; induct step c)
    fun _ c h => have := sizeOf_lt_of_ran h; induct step c
termination_by sizeOf f

theorem lastEvent_inj {closed closed' : Bool} (h : lastEvent closed = lastEvent closed') :
    closed = closed' := by
  revert h
  cases closed <;> cases closed' <;> simp

theorem events_eq_opened (f : FrameRecord) : ∃ rest, f.events = .opened f.kind :: rest := by
  cases f <;> exact ⟨_, rfl⟩

/-- What may come after the events of a frame: after a crash, only the catch of it. -/
def Precedes (f : FrameRecord) (after : List FrameEvent) : Prop :=
  f.isClosed ∨ ∃ rest, after = .caught :: rest

/-- The events of a frame determine it, and where they stop. -/
def Readable (f : FrameRecord) : Prop :=
  ∀ {f' : FrameRecord} {after after' : List FrameEvent}, f.WellShaped → f'.WellShaped →
    f.Precedes after → f'.Precedes after' → f.events ++ after = f'.events ++ after' →
    f = f' ∧ after = after'

end FrameRecord

namespace Act

/-- What may come after the events of acts: the end of a body in which all calls are over, or the
catch of a crash. -/
def Precede (acts : List Act) (after : List FrameEvent) : Prop :=
  ((∀ c, .called c ∈ acts → c.isClosed) ∧ ∃ how rest, after = .left how :: rest) ∨
    ((∀ c, .called c ∈ acts.dropLast → c.isClosed) ∧ ∃ rest, after = .caught :: rest)

theorem Precede.tail {a : Act} {acts : List Act} {after : List FrameEvent}
    (h : Precede (a :: acts) after) : Precede acts after := by
  refine h.imp (.imp_left fun h c hmem => h c ?_) (.imp_left fun h c hmem => h c ?_)
  · exact List.mem_cons_of_mem a hmem
  · cases acts with
    | nil => cases hmem
    | cons b rest => exact List.mem_cons_of_mem a hmem

theorem Precede.head {c : FrameRecord} {acts : List Act} {after : List FrameEvent}
    (h : Precede (.called c :: acts) after) : c.Precedes (eventsAll acts ++ after) := by
  obtain ⟨hclosed, -⟩ | ⟨hclosed, hcaught⟩ := h
  · exact .inl (hclosed c List.mem_cons_self)
  · cases acts with
    | nil => exact .inr hcaught
    | cons b rest => exact .inl (hclosed c List.mem_cons_self)

/-- No act begins as what comes after acts. -/
theorem Precede.ne_events {a : Act} {acts : List Act} {after rest : List FrameEvent}
    (h : Precede acts after) : after ≠ a.events ++ rest := by
  rintro rfl
  cases a with
  | registered g =>
    obtain ⟨-, how, t, h⟩ | ⟨-, t, h⟩ := h <;> cases h
  | called c =>
    obtain ⟨tail, hc⟩ := c.events_eq_opened
    rw [events, hc] at h
    obtain ⟨-, how, t, h⟩ | ⟨-, t, h⟩ := h <;> cases h

theorem registered_ne_events (g : Deferred) (c : FrameRecord) (rest rest' : List FrameEvent) :
    .registered g :: rest ≠ c.events ++ rest' := by
  obtain ⟨tail, hc⟩ := c.events_eq_opened
  simp [hc]

/-- The first act is determined, and what comes after it. -/
theorem events_append_inj {a a' : Act} {acts acts' : List Act} {after after' : List FrameEvent}
    (hread : ∀ {c}, a = .called c → c.Readable) (hshape : ∀ {c}, a = .called c → c.WellShaped)
    (hshape' : ∀ {c}, a' = .called c → c.WellShaped) (hp : Precede (a :: acts) after)
    (hp' : Precede (a' :: acts') after')
    (h : a.events ++ (eventsAll acts ++ after) = a'.events ++ (eventsAll acts' ++ after')) :
    a = a' ∧ eventsAll acts ++ after = eventsAll acts' ++ after' := by
  cases a with
  | registered g =>
    cases a' with
    | registered g' =>
      obtain ⟨hg, h⟩ := List.cons.inj h
      exact ⟨congrArg Act.registered (FrameEvent.registered.inj hg), h⟩
    | called c' => exact absurd h (registered_ne_events g c' _ _)
  | called c =>
    cases a' with
    | registered g' => exact absurd h.symm (registered_ne_events g' c _ _)
    | called c' =>
      obtain ⟨hc, h⟩ := hread rfl (hshape rfl) (hshape' rfl) hp.head hp'.head h
      exact ⟨congrArg Act.called hc, h⟩

/-- The events of acts determine them if those of the calls do. -/
theorem eventsAll_append_inj {acts acts' : List Act} {after after' : List FrameEvent}
    (hread : ∀ {c}, .called c ∈ acts → c.Readable)
    (hshape : ∀ {c}, .called c ∈ acts → c.WellShaped)
    (hshape' : ∀ {c}, .called c ∈ acts' → c.WellShaped) (hp : Precede acts after)
    (hp' : Precede acts' after') (h : eventsAll acts ++ after = eventsAll acts' ++ after') :
    acts = acts' ∧ after = after' := by
  induction acts generalizing acts' with
  | nil =>
    cases acts' with
    | nil => exact ⟨rfl, h⟩
    | cons a' rest' =>
      rw [eventsAll, eventsAll, List.append_assoc] at h
      exact absurd h hp.ne_events
  | cons a rest ih =>
    cases acts' with
    | nil =>
      rw [eventsAll, eventsAll, List.append_assoc] at h
      exact absurd h.symm hp'.ne_events
    | cons a' rest' =>
      rw [eventsAll, eventsAll, List.append_assoc, List.append_assoc] at h
      obtain ⟨rfl, hrest⟩ := events_append_inj (fun hc => hread (hc ▸ List.mem_cons_self))
        (fun hc => hshape (hc ▸ List.mem_cons_self))
        (fun hc => hshape' (hc ▸ List.mem_cons_self)) hp hp' h
      obtain ⟨rfl, hafter⟩ := ih (fun hmem => hread (List.mem_cons_of_mem a hmem))
        (fun hmem => hshape (List.mem_cons_of_mem a hmem))
        (fun hmem => hshape' (List.mem_cons_of_mem a hmem)) hp.tail hp'.tail hrest
      exact ⟨rfl, hafter⟩

end Act

namespace Visit

theorem lastEvent_ne_events (closed : Bool) (v : Visit) (rest rest' : List FrameEvent) :
    FrameRecord.lastEvent closed :: rest ≠ v.events ++ rest' := by
  cases v with
  | skipped g => cases closed <;> simp [events]
  | ran g f =>
    obtain ⟨tail, hf⟩ := f.events_eq_opened
    cases closed <;> simp [events, hf]

theorem skipped_ne_events (g g' : Deferred) (f : FrameRecord) (rest rest' : List FrameEvent) :
    .skipped g :: rest ≠ (ran g' f).events ++ rest' := by
  obtain ⟨tail, hf⟩ := f.events_eq_opened
  simp [events, hf]

theorem precedes_ran (f : FrameRecord) (rest : List FrameEvent) :
    f.Precedes ((if f.isClosed then [] else [.caught]) ++ rest) := by
  by_cases h : f.isClosed
  · exact .inl h
  · exact .inr ⟨rest, by simp [h]⟩

/-- A visit is determined, and what comes after it. -/
theorem events_append_inj {v v' : Visit} {after after' : List FrameEvent}
    (hread : ∀ g c, v = .ran g c → c.Readable)
    (hshape : ∀ {g c}, v = .ran g c → c.WellShaped ∧ ∃ scope, c.kind = .group g scope)
    (hshape' : ∀ {g c}, v' = .ran g c → c.WellShaped ∧ ∃ scope, c.kind = .group g scope)
    (h : v.events ++ after = v'.events ++ after') : v = v' ∧ after = after' := by
  cases v with
  | skipped g =>
    cases v' with
    | skipped g' =>
      obtain ⟨hg, h⟩ := List.cons.inj h
      exact ⟨congrArg Visit.skipped (FrameEvent.skipped.inj hg), h⟩
    | ran g' f' => exact absurd h (skipped_ne_events g g' f' _ _)
  | ran g f =>
    cases v' with
    | skipped g' => exact absurd h.symm (skipped_ne_events g' g f _ _)
    | ran g' f' =>
      obtain ⟨hf, scope, hkind⟩ := hshape rfl
      obtain ⟨hf', scope', hkind'⟩ := hshape' rfl
      rw [events, events, List.append_assoc, List.append_assoc] at h
      obtain ⟨rfl, h⟩ := hread g f rfl hf hf' (precedes_ran f after) (precedes_ran f' after') h
      obtain ⟨rfl, -⟩ := FrameKind.group.inj (hkind.symm.trans hkind')
      exact ⟨rfl, List.append_cancel_left h⟩

/-- The events of visits determine them if those of the groups do. -/
theorem eventsAll_append_inj {visits visits' : List Visit} {closed closed' : Bool}
    {after after' : List FrameEvent} (hread : ∀ g c, .ran g c ∈ visits → c.Readable)
    (hshape : ∀ {g c}, .ran g c ∈ visits → c.WellShaped ∧ ∃ scope, c.kind = .group g scope)
    (hshape' : ∀ {g c}, .ran g c ∈ visits' → c.WellShaped ∧ ∃ scope, c.kind = .group g scope)
    (h : eventsAll visits ++ FrameRecord.lastEvent closed :: after =
      eventsAll visits' ++ FrameRecord.lastEvent closed' :: after') :
    visits = visits' ∧ closed = closed' ∧ after = after' := by
  induction visits generalizing visits' with
  | nil =>
    cases visits' with
    | nil =>
      obtain ⟨hlast, hafter⟩ := List.cons.inj h
      exact ⟨rfl, FrameRecord.lastEvent_inj hlast, hafter⟩
    | cons v' rest' =>
      rw [eventsAll, eventsAll, List.append_assoc] at h
      exact absurd h (lastEvent_ne_events closed v' _ _)
  | cons v rest ih =>
    cases visits' with
    | nil =>
      rw [eventsAll, eventsAll, List.append_assoc] at h
      exact absurd h.symm (lastEvent_ne_events closed' v _ _)
    | cons v' rest' =>
      rw [eventsAll, eventsAll, List.append_assoc, List.append_assoc] at h
      obtain ⟨rfl, hrest⟩ := events_append_inj (fun g c hv => hread g c (hv ▸ List.mem_cons_self))
        (fun hv => hshape (hv ▸ List.mem_cons_self))
        (fun hv => hshape' (hv ▸ List.mem_cons_self)) h
      obtain ⟨rfl, hlast⟩ := ih (fun g c hmem => hread g c (List.mem_cons_of_mem v hmem))
        (fun hmem => hshape (List.mem_cons_of_mem v hmem))
        (fun hmem => hshape' (List.mem_cons_of_mem v hmem)) hrest
      exact ⟨rfl, hlast⟩

end Visit

namespace FrameRecord

theorem WellShaped.called {f c : FrameRecord} (h : f.WellShaped) (hmem : .called c ∈ f.acts) :
    c.WellShaped := fun x hx => h x (.called hmem hx)

theorem WellShaped.ran {f c : FrameRecord} {g : Deferred} (h : f.WellShaped)
    (hmem : .ran g c ∈ f.visits) : c.WellShaped ∧ ∃ scope, c.kind = .group g scope :=
  ⟨fun x hx => h x (.ran hmem hx), (h f .self).groups hmem⟩

/-- The part of a frame's events after its acts. -/
def rest : FrameRecord → List FrameEvent → List FrameEvent
  | broken _ _, after => after
  | ended _ _ how visits closed, after =>
    .left how :: (Visit.eventsAll visits ++ lastEvent closed :: after)

theorem events_append (f : FrameRecord) (after : List FrameEvent) :
    f.events ++ after = .opened f.kind :: (Act.eventsAll f.acts ++ f.rest after) := by
  cases f with
  | broken kind acts => rfl
  | ended kind acts how visits closed => simp [events, rest, FrameRecord.acts, FrameRecord.kind]

theorem precede_rest {f : FrameRecord} (h : f.Shaped) {after : List FrameEvent}
    (hp : f.Precedes after) : Act.Precede f.acts (f.rest after) := by
  cases f with
  | broken kind acts => exact .inr ⟨fun c hmem => h.finished hmem, hp.resolve_left nofun⟩
  | ended kind acts how visits closed => exact .inl ⟨fun c hmem => h.finished hmem, how, _, rfl⟩

/-- The events of a frame determine it. -/
theorem readable (f : FrameRecord) : f.Readable := by
  induction f using induct with
  | step f hcalled hran =>
    intro f' after after' hf hf' hp hp' h
    rw [events_append, events_append] at h
    obtain ⟨hkind, h⟩ := List.cons.inj h
    obtain ⟨hacts, hrest⟩ := Act.eventsAll_append_inj hcalled hf.called hf'.called
      (precede_rest (hf f .self) hp) (precede_rest (hf' f' .self) hp') h
    have hkind := FrameEvent.opened.inj hkind
    -- after the acts, a crash goes on with its catch and an end with `left`
    cases f with
    | broken kind acts =>
      cases f' with
      | broken kind' acts' =>
        subst hkind hacts
        exact ⟨rfl, hrest⟩
      | ended kind' acts' how' visits' closed' =>
        obtain ⟨t, rfl⟩ := hp.resolve_left nofun
        cases hrest
    | ended kind acts how visits closed =>
      cases f' with
      | broken kind' acts' =>
        obtain ⟨t, rfl⟩ := hp'.resolve_left nofun
        cases hrest
      | ended kind' acts' how' visits' closed' =>
        obtain ⟨hhow, hrest⟩ := List.cons.inj hrest
        obtain ⟨hvisits, hclosed, hafter⟩ := Visit.eventsAll_append_inj hran hf.ran hf'.ran hrest
        have hhow := FrameEvent.left.inj hhow
        subst hkind hacts hhow hvisits hclosed
        exact ⟨rfl, hafter⟩

/-- **A history has one record at most.** -/
theorem Records.unique {t t' : FrameRecord} {history : List FrameEvent} (h : t.Records history)
    (h' : t'.Records history) : t = t' := by
  have hevents : t.events ++ [] = t'.events ++ [] := by rw [h.events, h'.events]
  exact (readable t h.shaped h'.shaped (.inl h.closed) (.inl h'.closed) hevents).1

end FrameRecord
end TableScript
