import Mathlib.Data.List.Forall2
import TableScript.Eval.Machine

/-!
# Computations that only read

A computation may look at the store and at the world outside, take notes and fail, without writing
to the store or to any output. `Reads m₀` says so of computations that start where nothing was
written since `m₀`; so what is known of `m₀` stays known from step to step, and what a computation
comes to is said in terms of `m₀`.
-/

namespace TableScript

/-- Whether an event writes to output or error output. -/
def Event.isOutput : Event → Bool
  | .out _ | .err _ | .rawOut _ | .rawErr _ => true
  | .log _ | .request _ | .command _ _ _ _ => false

/-- What was written so far. -/
def Machine.output (m : Machine) : List Event := m.events.toList.filter Event.isOutput

/-- Nothing was written since: neither to the store, nor to any output. -/
structure Unwritten (m m' : Machine) : Prop where
  store : m'.store = m.store
  scope : m'.scope = m.scope
  config : m'.config = m.config
  output : m'.output = m.output

variable {m₀ m m' m'' : Machine} {α β : Type}

theorem Unwritten.refl (m : Machine) : Unwritten m m := ⟨rfl, rfl, rfl, rfl⟩

theorem Unwritten.trans (h : Unwritten m m') (h' : Unwritten m' m'') : Unwritten m m'' :=
  ⟨h'.store.trans h.store, h'.scope.trans h.scope, h'.config.trans h.config,
    h'.output.trans h.output⟩

theorem Unwritten.arise (h : Unwritten m m') (f : Fault) :
    Unwritten m { m' with faults := f :: m'.faults } := ⟨h.store, h.scope, h.config, h.output⟩

namespace Run

/-- What a computation that only reads comes to: a value or a failure of which something is
known. -/
inductive ReadResult (m₀ : Machine) (P : α → Prop) (F : Fault → Prop) :
    EStateM.Result Stop Machine α → Prop
  | value {a : α} {m : Machine} : Unwritten m₀ m → P a → ReadResult m₀ P F (.ok a m)
  | failure {f : Fault} {span : Option Span} {m : Machine} : Unwritten m₀ m → F f →
    ReadResult m₀ P F (.error (.unwind (.failure f span)) m)

/-- A computation only reads, wherever nothing was written since `m₀`. -/
def Reads (m₀ : Machine) (P : α → Prop) (F : Fault → Prop) (x : Run α) : Prop :=
  ∀ m, Unwritten m₀ m → ReadResult m₀ P F (x m)

namespace Reads

variable {P : α → Prop} {Q : β → Prop} {F : Fault → Prop} {x y : Run α}

theorem mono {P' : α → Prop} (hP : ∀ {a}, P a → P' a) (hx : Reads m₀ P F x) :
    Reads m₀ P' F x := by
  intro m h
  have hresult := hx m h
  generalize x m = r at hresult ⊢
  cases hresult with
  | value hm ha => exact .value hm (hP ha)
  | failure hm hf => exact .failure hm hf

theorem of_pure {a : α} (ha : P a) : Reads m₀ P F (pure a : Run α) := fun _ h => .value h ha

theorem get_bind {f : Machine → Run β}
    (hf : ∀ m, Unwritten m₀ m → ReadResult m₀ Q F (f m m)) :
    Reads m₀ Q F (MonadState.get >>= f) := hf

/-- A change of the machine that writes nothing. -/
theorem of_modify {f : Machine → Machine} (hf : ∀ m, Unwritten m (f m)) :
    Reads m₀ (fun _ => True) F (modify f : Run PUnit) :=
  fun m h => .value (h.trans (hf m)) trivial

/-- To say something of what a computation that only reads comes to together with what follows it,
say it of its failures, and of what follows it where nothing was written. -/
theorem bind_then {R : EStateM.Result Stop Machine β → Prop} {f : α → Run β}
    (hx : Reads m₀ P F x) (hm : Unwritten m₀ m)
    (hfail : ∀ {fault span m₁}, F fault → Unwritten m₀ m₁ →
      R (.error (.unwind (.failure fault span)) m₁))
    (hf : ∀ a m₁, P a → Unwritten m₀ m₁ → R (f a m₁)) : R ((x >>= f) m) := by
  change R (EStateM.bind x f m)
  unfold EStateM.bind
  have hresult := hx m hm
  generalize x m = r at hresult ⊢
  cases hresult with
  | @value a m₁ hm₁ ha => exact hf a m₁ ha hm₁
  | failure hm₁ hfault => exact hfail hfault hm₁

theorem bind {f : α → Run β} (hx : Reads m₀ P F x) (hf : ∀ a, P a → Reads m₀ Q F (f a)) :
    Reads m₀ Q F (x >>= f) :=
  fun _ h => hx.bind_then h (fun hfault hm => .failure hm hfault) fun a m₁ ha hm => hf a ha m₁ hm

theorem ite {c : Prop} [Decidable c] (hx : c → Reads m₀ P F x) (hy : ¬ c → Reads m₀ P F y) :
    Reads m₀ P F (if c then x else y) := by
  split
  · exact hx ‹_›
  · exact hy ‹_›

/-- The failure of a computation that only reads may be recorded. -/
theorem noted (hx : Reads m₀ P F x) : Reads m₀ P F (noted x) := by
  intro m h
  unfold Run.noted
  have hresult := hx m h
  generalize x m = r at hresult ⊢
  cases hresult with
  | value hm ha => exact .value hm ha
  | failure hm hf => exact .failure (hm.arise _) hf

theorem lift {r : Except Fault α} (hr : ∀ f, r = .error f → F f) :
    Reads m₀ (r = .ok ·) F (lift r) := by
  intro m h
  cases r with
  | ok a => exact .value h rfl
  | error f => exact .failure h (hr f rfl)

theorem ensure {r : Except Fault α} (hr : ∀ f, r = .error f → F f) :
    Reads m₀ (r = .ok ·) F (ensure r) := (lift hr).noted

theorem fail {f : Fault} (hf : F f) : Reads m₀ P F (fail f : Run α) :=
  fun _ h => .failure (h.arise f) hf

theorem atSpan (span : Option Span) (hx : Reads m₀ P F x) : Reads m₀ P F (atSpan span x) := by
  intro m h
  unfold Run.atSpan
  have hresult := hx m h
  generalize x m = r at hresult ⊢
  cases hresult with
  | value hm ha => exact .value hm ha
  | @failure f s _ hm hf => cases s <;> exact .failure hm hf

/-- An event that is not written to any output. -/
theorem emit {e : Event} (he : e.isOutput = false) : Reads m₀ (fun _ => True) F (emit e) := by
  refine of_modify fun m => ⟨rfl, rfl, rfl, ?_⟩
  simp [Machine.output, he]

theorem log (source : LogSource) (level : LogLevel) (text : String) :
    Reads m₀ (fun _ => True) F (log source level text) :=
  get_bind fun m h => ite (fun _ => emit rfl) (fun _ => of_pure trivial) m h

theorem mapM {P : α → β → Prop} {f : α → Run β} {as : List α}
    (hf : ∀ a ∈ as, Reads m₀ (P a) F (f a)) : Reads m₀ (as.Forall₂ P) F (as.mapM f) := by
  induction as with
  | nil => exact of_pure .nil
  | cons a as ih =>
    rw [List.mapM_cons]
    refine (hf a List.mem_cons_self).bind fun b hb => ?_
    refine (ih fun a ha => hf a (List.mem_cons_of_mem _ ha)).bind fun bs hbs => ?_
    exact of_pure (.cons hb hbs)

end Reads
end Run
end TableScript
