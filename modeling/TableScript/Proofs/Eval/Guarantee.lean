import TableScript.Proofs.Value.Failures
import TableScript.Proofs.Value.Names

/-!
# What computations guarantee

A computation on the machine ends with a value, a failure, an exit or a crash. A `Guarantee` says,
for each of these endings, how the machine may differ from the one it started on, and `Run.Keeps`
that a computation lives up to it. A computation that runs out of fuel has no ending; `Run.Meets`
says what is left of the machine then, too.

1. `Quiet` changes leave alone what the control of a script depends on, and `Still` ones the scopes
   as well, and their failures are explained;
2. nearly everything a step does besides evaluating parts is still, never ends with an exit, and
   gives values of which something is known (`Run.Yields`);
3. a `Lawful` guarantee allows still changes and can be put together along a sequence of
   computations, so that it holds of a computation when it holds of the parts.
-/

namespace TableScript

/-- How a computation ended. -/
inductive Ending where
  | done
  | failed
  | exited (code : Int32)
  | crashed
  deriving DecidableEq

/-- The ending of a computation that stopped early. -/
def Unwind.ending : Unwind → Ending
  | .failure _ _ => .failed
  | .exit code => .exited code

@[simp] theorem Unwind.ending_at (u : Unwind) (span : Option Span) :
    (u.at span).ending = u.ending := by
  rcases u with ⟨f, _ | s⟩ | c <;> rfl

theorem Unwind.ending_ne_done (u : Unwind) : u.ending ≠ .done := by
  cases u <;> simp [ending]

theorem Unwind.ending_ne_crashed (u : Unwind) : u.ending ≠ .crashed := by
  cases u <;> simp [ending]

/-- The ending that was caught with a result. -/
def Ending.ofResult {α : Type} : Except Unwind α → Ending
  | .ok _ => .done
  | .error u => u.ending

theorem Ending.ofResult_ne_crashed {α : Type} (r : Except Unwind α) : ofResult r ≠ .crashed := by
  cases r with
  | ok a => exact nofun
  | error u => exact u.ending_ne_crashed

/-- The allowed changes of the machine, by how a computation ended. -/
abbrev Guarantee := Ending → Machine → Machine → Prop

/-- Scope, frames, exit status, turns and history are as before. -/
structure Quiet (m m' : Machine) : Prop where
  scope : m'.scope = m.scope
  frames : m'.frames = m.frames
  exit : m'.exit = m.exit
  turns : m'.turns = m.turns
  history : m'.history = m.history

theorem Quiet.refl (m : Machine) : Quiet m m := ⟨rfl, rfl, rfl, rfl, rfl⟩

theorem Quiet.trans {m₁ m₂ m₃ : Machine} (h : Quiet m₁ m₂) (h' : Quiet m₂ m₃) : Quiet m₁ m₃ :=
  ⟨h'.scope.trans h.scope, h'.frames.trans h.frames, h'.exit.trans h.exit, h'.turns.trans h.turns,
    h'.history.trans h.history⟩

/-- The machine in a new scope with these variables, inside another. -/
def Machine.inNewScope (m : Machine) (parent : Nat) (vars : List (String × Value)) : Machine :=
  { m with store := m.store.grown parent vars, scope := m.store.scopes.size }

/-! ## Failures that are explained -/

/-- Whether a signal is about a loop. -/
def Signal.isLoop : Signal → Bool
  | breakLoop | continueLoop => true
  | returned _ => false

/-- What is said of a loop's signal that met no loop. -/
inductive EscapeNotice : String → Prop
  | fromFunction {s : Signal} (name : String) : s.isLoop →
      EscapeNotice (s.name ++ " escaped from " ++ name ++ "()")
  | toTopLevel {s : Signal} : s.isLoop → EscapeNotice (s.name ++ " escaped to the top level")

/-- A failure that is not a bug, or the bug that a loop's signal escaped. -/
def Fault.Explained : Fault → Prop
  | .bug message => EscapeNotice message
  | _ => True

theorem Fault.explained_of_ne_bug {f : Fault} (h : ∀ message, f ≠ .bug message) : f.Explained := by
  cases f with
  | bug message => exact absurd rfl (h message)
  | _ => trivial

/-- The failures that a transport may answer with. -/
def Transport.failures : Transport → List Fault
  | .scripted answers => answers.filterMap fun
    | .error f => .some f
    | .ok _ => .none
  | _ => []

/-- The failures that arose from one machine to the next are explained or answers of the transport,
and no answers have been added. -/
structure FaultsExplained (m m' : Machine) : Prop where
  faults {f : Fault} :
    f ∈ m'.faults → f ∈ m.faults ∨ f.Explained ∨ f ∈ m.transport.failures
  answers : m'.transport.failures ⊆ m.transport.failures

namespace FaultsExplained

variable {m m' m₁ m₂ m₃ : Machine}

theorem of_eq (hfaults : m'.faults = m.faults) (htransport : m'.transport = m.transport) :
    FaultsExplained m m' where
  faults h := .inl (hfaults ▸ h)
  answers := htransport ▸ List.Subset.refl _

theorem trans (h : FaultsExplained m₁ m₂) (h' : FaultsExplained m₂ m₃) :
    FaultsExplained m₁ m₃ where
  faults hf := by
    obtain hold | hexplained | hanswer := h'.faults hf
    · exact h.faults hold
    · exact .inr (.inl hexplained)
    · exact .inr (.inr (h.answers hanswer))
  answers := List.Subset.trans h'.answers h.answers

end FaultsExplained

/-- A quiet change that leaves the scopes alone, and of which all failures are explained. -/
structure Still (m m' : Machine) : Prop extends Quiet m m' where
  scopes : m'.store.scopes = m.store.scopes
  explained : FaultsExplained m m'

theorem Still.refl (m : Machine) : Still m m := ⟨.refl m, rfl, .of_eq rfl rfl⟩

theorem Still.trans {m₁ m₂ m₃ : Machine} (h : Still m₁ m₂) (h' : Still m₂ m₃) : Still m₁ m₃ :=
  ⟨h.toQuiet.trans h'.toQuiet, h'.scopes.trans h.scopes, h.explained.trans h'.explained⟩

/-- A failure that is explained where the change began may be recorded. -/
theorem Still.arise {m m' : Machine} (h : Still m m') {f : Fault}
    (hf : f.Explained ∨ f ∈ m.transport.failures) :
    Still m { m' with faults := f :: m'.faults } := by
  refine ⟨⟨h.scope, h.frames, h.exit, h.turns, h.history⟩, h.scopes, fun hmem => ?_,
    h.explained.answers⟩
  obtain rfl | hmem := List.mem_cons.1 hmem
  · exact .inr hf
  · exact h.explained.faults hmem

/-! ## Guarantees -/

/-- A still change without an exit. -/
def quietly : Guarantee := fun e m m' => (∀ code, e ≠ .exited code) ∧ Still m m'

/-- Still changes are allowed, and changes before an ending may be counted in. -/
class Guarantee.Lawful (G : Guarantee) : Prop where
  quiet {e : Ending} {m m' : Machine} : quietly e m m' → G e m m'
  trans {e : Ending} {m₁ m₂ m₃ : Machine} : G .done m₁ m₂ → G e m₂ m₃ → G e m₁ m₃

/-- What is said of a machine on which the fuel ran out holds at once, and changes before may be
counted in. -/
class Guarantee.Cuts (G : Guarantee) (cut : Machine → Machine → Prop) : Prop where
  refl (m : Machine) : cut m m
  trans {m₁ m₂ m₃ : Machine} : G .done m₁ m₂ → cut m₂ m₃ → cut m₁ m₃

namespace Run

variable {α β γ : Type}

/-- How a computation ended and the machine it left; nothing when the fuel ran out. -/
def ended? : EStateM.Result Stop Machine α → Option (Ending × Machine)
  | .ok _ m => some (.done, m)
  | .error (.unwind u) m => some (u.ending, m)
  | .error (.crash _) m => some (.crashed, m)
  | .error .outOfFuel _ => none

/-- A computation changes the machine only as its guarantee allows. -/
structure Keeps (G : Guarantee) (x : Run α) : Prop where
  of_ended {m : Machine} {e : Ending} {m' : Machine} : ended? (x m) = some (e, m') → G e m m'

/-- A sequence ends where its first part stops, or where the second part ends. -/
theorem ended?_bind {x : Run α} {f : α → Run β} {m m' : Machine} {e : Ending}
    (h : ended? ((x >>= f) m) = some (e, m')) :
    (e ≠ .done ∧ ended? (x m) = some (e, m')) ∨
      ∃ a m₁, x m = .ok a m₁ ∧ ended? (f a m₁) = some (e, m') := by
  change ended? (EStateM.bind x f m) = _ at h
  unfold EStateM.bind at h
  cases hx : x m with
  | ok a m₁ =>
    rw [hx] at h
    exact .inr ⟨a, m₁, rfl, h⟩
  | error s m₁ =>
    rw [hx] at h
    cases s with
    | unwind u =>
      have he : u.ending = e := congrArg Prod.fst (Option.some.inj h)
      exact .inl ⟨he ▸ u.ending_ne_done, h⟩
    | crash message =>
      have he : Ending.crashed = e := congrArg Prod.fst (Option.some.inj h)
      exact .inl ⟨he ▸ nofun, h⟩
    | outOfFuel => cases h

theorem get_bind_apply (f : Machine → Run α) (m : Machine) : (get >>= f) m = f m m := rfl

theorem ended?_get_bind (f : Machine → Run α) (m : Machine) :
    ended? ((get >>= f) m) = ended? (f m m) := rfl

theorem ended?_modify_bind (g : Machine → Machine) (f : PUnit → Run α) (m : Machine) :
    ended? ((modify g >>= f) m) = ended? (f ⟨⟩ (g m)) := rfl

theorem ended?_bind_pure (x : Run α) (f : α → β) (m : Machine) :
    ended? ((x >>= fun a => pure (f a)) m) = ended? (x m) := by
  change ended? (EStateM.bind x _ m) = _
  unfold EStateM.bind
  cases x m with
  | ok a m₁ => rfl
  | error s m₁ => cases s <;> rfl

theorem ended?_ok {x : Run α} {m m' : Machine} {a : α} (h : x m = .ok a m') :
    ended? (x m) = some (.done, m') := by
  rw [h]
  rfl

/-- What follows a caught result starts where the computation ended, unless it crashed. -/
theorem ended?_attempt_bind {x : Run α} {f : Except Unwind α → Run β} {m m' : Machine} {e : Ending}
    (h : ended? ((attempt x >>= f) m) = some (e, m')) :
    (e = .crashed ∧ ended? (x m) = some (.crashed, m')) ∨
      ∃ r m₁, ended? (x m) = some (.ofResult r, m₁) ∧ ended? (f r m₁) = some (e, m') := by
  change ended? (EStateM.bind (attempt x) f m) = _ at h
  unfold EStateM.bind attempt at h
  cases hx : x m with
  | ok a m₁ =>
    simp only [hx] at h
    exact .inr ⟨.ok a, m₁, rfl, h⟩
  | error s m₁ =>
    simp only [hx] at h
    cases s with
    | unwind u => exact .inr ⟨.error u, m₁, rfl, h⟩
    | crash message =>
      obtain ⟨rfl, rfl⟩ := Prod.mk.inj (Option.some.inj h)
      exact .inl ⟨rfl, rfl⟩
    | outOfFuel => cases h

/-- Where the fuel runs out after a caught result, it ran out before or afterwards. -/
theorem outOfFuel_attempt_bind {x : Run α} {f : Except Unwind α → Run β} {m m' : Machine}
    (h : (attempt x >>= f) m = .error .outOfFuel m') :
    x m = .error .outOfFuel m' ∨
      ∃ r m₁, ended? (x m) = some (.ofResult r, m₁) ∧ f r m₁ = .error .outOfFuel m' := by
  change EStateM.bind (attempt x) f m = _ at h
  unfold EStateM.bind attempt at h
  cases hx : x m with
  | ok a m₁ =>
    simp only [hx] at h
    exact .inr ⟨.ok a, m₁, rfl, h⟩
  | error s m₁ =>
    simp only [hx] at h
    cases s with
    | unwind u => exact .inr ⟨.error u, m₁, rfl, h⟩
    | crash message => cases h
    | outOfFuel =>
      obtain ⟨-, rfl⟩ := EStateM.Result.error.inj h
      exact .inl rfl

theorem eq_ok_of_bind {x : Run α} {f : α → Run β} {m m' : Machine} {b : β}
    (h : (x >>= f) m = .ok b m') : ∃ a m₁, x m = .ok a m₁ ∧ f a m₁ = .ok b m' := by
  change EStateM.bind x f m = _ at h
  unfold EStateM.bind at h
  cases hx : x m with
  | ok a m₁ =>
    rw [hx] at h
    exact ⟨a, m₁, rfl, h⟩
  | error s m₁ =>
    rw [hx] at h
    cases h

theorem ended?_of_attempt {x : Run α} {r : Except Unwind α} {m m' : Machine}
    (h : attempt x m = .ok r m') : ended? (x m) = some (.ofResult r, m') := by
  unfold attempt at h
  cases hx : x m with
  | ok a m₁ =>
    rw [hx] at h
    obtain ⟨rfl, rfl⟩ := EStateM.Result.ok.inj h
    rfl
  | error s m₁ =>
    rw [hx] at h
    cases s with
    | unwind u =>
      obtain ⟨rfl, rfl⟩ := EStateM.Result.ok.inj h
      rfl
    | crash message => cases h
    | outOfFuel => cases h

theorem ended?_resume (r : Except Unwind α) (m : Machine) :
    ended? (resume r m) = some (.ofResult r, m) := by
  cases r <;> rfl

namespace Keeps

variable {G H : Guarantee} {x : Run α}

theorem mono (hGH : ∀ {e m m'}, G e m m' → H e m m') (hx : Keeps G x) : Keeps H x :=
  ⟨fun h => hGH (hx.of_ended h)⟩

theorem atSpan (span : Option Span) (hx : Keeps G x) : Keeps G (atSpan span x) := by
  refine ⟨fun {m e m'} h => hx.of_ended ?_⟩
  rw [← h, Run.atSpan]
  cases x m with
  | ok a m₁ => rfl
  | error s m₁ =>
    cases s with
    | unwind u => simp only [ended?, Unwind.ending_at]
    | crash message => rfl
    | outOfFuel => rfl

end Keeps

/-! ## Still computations -/

/-- What a still computation comes to: a value of which something is known, a failure that is
explained, or a crash, but not for want of an argument. -/
inductive StillResult (P : α → Prop) (m : Machine) : EStateM.Result Stop Machine α → Prop
  | value {a : α} {m' : Machine} : Still m m' → P a → StillResult P m (.ok a m')
  | failure {f : Fault} {span : Option Span} {m' : Machine} : Still m m' →
      f.Explained ∨ f ∈ m.transport.failures →
      StillResult P m (.error (.unwind (.failure f span)) m')
  | crash {message : String} {m' : Machine} : Still m m' → message ≠ "argument out of range" →
      StillResult P m (.error (.crash message) m')

/-- What comes of a computation after a still change. -/
theorem StillResult.after {P : α → Prop} {m m₁ : Machine} {r : EStateM.Result Stop Machine α}
    (hstill : Still m m₁) (h : StillResult P m₁ r) : StillResult P m r := by
  cases h with
  | value hstill' ha => exact .value (hstill.trans hstill') ha
  | failure hstill' hf =>
    exact .failure (hstill.trans hstill') (hf.imp_right (hstill.explained.answers ·))
  | crash hstill' hne => exact .crash (hstill.trans hstill') hne

/-- A computation is still on every machine, and its values have a property. -/
def Yields (P : α → Prop) (x : Run α) : Prop := ∀ m, StillResult P m (x m)

namespace Yields

variable {P : α → Prop} {Q : β → Prop} {x : Run α}

theorem mono {P' : α → Prop} (hP : ∀ {a}, P a → P' a) (hx : Yields P x) : Yields P' x := by
  intro m
  have hresult := hx m
  generalize x m = r at hresult ⊢
  cases hresult with
  | value hstill ha => exact .value hstill (hP ha)
  | failure hstill hf => exact .failure hstill hf
  | crash hstill hne => exact .crash hstill hne

theorem bind {f : α → Run β} (hx : Yields P x) (hf : ∀ a, P a → Yields Q (f a)) :
    Yields Q (x >>= f) := by
  intro m
  change StillResult Q m (EStateM.bind x f m)
  unfold EStateM.bind
  have hresult := hx m
  generalize x m = r at hresult ⊢
  cases hresult with
  | @value a m₁ hstill ha => exact (hf a ha m₁).after hstill
  | failure hstill hf => exact .failure hstill hf
  | crash hstill hne => exact .crash hstill hne

theorem of_pure {a : α} (ha : P a) : Yields P (pure a : Run α) := fun m => .value (.refl m) ha

theorem of_get : Yields (fun _ => True) (MonadState.get : Run Machine) :=
  fun m => .value (.refl m) trivial

theorem crash {message : String} (h : message ≠ "argument out of range") :
    Yields P (throw (.crash message) : Run α) :=
  fun m => .crash (.refl m) h

/-- A change of the machine that is still everywhere. -/
theorem of_modify {f : Machine → Machine} (hf : ∀ m, Still m (f m)) :
    Yields (fun _ => True) (modify f : Run PUnit) :=
  fun m => .value (hf m) trivial

theorem ite {c : Prop} [Decidable c] {y : Run α} (hx : Yields P x) (hy : Yields P y) :
    Yields P (if c then x else y) := by
  split
  · exact hx
  · exact hy

/-- A computation that looks at the machine first. -/
theorem get_bind {f : Machine → Run β} (hf : ∀ m, StillResult Q m (f m m)) :
    Yields Q (MonadState.get >>= f) := hf

/-- The failure of a still computation may be recorded. -/
theorem noted (hx : Yields P x) : Yields P (noted x) := by
  intro m
  unfold Run.noted
  have hresult := hx m
  generalize x m = r at hresult ⊢
  cases hresult with
  | value hstill ha => exact .value hstill ha
  | failure hstill hf => exact .failure (hstill.arise hf) hf
  | crash hstill hne => exact .crash hstill hne

theorem lift {r : Except Fault α} (hr : NoBug r) : Yields (r = .ok ·) (lift r) := by
  intro m
  cases r with
  | ok a => exact .value (.refl m) rfl
  | error f =>
    refine .failure (.refl m) (.inl (Fault.explained_of_ne_bug fun message hf => ?_))
    exact hr message (congrArg _ hf)

theorem ensure {r : Except Fault α} (hr : NoBug r) : Yields (r = .ok ·) (ensure r) :=
  (lift hr).noted

theorem fail {f : Fault} (hf : f.Explained) : Yields P (fail f : Run α) :=
  fun m => .failure ((Still.refl m).arise (.inl hf)) (.inl hf)

theorem ofStore {x : StoreM α} (hx : StoreM.Steady x) : Yields (fun _ => True) (ofStore x) := by
  intro m
  unfold Run.ofStore
  cases hrun : x m.store with
  | ok a st =>
    simp only [hrun]
    exact .value ⟨⟨rfl, rfl, rfl, rfl, rfl⟩, hx.ok hrun, .of_eq rfl rfl⟩ trivial
  | error f st =>
    simp only [hrun]
    obtain ⟨hscopes, hbug⟩ := hx.error hrun
    have hf := Fault.explained_of_ne_bug hbug
    have hstill : Still m { m with store := st } :=
      ⟨⟨rfl, rfl, rfl, rfl, rfl⟩, hscopes, .of_eq rfl rfl⟩
    exact .failure (hstill.arise (.inl hf)) (.inl hf)

theorem modifyStore {f : Store → Store} (hf : ∀ st, (f st).scopes = st.scopes) :
    Yields (fun _ => True) (modifyStore f) :=
  of_modify fun m => ⟨⟨rfl, rfl, rfl, rfl, rfl⟩, hf m.store, .of_eq rfl rfl⟩

theorem emit (e : Event) : Yields (fun _ => True) (emit e) :=
  of_modify fun _ => ⟨⟨rfl, rfl, rfl, rfl, rfl⟩, rfl, .of_eq rfl rfl⟩

theorem log (source : LogSource) (level : LogLevel) (text : String) :
    Yields (fun _ => True) (log source level text) :=
  of_get.bind fun _ _ => ite (emit _) (of_pure trivial)

/-- A computation that takes place only under a condition, and what follows it. -/
theorem when {c : Prop} [Decidable c] {y : Run PUnit} {k : PUnit → Run β}
    (hy : Yields (fun _ => True) y) (hk : ∀ u, Yields Q (k u)) :
    Yields Q (if c then y >>= k else k ⟨⟩) :=
  ite (hy.bind fun u _ => hk u) (hk ⟨⟩)

theorem mapM {f : β → Run γ} (hf : ∀ b, Yields (fun _ => True) (f b)) (bs : List β) :
    Yields (·.length = bs.length) (bs.mapM f) := by
  induction bs with
  | nil => exact of_pure rfl
  | cons b bs ih =>
    rw [List.mapM_cons]
    exact (hf b).bind fun _ _ => ih.bind fun _ hlength => of_pure (congrArg (· + 1) hlength)

theorem forM {f : β → Run PUnit} (hf : ∀ b, Yields (fun _ => True) (f b)) (bs : List β) :
    Yields (fun _ => True) (bs.forM f) := by
  induction bs with
  | nil => exact of_pure trivial
  | cons b bs ih => exact (hf b).bind fun _ _ => ih

theorem of_ok (hx : Yields P x) {m m' : Machine} {a : α} (h : x m = .ok a m') :
    Still m m' ∧ P a := by
  have hresult := hx m
  rw [h] at hresult
  cases hresult with
  | value hstill ha => exact ⟨hstill, ha⟩

/-- A still computation changes the machine quietly, and never runs out of fuel. -/
theorem keeps (hx : Yields P x) : Keeps quietly x := by
  refine ⟨fun {m e m'} h => ?_⟩
  have hresult := hx m
  cases hrun : x m with
  | ok a m₁ =>
    rw [hrun] at h hresult
    obtain ⟨rfl, rfl⟩ := Prod.mk.inj (Option.some.inj h)
    cases hresult with
    | value hstill _ => exact ⟨nofun, hstill⟩
  | error s m₁ =>
    rw [hrun] at h hresult
    cases hresult with
    | failure hstill _ =>
      obtain ⟨rfl, rfl⟩ := Prod.mk.inj (Option.some.inj h)
      exact ⟨nofun, hstill⟩
    | crash hstill _ =>
      obtain ⟨rfl, rfl⟩ := Prod.mk.inj (Option.some.inj h)
      exact ⟨nofun, hstill⟩

theorem ne_outOfFuel (hx : Yields P x) (m m' : Machine) : x m ≠ .error .outOfFuel m' := by
  intro h
  have hresult := hx m
  rw [h] at hresult
  cases hresult

end Yields

/-! ## Guarantees up to the end of the fuel -/

/-- A computation keeps a guarantee, and where the fuel runs out the machine is as it may be
then. -/
structure Meets (G : Guarantee) (cut : Machine → Machine → Prop) (x : Run α) : Prop
    extends Keeps G x where
  of_cut {m m' : Machine} : x m = .error .outOfFuel m' → cut m m'

namespace Meets

variable {G : Guarantee} {cut : Machine → Machine → Prop} {x : Run α}

instance : CoeOut (Meets G cut x) (Keeps G x) := ⟨Meets.toKeeps⟩

theorem atSpan (span : Option Span) (hx : Meets G cut x) : Meets G cut (atSpan span x) := by
  refine ⟨hx.toKeeps.atSpan span, fun {m m'} h => hx.of_cut (m := m) ?_⟩
  unfold Run.atSpan at h
  cases hrun : x m with
  | ok a m₁ =>
    rw [hrun] at h
    cases h
  | error s m₁ =>
    rw [hrun] at h
    cases s <;> cases h
    rfl

theorem ite {c : Prop} [Decidable c] {y : Run α} (hx : Meets G cut x) (hy : Meets G cut y) :
    Meets G cut (if c then x else y) := by
  split
  · exact hx
  · exact hy

theorem outOfFuel (hcut : ∀ m, cut m m) : Meets G cut (throw .outOfFuel : Run α) where
  of_ended h := by cases h
  of_cut h := by
    obtain ⟨-, rfl⟩ := EStateM.Result.error.inj h
    exact hcut _

variable [G.Lawful]

theorem of_yields {P : α → Prop} (hx : Yields P x) : Meets G cut x where
  toKeeps := hx.keeps.mono Guarantee.Lawful.quiet
  of_cut h := absurd h (hx.ne_outOfFuel _ _)

theorem of_pure (a : α) : Meets G cut (pure a : Run α) :=
  of_yields (.of_pure (P := fun _ => True) trivial)

theorem of_get : Meets G cut (MonadState.get : Run Machine) := of_yields .of_get

theorem fail {f : Fault} (hf : f.Explained) : Meets G cut (fail f : Run α) :=
  of_yields (.fail (P := fun _ => True) hf)

theorem ensure {r : Except Fault α} (hr : NoBug r) : Meets G cut (ensure r) :=
  of_yields (.ensure hr)

theorem ofStore {x : StoreM α} (hx : StoreM.Steady x) : Meets G cut (ofStore x) :=
  of_yields (.ofStore hx)

theorem log (source : LogSource) (level : LogLevel) (text : String) :
    Meets G cut (log source level text) :=
  of_yields (.log source level text)

variable [G.Cuts cut]

/-- A computation of whose value something is known, and what follows it. -/
theorem bind_of {P : α → Prop} {f : α → Run β} (hx : Meets G cut x)
    (hP : ∀ {m a m'}, x m = .ok a m' → P a) (hf : ∀ a, P a → Meets G cut (f a)) :
    Meets G cut (x >>= f) := by
  refine ⟨⟨fun {m e m'} h => ?_⟩, fun {m m'} h => ?_⟩
  · obtain ⟨-, h⟩ | ⟨a, m₁, hok, h⟩ := ended?_bind h
    · exact hx.of_ended h
    · exact Guarantee.Lawful.trans (hx.of_ended (ended?_ok hok)) ((hf a (hP hok)).of_ended h)
  · change EStateM.bind x f m = _ at h
    unfold EStateM.bind at h
    cases hrun : x m with
    | ok a m₁ =>
      rw [hrun] at h
      exact Guarantee.Cuts.trans (hx.of_ended (ended?_ok hrun)) ((hf a (hP hrun)).of_cut h)
    | error s m₁ =>
      rw [hrun] at h
      obtain ⟨rfl, rfl⟩ := EStateM.Result.error.inj h
      exact hx.of_cut hrun

theorem bind {f : α → Run β} (hx : Meets G cut x) (hf : ∀ a, Meets G cut (f a)) :
    Meets G cut (x >>= f) :=
  hx.bind_of (P := fun _ => True) (fun _ => trivial) fun a _ => hf a

/-- A still computation, and what follows its value. -/
theorem bind_yields {P : α → Prop} {f : α → Run β} (hx : Yields P x)
    (hf : ∀ a, P a → Meets G cut (f a)) : Meets G cut (x >>= f) :=
  (of_yields hx).bind_of (fun h => (hx.of_ok h).2) hf

/-- A computation that takes place only under a condition, and what follows it. -/
theorem when {c : Prop} [Decidable c] {y : Run PUnit} {k : PUnit → Run β} (hy : Meets G cut y)
    (hk : ∀ u, Meets G cut (k u)) : Meets G cut (if c then y >>= k else k ⟨⟩) :=
  ite (hy.bind hk) (hk ⟨⟩)

theorem mapM {f : β → Run γ} (hf : ∀ b, Meets G cut (f b)) (bs : List β) :
    Meets G cut (bs.mapM f) := by
  induction bs with
  | nil => exact of_pure _
  | cons b bs ih =>
    rw [List.mapM_cons]
    exact (hf b).bind fun _ => ih.bind fun _ => of_pure _

theorem forM {f : β → Run PUnit} (hf : ∀ b, Meets G cut (f b)) (bs : List β) :
    Meets G cut (bs.forM f) := by
  induction bs with
  | nil => exact of_pure _
  | cons b bs ih => exact (hf b).bind fun _ => ih

end Meets
end Run
end TableScript
