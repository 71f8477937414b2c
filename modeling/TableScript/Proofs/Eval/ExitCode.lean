import TableScript.Proofs.Eval.Frames
import TableScript.Proofs.Eval.Steps

/-!
# Exit codes

Every computation accounts for the turns it takes (`Accounts`): once a deferred group has failed the
exit code is other than zero, without such a failure and without an exit it stays as it was, and an
exit with a code other than zero leads to a failing end, to a code other than zero, or was
overruled. This holds of every evaluator, so it holds of whole scripts.

1. `exit_code_sound`: what the code of a finished script says about its diagnostics, its failed
   groups and its exits;
2. `exit_request_kept`: an exit with a code other than zero is not lost, unless a frame that had
   ended with exit code zero overruled its deferred groups. `exit_request_lost` is a script that
   does so.
-/

namespace TableScript

open Run

/-! ## The exit status -/

namespace ExitStatus

/-- Only escalation lies between two statuses: a code other than zero stays. -/
structure Follows (s s' : ExitStatus) : Prop where
  isExiting : s'.isExiting = s.isExiting
  code : s.code ≠ 0 → s'.code = s.code

variable {s s' s'' : ExitStatus}

theorem Follows.refl (s : ExitStatus) : s.Follows s := ⟨rfl, fun _ => rfl⟩

theorem Follows.code_ne_zero (h : s.Follows s') (hs : s.code ≠ 0) : s'.code ≠ 0 := by
  rw [h.code hs]
  exact hs

theorem Follows.trans (h : s.Follows s') (h' : s'.Follows s'') : s.Follows s'' where
  isExiting := h'.isExiting.trans h.isExiting
  code hs := (h'.code (h.code_ne_zero hs)).trans (h.code hs)

theorem follows_escalate (s : ExitStatus) (code : Int32) : s.Follows (s.escalate code) := by
  obtain ⟨phase, pending, initial⟩ := s
  cases phase with
  | running =>
    by_cases hp : pending = 0
    · exact ⟨by simp [escalate, isExiting, hp], fun h => absurd hp h⟩
    · simpa [escalate, hp] using Follows.refl _
  | exiting current =>
    by_cases hc : current = 0 ∧ code ≠ 0
    · exact ⟨by simp [escalate, isExiting, hc], fun h => absurd hc.1 h⟩
    · simpa [escalate, hc] using Follows.refl _

/-- Escalation gives a code other than zero if there is one on either side. -/
theorem code_escalate_ne_zero (s : ExitStatus) {code : Int32} (h : s.code ≠ 0 ∨ code ≠ 0) :
    (s.escalate code).code ≠ 0 := by
  by_cases hs : s.code ≠ 0
  · exact (follows_escalate s code).code_ne_zero hs
  · have hcode := h.resolve_left hs
    obtain ⟨phase, pending, initial⟩ := s
    cases phase <;> simp_all [escalate, ExitStatus.code]

theorem code_begin (hs : s.isExiting = false) (code : Int32) :
    (s.begin code).1.code = if code = 0 then s.code else code := by
  obtain ⟨phase, pending, initial⟩ := s
  cases phase with
  | running => simp [begin, ExitStatus.code]
  | exiting current => simp [isExiting] at hs

end ExitStatus

/-! ## Accounting for turns -/

/-- An exit with code zero overruled deferred groups that asked for another code. -/
def Overruled (turns : List Turn) : Prop := ∃ asked, asked ≠ 0 ∧ .exitOverruled 0 asked ∈ turns

/-- No exit was asked for and no deferred group failed. -/
def Uneventful (turns : List Turn) : Prop :=
  (∀ code, .exitAsked code ∉ turns) ∧ .groupFailed ∉ turns

/-- What an ending and a change of the exit status have to do with the turns taken meanwhile. -/
structure Accounts (e : Ending) (s s' : ExitStatus) (new : List Turn) : Prop where
  follows : s.Follows s'
  /-- A failed group shows in the code. -/
  groupFailed : e ≠ .crashed → .groupFailed ∈ new → s'.code ≠ 0
  /-- Without an exit and a failed group, the code stays and there is no exit. -/
  uneventful : e ≠ .crashed → Uneventful new → s'.code = s.code ∧ ∀ code, e ≠ .exited code
  /-- An exit with a code other than zero shows in the ending or in the code, or was overruled. -/
  asked : e ≠ .crashed → ∀ code, code ≠ 0 → .exitAsked code ∈ new →
    e.isFailure ∨ s'.code ≠ 0 ∨ Overruled new

theorem Overruled.mono {old new : List Turn} (h : Overruled old) (hsub : old ⊆ new) :
    Overruled new := by
  obtain ⟨asked, hne, hmem⟩ := h
  exact ⟨asked, hne, hsub hmem⟩

theorem Uneventful.mono {old new : List Turn} (h : Uneventful new) (hsub : old ⊆ new) :
    Uneventful old :=
  ⟨fun code hc => h.1 code (hsub hc), fun hf => h.2 (hsub hf)⟩

namespace Accounts

variable {e e₁ e₂ : Ending} {s s₁ s₂ s₃ s₄ : ExitStatus} {new new₁ new₂ extra : List Turn}

theorem crashed (h : s₁.Follows s₂) : Accounts .crashed s₁ s₂ new :=
  ⟨h, fun he => absurd rfl he, fun he => absurd rfl he, fun he => absurd rfl he⟩

theorem nil (he : ∀ code, e ≠ .exited code) : Accounts e s s [] where
  follows := .refl s
  groupFailed _ h := absurd h List.not_mem_nil
  uneventful _ _ := ⟨rfl, he⟩
  asked _ _ _ h := absurd h List.not_mem_nil

/-- Two computations one after the other, and what is made of their endings: an ending, a status and
turns of its own. A failing part has to show in these, and so has a crash of the second. -/
theorem compose (h₁ : Accounts e₁ s₁ s₂ new₁) (he₁ : e₁ ≠ .crashed)
    (h₂ : Accounts e₂ s₂ s₃ new₂) (hfollows : s₃.Follows s₄)
    (hcrash : e₂ = .crashed → .groupFailed ∈ extra)
    (hfailed : .groupFailed ∈ extra → s₄.code ≠ 0)
    (hasked : ∀ code, .exitAsked code ∉ extra)
    (hfails : e₁.isFailure ∨ e₂.isFailure → e.isFailure ∨ s₄.code ≠ 0 ∨ Overruled extra)
    (hcalm : (∀ code, e₁ ≠ .exited code) → (∀ code, e₂ ≠ .exited code) → .groupFailed ∉ extra →
      s₄.code = s₃.code ∧ ∀ code, e ≠ .exited code) :
    Accounts e s₁ s₄ (extra ++ (new₂ ++ new₁)) where
  follows := h₁.follows.trans (h₂.follows.trans hfollows)
  groupFailed _ hmem := by
    simp only [List.mem_append] at hmem
    obtain hmem | hmem | hmem := hmem
    · exact hfailed hmem
    · by_cases he₂ : e₂ = .crashed
      · exact hfailed (hcrash he₂)
      · exact hfollows.code_ne_zero (h₂.groupFailed he₂ hmem)
    · exact (h₂.follows.trans hfollows).code_ne_zero (h₁.groupFailed he₁ hmem)
  uneventful _ hcalm' := by
    have hextra : .groupFailed ∉ extra := fun h => hcalm'.2 (List.mem_append_left _ h)
    have he₂ : e₂ ≠ .crashed := fun h => hextra (hcrash h)
    obtain ⟨hcode₂, hexit₂⟩ := h₂.uneventful he₂ (hcalm'.mono (by simp))
    obtain ⟨hcode₁, hexit₁⟩ := h₁.uneventful he₁ (hcalm'.mono (by simp))
    obtain ⟨hcode, hexit⟩ := hcalm hexit₁ hexit₂ hextra
    exact ⟨hcode.trans (hcode₂.trans hcode₁), hexit⟩
  asked _ code hcode hmem := by
    have hshown : ∀ h : e₁.isFailure ∨ e₂.isFailure,
        e.isFailure ∨ s₄.code ≠ 0 ∨ Overruled (extra ++ (new₂ ++ new₁)) := fun h =>
      (hfails h).imp_right (Or.imp_right fun ho => ho.mono (List.subset_append_left _ _))
    simp only [List.mem_append] at hmem
    obtain hmem | hmem | hmem := hmem
    · exact absurd hmem (hasked code)
    · by_cases he₂ : e₂ = .crashed
      · exact .inr (.inl (hfailed (hcrash he₂)))
      · obtain h | h | h := h₂.asked he₂ code hcode hmem
        · exact hshown (.inr h)
        · exact .inr (.inl (hfollows.code_ne_zero h))
        · exact .inr (.inr (h.mono (by simp)))
    · obtain h | h | h := h₁.asked he₁ code hcode hmem
      · exact hshown (.inl h)
      · exact .inr (.inl ((h₂.follows.trans hfollows).code_ne_zero h))
      · exact .inr (.inr (h.mono (by simp)))

/-- A computation that gives a value, and the next one. -/
theorem trans (h₁ : Accounts .done s₁ s₂ new₁) (h₂ : Accounts e s₂ s₃ new₂) :
    Accounts e s₁ s₃ (new₂ ++ new₁) := by
  by_cases he : e = .crashed
  · subst he
    exact crashed (h₁.follows.trans h₂.follows)
  · have hfails : Ending.done.isFailure ∨ e.isFailure → e.isFailure ∨ s₃.code ≠ 0 ∨ Overruled [] :=
      fun h => .inl (h.resolve_left nofun)
    have h : Accounts e s₁ s₃ ([] ++ (new₂ ++ new₁)) :=
      compose h₁ nofun h₂ (.refl s₃) (fun h => absurd h he) nofun nofun hfails
        fun _ hexit _ => ⟨rfl, hexit⟩
    exact h

/-- A frame: its body, then its groups, which never end with a failure. -/
theorem frame (h₁ : Accounts e₁ s₁ s₂ new₁) (he₁ : e₁ ≠ .crashed) (h₂ : Accounts e₂ s₂ s₃ new₂)
    (he₂ : e₂ ≠ .crashed) (hfailed : e₂ ≠ .failed) :
    Accounts (e₁.andThen e₂) s₁ s₃ (e₁.overruled e₂ ++ (new₂ ++ new₁)) := by
  refine compose h₁ he₁ h₂ (.refl s₃) (fun h => absurd h he₂) ?_ ?_ ?_ ?_
  · cases e₁ <;> cases e₂ <;> simp [Ending.overruled]
  · cases e₁ <;> cases e₂ <;> simp [Ending.overruled]
  · cases e₁ with
    | done => exact fun h => .inl (h.resolve_left nofun)
    | failed => exact fun _ => .inl rfl
    | crashed => exact absurd rfl he₁
    | exited own =>
      -- only an exit with code zero can hide what the groups asked for, and then it is on record
      by_cases hown : own = 0
      · subst hown
        rintro (h | h)
        · cases h
        · cases e₂ with
          | exited asked =>
            have hasked : asked ≠ 0 := by simpa [Ending.isFailure] using h
            exact .inr (.inr ⟨asked, hasked, by simp [Ending.overruled]⟩)
          | failed => exact absurd rfl hfailed
          | done => cases h
          | crashed => cases h
      · exact fun _ => .inl (by simpa [Ending.andThen, Ending.isFailure] using hown)
  · intro hexit₁ hexit₂ _
    refine ⟨rfl, ?_⟩
    cases e₁ with
    | done => exact hexit₂
    | failed => exact nofun
    | crashed => exact nofun
    | exited code => exact absurd rfl (hexit₁ code)

end Accounts

/-! ## Deferred groups and frames -/

/-- The ending that follows from the exit asked for so far. -/
def Ending.ofRequest : Option Int32 → Ending
  | none => .done
  | some code => .exited code

theorem Ending.ofRequest_ne_crashed (requested : Option Int32) :
    ofRequest requested ≠ .crashed := by
  cases requested <;> exact nofun

/-- The first code other than zero is kept. -/
theorem isFailure_firstFailure {requested : Option Int32} {code : Int32}
    (h : (Ending.ofRequest requested).isFailure ∨ (Ending.exited code).isFailure) :
    (Ending.exited (Deferred.firstFailure requested code)).isFailure := by
  cases requested with
  | none => exact h.resolve_left nofun
  | some previous =>
    by_cases hp : previous = 0
    · have hcode : code ≠ 0 := by simpa [Ending.ofRequest, Ending.isFailure, hp] using h
      simp [Ending.isFailure, Deferred.firstFailure, hp, hcode]
    · simp [Ending.isFailure, Deferred.firstFailure, hp]

/-- What is made of the ending of a group accounts for it. -/
theorem Accounts.settle {requested requested' : Option Int32} {m₁ m₂ : Machine} {e : Ending}
    {s₁ s₂ : ExitStatus} {new₁ new₂ : List Turn}
    (h₁ : Accounts (.ofRequest requested) s₁ s₂ new₁) (h₂ : Accounts e s₂ m₁.exit new₂)
    (hs : Deferred.Settled requested m₁ e requested' m₂) :
    ∃ extra, m₂.turns = extra ++ m₁.turns ∧
      Accounts (.ofRequest requested') s₁ m₂.exit (extra ++ (new₂ ++ new₁)) := by
  have he₁ := Ending.ofRequest_ne_crashed requested
  cases hs with
  | done =>
    refine ⟨[], rfl, compose h₁ he₁ h₂ (.refl _) nofun nofun nofun ?_ ?_⟩
    · exact fun h => .inl (h.resolve_right nofun)
    · exact fun hexit _ _ => ⟨rfl, hexit⟩
  | @escalated code _ _ hquiet =>
    have hcode : m₂.exit = m₁.exit.escalate code := hquiet.exit
    rw [hcode]
    refine ⟨[], hquiet.turns,
      compose h₁ he₁ h₂ (m₁.exit.follows_escalate code) nofun nofun nofun ?_ ?_⟩
    · rintro (h | h)
      · exact .inl h
      · have hcode : code ≠ 0 := by simpa [Ending.isFailure] using h
        exact .inr (.inl (m₁.exit.code_escalate_ne_zero (.inr hcode)))
    · exact fun _ hexit => absurd rfl (hexit code)
  | @asked code _ =>
    refine ⟨[], rfl, compose h₁ he₁ h₂ (.refl _) nofun nofun nofun ?_ ?_⟩
    · exact fun h => .inl (isFailure_firstFailure h)
    · exact fun _ hexit => absurd rfl (hexit code)
  | failed _ hquiet =>
    have hcode : m₂.exit = m₁.exit.escalate 1 := hquiet.exit
    have hne : (m₁.exit.escalate 1).code ≠ 0 := m₁.exit.code_escalate_ne_zero (.inr (by decide))
    rw [hcode]
    refine ⟨[.groupFailed], hquiet.turns,
      compose h₁ he₁ h₂ (m₁.exit.follows_escalate 1) ?_ ?_ ?_ ?_ ?_⟩
    · exact fun _ => List.mem_singleton_self _
    · exact fun _ => hne
    · simp
    · exact fun _ => .inr (.inl hne)
    · exact fun _ _ h => absurd (List.mem_singleton_self _) h

/-- A computation accounts for the turns it takes. -/
def accounted : Guarantee := fun e m m' =>
  ∃ new, m'.turns = new ++ m.turns ∧ Accounts e m.exit m'.exit new

/-- All parts of an evaluator account for their turns, and deferred groups never end with a
failure. -/
def accounting : Guarantees where
  expr := accounted
  stmt := accounted
  deferred _ _ := fun e m m' => e ≠ .failed ∧ accounted e m m'

variable {α : Type} {ev : Evaluator} {m m' : Machine} {e : Ending}

instance : Guarantee.Lawful accounted where
  quiet {e m m'} h := ⟨[], h.2.turns, h.2.exit ▸ .nil h.1⟩
  trans := by
    rintro e m₁ m₂ m₃ ⟨new₁, hturns₁, h₁⟩ ⟨new₂, hturns₂, h₂⟩
    exact ⟨new₂ ++ new₁, by rw [hturns₂, hturns₁, List.append_assoc], h₁.trans h₂⟩

/-- A frame accounts for its turns if its body and its groups do. -/
theorem accounted_frameEnds (hev : ev.Keeps accounting) {kind : FrameKind} {body : Run α}
    (hbody : Keeps accounted body) (h : FrameEnds ev kind body m e m') : accounted e m m' := by
  cases h with
  | bodyCrashed hcrash =>
    have hcrashed := hbody.of_ended hcrash
    exact hcrashed
  | groupsCrashed hended hcrash =>
    obtain ⟨new₁, hturns₁ : _ = new₁ ++ m.turns, h₁⟩ := hbody.of_ended hended
    obtain ⟨-, new₂, hturns₂, h₂⟩ := (hev.deferred _ _).of_ended hcrash
    refine ⟨new₂ ++ new₁, ?_, .crashed (h₁.follows.trans h₂.follows)⟩
    rw [hturns₂, List.append_assoc, ← hturns₁]
    rfl
  | ended he₂ hended hgroups =>
    obtain ⟨new₁, hturns₁ : _ = new₁ ++ m.turns, h₁⟩ := hbody.of_ended hended
    obtain ⟨hfailed, new₂, hturns₂, h₂⟩ := (hev.deferred _ _).of_ended hgroups
    refine ⟨_, ?_, h₁.frame (Ending.ofResult_ne_crashed _) h₂ he₂ hfailed⟩
    rw [List.append_assoc, List.append_assoc, ← hturns₁, hturns₂]
    rfl

theorem accounted_isolated (hev : ev.Keeps accounting) {g : Deferred}
    {outcome : Except String (Except Unwind Unit)} (h : Deferred.isolated ev g m = .ok outcome m') :
    accounted (.ofOutcome outcome) m m' := by
  obtain ⟨m₁, hframe, rfl⟩ := Deferred.isolated_eq_ok h
  have hframe := accounted_frameEnds hev (hev.block g.body).toKeeps hframe
  exact hframe

/-- The groups of a frame account for their turns, from any exit asked for so far. -/
theorem accounts_runAll (hev : ev.Keeps accounting) (frame : Frame) (groups : List Deferred)
    {requested : Option Int32} {s : ExitStatus} {new : List Turn}
    (hso : Accounts (.ofRequest requested) s m.exit new)
    (h : ended? (Deferred.runAll ev frame requested groups m) = some (e, m')) :
    e ≠ .failed ∧ ∃ more, m'.turns = more ++ m.turns ∧ Accounts e s m'.exit (more ++ new) := by
  -- from group to group, the exit asked for so far is the ending of what has run so far
  induction groups generalizing m requested new with
  | nil =>
    have hend : e = .ofRequest requested ∧ m' = m := by
      cases requested <;> exact ⟨(congrArg Prod.fst (Option.some.inj h)).symm,
        (congrArg Prod.snd (Option.some.inj h)).symm⟩
    obtain ⟨rfl, rfl⟩ := hend
    exact ⟨by cases requested <;> exact nofun, [], rfl, hso⟩
  | cons g rest ih =>
    obtain ⟨-, -, m₁, hquiet, h⟩ | ⟨-, outcome, m₁, hok, h⟩ := Deferred.ended?_runAll_cons h
    · rw [← hquiet.exit] at hso
      rw [← hquiet.turns]
      exact ih hso h
    · obtain ⟨new₁, hturns₁, hgroup⟩ := accounted_isolated hev hok
      obtain ⟨rfl, -, hquiet⟩ | ⟨requested', m₂, hsettled, h⟩ := h
      · -- the note of its failure crashed, so nothing else has to be accounted for
        have hexit : m'.exit = m₁.exit := hquiet.exit
        refine ⟨nofun, .groupFailed :: new₁, ?_, .crashed ?_⟩
        · rw [hquiet.turns, hturns₁]
          rfl
        · rw [hexit]
          exact hso.follows.trans hgroup.follows
      · obtain ⟨extra, hextra, hso'⟩ := hso.settle hgroup hsettled
        obtain ⟨hfailed, more, hmore, haccounts⟩ := ih hso' h
        refine ⟨hfailed, more ++ (extra ++ new₁), ?_, ?_⟩
        · rw [hmore, hextra, hturns₁]
          simp only [List.append_assoc]
        · simpa only [List.append_assoc] using haccounts

instance : accounting.Lawful where
  expr := inferInstanceAs (Guarantee.Lawful accounted)
  stmt := inferInstanceAs (Guarantee.Lawful accounted)
  cuts := ⟨fun _ => trivial, fun _ _ => trivial⟩
  deferredCut_refl _ := trivial
  stmt_of_expr h := h
  write _ := ⟨[], rfl, .nil nofun⟩
  inScope _ h := h
  inScope_crashed h := h
  inScope_cut _ := trivial
  register _ _ := ⟨[], rfl, .nil nofun⟩
  noFrame _ := ⟨[], rfl, .nil nofun⟩
  exit m code := by
    refine ⟨[.exitAsked code], rfl, .refl _, ?_, ?_, ?_⟩
    · exact fun _ h => absurd h (by simp)
    · exact fun _ h => absurd (List.mem_singleton_self _) (h.1 code)
    · intro _ asked hne hmem
      obtain rfl : asked = code := by simpa using hmem
      exact .inl (by simpa [Ending.isFailure] using hne)
  frame parent vars hev hbody := by
    refine ⟨⟨fun {m e m'} h => ?_⟩, fun _ => trivial⟩
    obtain ⟨m₁, hframe, rfl⟩ := ended?_inNewFrame h
    have hframe := accounted_frameEnds hev hbody.toKeeps hframe
    split
    · exact hframe
    · exact hframe
  groups groups frame hev := by
    refine ⟨⟨fun {m e m'} h => ?_⟩, fun _ => trivial⟩
    have hnone : Accounts (.ofRequest none) m.exit m.exit [] := .nil nofun
    obtain ⟨hfailed, more, hmore, haccounts⟩ := accounts_runAll hev frame groups hnone h
    rw [List.append_nil] at haccounts
    exact ⟨hfailed, more, hmore, haccounts⟩

/-! ## Scripts -/

namespace Script

theorem Concluded.code_ne_zero {code : Int32} {diagnostics : List String}
    (h : Concluded e code diagnostics) (he : e.isFailure) : code ≠ 0 := by
  cases h with
  | done => cases he
  | escaped text => decide
  | failed text => decide
  | exited code => simpa [Ending.isFailure] using he

/-- A finished script accounts for its turns: first those of its statements; then the exit begins,
`s₂` is the status, and its deferred groups run; at last a status follows that has a code other than
zero if the groups asked for an exit. -/
theorem accounts_run {fuel : Nat} {s : Script} {o : Outcome} (h : s.run fuel m = .ok o m') :
    ∃ e₁ e₂ code s₁ s₂ s₃ s₄ new₁ new₂, e₁ ≠ .crashed ∧ e₂ ≠ .crashed ∧ e₂ ≠ .failed ∧
      m'.turns = new₂ ++ new₁ ∧ Concluded e₁ code o.diagnostics ∧ Accounts e₁ {} s₁ new₁ ∧
      s₂.code = (if code = 0 then s₁.code else code) ∧ Accounts e₂ s₂ s₃ new₂ ∧
      s₃.Follows s₄ ∧ (e₂ = .done → s₄ = s₃) ∧ (e₂ ≠ .done → s₄.code ≠ 0) ∧
      o.exitCode = s₄.code := by
  have hev : (Evaluator.ofFuel fuel).Keeps accounting := keeps_ofFuel fuel
  obtain ⟨e₁, m₁, code, m₂, e₂, m₃, he₁, he₂, hblock, hconcluded, hbegun, hgroups, hend, hcode⟩ :=
    runWith_eq_ok h
  obtain ⟨new₁, hturns₁, h₁⟩ := (hev.block s.stmts).of_ended hblock
  obtain ⟨hfailed, new₂, hturns₂, h₂⟩ := (hev.deferred _ _).of_ended hgroups
  have hrunning : m₁.exit.isExiting = false := h₁.follows.isExiting
  have hstatus : m₂.exit = (m₁.exit.begin code).1 := hbegun.exit
  have hturns : m'.turns = new₂ ++ new₁ := by
    have hlast : m'.turns = m₃.turns := hend.turns
    have hbefore : (m₂.leftBy (.error (.exit m₂.exit.initialCode))).turns = m₁.turns := hbegun.turns
    rw [hlast, hturns₂, hbefore, hturns₁]
    simp [started]
  have hlast : m₃.exit.Follows m'.exit ∧ (e₂ = .done → m'.exit = m₃.exit) ∧
      (e₂ ≠ .done → m'.exit.code ≠ 0) := by
    rw [hend.exit]
    split
    · rename_i hdone
      exact ⟨.refl _, fun _ => rfl, fun h => absurd hdone h⟩
    · rename_i hdone
      exact ⟨m₃.exit.follows_escalate 1, fun h => absurd h hdone,
        fun _ => m₃.exit.code_escalate_ne_zero (.inr (by decide))⟩
  refine ⟨e₁, e₂, code, m₁.exit, m₂.exit, m₃.exit, m'.exit, new₁, new₂, he₁, he₂, hfailed, hturns,
    hconcluded, h₁, ?_, h₂, hlast.1, hlast.2.1, hlast.2.2, hcode⟩
  rw [hstatus]
  exact ExitStatus.code_begin hrunning code

/-- **Exit codes are sound.** A script that finishes has one diagnostic at most, and then exits with
code one. If a deferred group failed anywhere, the code is other than zero. Without a diagnostic, a
failed group and an exit, the code is zero. -/
theorem exit_code_sound {fuel : Nat} {s : Script} {o : Outcome} (h : s.run fuel m = .ok o m') :
    o.diagnostics.length ≤ 1 ∧ (o.diagnostics ≠ [] → o.exitCode = 1) ∧
      (.groupFailed ∈ m'.turns → o.exitCode ≠ 0) ∧
      (o.diagnostics = [] → .groupFailed ∉ m'.turns → (∀ code, .exitAsked code ∉ m'.turns) →
        o.exitCode = 0) := by
  obtain ⟨exitCode, diagnostics⟩ := o
  obtain ⟨e₁, e₂, code, s₁, s₂, s₃, s₄, new₁, new₂, he₁, he₂, hfailed, hturns, hconcluded, h₁, hs₂,
    h₂, hfollows, hdone, -, hcode⟩ := accounts_run h
  have hs₄ : s₂.Follows s₄ := h₂.follows.trans hfollows
  rw [hturns, hcode]
  refine ⟨by cases hconcluded <;> simp, ?_, ?_, ?_⟩
  · intro hdiag
    have hone : code = 1 := by cases hconcluded <;> first | rfl | exact absurd rfl hdiag
    have hs₂' : s₂.code = 1 := by rw [hs₂, hone]; rfl
    rw [hs₄.code (by rw [hs₂']; decide), hs₂']
  · intro hmem
    obtain hmem | hmem := List.mem_append.1 hmem
    · exact hfollows.code_ne_zero (h₂.groupFailed he₂ hmem)
    · have hs₁ := h₁.groupFailed he₁ hmem
      refine hs₄.code_ne_zero ?_
      rw [hs₂]
      split
      · exact hs₁
      · assumption
  · intro hdiag hgroup hasked
    have hcalm : Uneventful (new₂ ++ new₁) := ⟨hasked, hgroup⟩
    obtain ⟨hcode₁, hexit₁⟩ := h₁.uneventful he₁ (hcalm.mono (by simp))
    obtain ⟨hcode₂, hexit₂⟩ := h₂.uneventful he₂ (hcalm.mono (by simp))
    have hzero : code = 0 := by
      cases hconcluded with
      | done => rfl
      | escaped text => cases hdiag
      | failed text => cases hdiag
      | exited code => exact absurd rfl (hexit₁ code)
    have he₂' : e₂ = .done := by
      cases e₂ with
      | done => rfl
      | failed => exact absurd rfl hfailed
      | exited code => exact absurd rfl (hexit₂ code)
      | crashed => exact absurd rfl he₂
    calc s₄.code = s₃.code := by rw [hdone he₂']
      _ = s₂.code := hcode₂
      _ = s₁.code := by rw [hs₂, if_pos hzero]
      _ = 0 := hcode₁

/-- The exit code, the diagnostics and the turns of a script that finishes. -/
def finished? : EStateM.Result Stop Machine Outcome → Option (Int32 × List String × List Turn)
  | .ok o m => some (o.exitCode, o.diagnostics, m.turns)
  | .error _ _ => none

theorem eq_ok_of_finished? {r : EStateM.Result Stop Machine Outcome} {code : Int32}
    {diagnostics : List String} {turns : List Turn}
    (h : finished? r = some (code, diagnostics, turns)) :
    ∃ m', r = .ok ⟨code, diagnostics⟩ m' ∧ m'.turns = turns := by
  cases r with
  | error stop m' => cases h
  | ok o m' =>
    obtain ⟨rfl, hrest⟩ := Prod.mk.inj (Option.some.inj h)
    obtain ⟨rfl, rfl⟩ := Prod.mk.inj hrest
    exact ⟨m', rfl, rfl⟩

/-- A statement that calls a function with integers. -/
def callStmt (name : String) (args : List Int64) : Stmt :=
  .mk (.expr (.mk (.call (.mk (.ident name) none)
    (args.map fun n => .mk (.literal (.int n)) none) []) none)) none

/-- A statement that defers another. -/
def deferStmt (s : Stmt) : Stmt := .mk (.defer [s] false) none

/-- A script that defines a function without parameters and calls it. -/
def callingOnce (body : List Stmt) : Script :=
  { stmts := [.mk (.fnDef "f" [] body none) none, callStmt "f" []] }

/-- A deferred group of a call fails, and everything else goes well: the code is one. -/
theorem exit_code_sound_failed_group :
    ∃ m', (callingOnce [deferStmt (callStmt "g" [])]).run 9 {} = .ok ⟨1, []⟩ m' ∧
      m'.turns = [.groupFailed] ∧ ([] : List String).length ≤ 1 ∧ (1 : Int32) ≠ 0 := by
  have hrun : finished? ((callingOnce [deferStmt (callStmt "g" [])]).run 9 {}) =
      some (1, [], [.groupFailed]) := by decide +kernel
  obtain ⟨m', h, hturns⟩ := eq_ok_of_finished? hrun
  obtain ⟨hdiag, -, hgroup, -⟩ := exit_code_sound h
  exact ⟨m', h, hturns, hdiag, hgroup (by simp [hturns])⟩

/-- **An exit request is kept.** If a finished script asked for an exit with a code other than zero,
wherever it did, it has a code other than zero; unless, while it was still running, a frame that had
ended with exit code zero overruled deferred groups of its own that asked for another code. -/
theorem exit_request_kept {fuel : Nat} {s : Script} {o : Outcome} (h : s.run fuel m = .ok o m')
    {code : Int32} (hcode : code ≠ 0) (hasked : .exitAsked code ∈ m'.turns)
    (hkept : ¬ Overruled m'.turns) : o.exitCode ≠ 0 := by
  obtain ⟨e₁, e₂, begun, s₁, s₂, s₃, s₄, new₁, new₂, he₁, he₂, hfailed, hturns, hconcluded, h₁, hs₂,
    h₂, hfollows, -, hended, hexit⟩ := accounts_run h
  rw [hturns] at hasked hkept
  rw [hexit]
  have hs₄ : s₂.Follows s₄ := h₂.follows.trans hfollows
  obtain hmem | hmem := List.mem_append.1 hasked
  · obtain hshown | hshown | hshown := h₂.asked he₂ code hcode hmem
    · exact hended fun hdone => by rw [hdone] at hshown; cases hshown
    · exact hfollows.code_ne_zero hshown
    · exact absurd (hshown.mono (by simp)) hkept
  · refine hs₄.code_ne_zero ?_
    rw [hs₂]
    obtain hshown | hshown | hshown := h₁.asked he₁ code hcode hmem
    · have hbegun := hconcluded.code_ne_zero hshown
      rw [if_neg hbegun]
      exact hbegun
    · split
      · exact hshown
      · assumption
    · exact absurd (hshown.mono (by simp)) hkept

/-- A deferred group of a script that exits with code zero asks for code two, and gets it. -/
theorem exit_request_kept_escalated :
    ∃ m', ({ stmts := [deferStmt (callStmt "exit" [2]), callStmt "exit" [0]] } : Script).run 9 {} =
        .ok ⟨2, []⟩ m' ∧
      .exitAsked 2 ∈ m'.turns ∧ ¬ Overruled m'.turns ∧ (2 : Int32) ≠ 0 := by
  have hrun : finished? (({ stmts := [deferStmt (callStmt "exit" [2]), callStmt "exit" [0]] } :
      Script).run 9 {}) = some (2, [], [.exitAsked 2, .exitAsked 0]) := by decide +kernel
  obtain ⟨m', h, hturns⟩ := eq_ok_of_finished? hrun
  have hasked : .exitAsked 2 ∈ m'.turns := by simp [hturns]
  have hkept : ¬ Overruled m'.turns := by simp [Overruled, hturns]
  exact ⟨m', h, hasked, hkept, exit_request_kept h (by decide) hasked hkept⟩

/-- A function that exits with code zero overrules its deferred group, which asks for code three:
the script ends with code zero. -/
theorem exit_request_lost :
    finished? ((callingOnce [deferStmt (callStmt "exit" [3]), callStmt "exit" [0]]).run 9 {}) =
      some (0, [], [.exitOverruled 0 3, .exitAsked 3, .exitAsked 0]) := by
  decide +kernel

end Script
end TableScript
