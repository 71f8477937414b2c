import TableScript.Proofs.Eval.Chronicle

/-!
# Scope hygiene

Statements bind names in the scope they run in, and in no other scope that there was before: a write
to a name that is bound further out changes a value there, but adds no name. Whatever runs in a
scope of its own therefore leaves no name behind.

1. `NamesKept`: no scope outside a set has gained a name;
2. `hygienic`: expressions and calls keep the names of all scopes, statements those of all scopes
   but the current one, and deferred groups those of all scopes but the ones they were registered
   in. A group is registered in the current scope or in one that was made meanwhile, so the groups
   of a call write to scopes of the call only;
3. `scope_hygiene`: expressions, calls and loops give no new name to any scope there was before.
-/

namespace TableScript

open Run

/-! ## Names that are kept -/

/-- There are no fewer scopes than before, and those that were there before bind no new name, unless
they are among the ones written to. -/
structure NamesKept (written : Nat → Prop) (m m' : Machine) : Prop where
  size : m.store.scopes.size ≤ m'.store.scopes.size
  names {s : Nat} {name : String} : s < m.store.scopes.size → ¬ written s →
    m'.store.binds s name → m.store.binds s name

variable {α : Type} {ev : Evaluator} {m m' m₁ m₂ m₃ : Machine} {e : Ending}

namespace NamesKept

variable {written written₁ written₂ : Nat → Prop}

theorem of_scopes_eq (h : m'.store.scopes = m.store.scopes) : NamesKept written m m' where
  size := Nat.le_of_eq (congrArg Array.size h).symm
  names _ _ hbinds := Store.binds_eq_of_scopes_eq h _ _ ▸ hbinds

/-- One change after the other: what is written to later was there to be written to before, or is
new. -/
theorem trans (h₁ : NamesKept written₁ m₁ m₂) (h₂ : NamesKept written₂ m₂ m₃)
    (hsub : ∀ s < m₁.store.scopes.size, written₂ s → written₁ s) : NamesKept written₁ m₁ m₃ where
  size := Nat.le_trans h₁.size h₂.size
  names hs hnot hbinds := by
    have hbefore := h₂.names (Nat.lt_of_lt_of_le hs h₁.size) (fun hw => hnot (hsub _ hs hw)) hbinds
    exact h₁.names hs hnot hbefore

theorem mono (h : NamesKept written₁ m m') (hsub : ∀ s, written₁ s → written₂ s) :
    NamesKept written₂ m m' where
  size := h.size
  names hs hnot := h.names hs fun hw => hnot (hsub _ hw)

/-- What is written to a new scope is written to no scope there was before. -/
theorem of_inNewScope {parent : Nat} {vars : List (String × Value)}
    (h : NamesKept (· = m.store.scopes.size) (m.inNewScope parent vars) m') :
    NamesKept written m m' := by
  have hsize : (m.inNewScope parent vars).store.scopes.size = m.store.scopes.size + 1 :=
    m.store.size_scopes_grown parent vars
  refine ⟨?_, fun {s name} hs _ hbinds => ?_⟩
  · have hkept := h.size
    omega
  · exact Store.binds_of_binds_grown hs (h.names (by omega) (Nat.ne_of_lt hs) hbinds)

end NamesKept

/-! ## What is guaranteed -/

/-- The innermost frame has only got groups of the current scope and of new scopes. -/
def GroupsLocal (m m' : Machine) : Prop :=
  ∀ g ∈ m'.frames.headD [], g ∈ m.frames.headD [] ∨ g.scope = m.scope ∨
    m.store.scopes.size ≤ g.scope

/-- No scope gains a name but the one that statements run in, or that groups were registered in. -/
def hygienic : Guarantees where
  expr := fun e m m' => chronicling.expr e m m' ∧ NamesKept (fun _ => False) m m'
  stmt := fun e m m' => chronicling.stmt e m m' ∧ NamesKept (· = m.scope) m m' ∧
    (e ≠ .crashed → GroupsLocal m m')
  deferred groups frame := fun e m m' => chronicling.deferred groups frame e m m' ∧
    NamesKept (fun s => ∃ g ∈ groups, g.scope = s) m m'

theorem GroupsLocal.of_head_eq (h : m'.frames = m.frames) : GroupsLocal m m' := by
  intro g hg
  rw [h] at hg
  exact .inl hg

theorem GroupsLocal.trans (h₁ : GroupsLocal m₁ m₂) (hscope : m₂.scope = m₁.scope)
    (hsize : m₁.store.scopes.size ≤ m₂.store.scopes.size) (h₂ : GroupsLocal m₂ m₃) :
    GroupsLocal m₁ m₃ := by
  intro g hg
  obtain hold | hown | hnew := h₂ g hg
  · exact h₁ g hold
  · exact .inr (.inl (hown.trans hscope))
  · exact .inr (.inr (Nat.le_trans hsize hnew))

instance : Guarantee.Lawful hygienic.expr where
  quiet h := ⟨Guarantee.Lawful.quiet h, .of_scopes_eq h.2.scopes⟩
  trans h₁ h₂ := ⟨Guarantee.Lawful.trans h₁.1 h₂.1, h₁.2.trans h₂.2 fun _ _ hw => hw⟩

instance : Guarantee.Lawful hygienic.stmt where
  quiet h := ⟨Guarantee.Lawful.quiet h, .of_scopes_eq h.2.scopes,
    fun _ => .of_head_eq h.2.frames⟩
  trans := by
    rintro e m₁ m₂ m₃ ⟨hacts₁, hnames₁, hgroups₁⟩ ⟨hacts₂, hnames₂, hgroups₂⟩
    have hscope := (extendedState_of_chronicling hacts₁ nofun).1
    refine ⟨Guarantee.Lawful.trans hacts₁ hacts₂, hnames₁.trans hnames₂ fun s _ hw => ?_,
      fun he => ?_⟩
    · exact hw.trans hscope
    · exact (hgroups₁ nofun).trans hscope hnames₁.size (hgroups₂ he)

theorem Evaluator.Keeps.chronicling (hev : ev.Keeps hygienic) : ev.Keeps chronicling where
  expr e := ⟨(hev.expr e).toKeeps.mono And.left, fun _ => trivial⟩
  block body := ⟨(hev.block body).toKeeps.mono And.left, fun _ => trivial⟩
  call f args := ⟨(hev.call f args).toKeeps.mono And.left, fun _ => trivial⟩
  deferred groups frame := ⟨(hev.deferred groups frame).toKeeps.mono And.left, fun _ => trivial⟩

/-! ## Frames -/

/-- The body of a frame and then its groups: the groups are of the body's scope or of new ones. -/
theorem NamesKept.groups {kind : FrameKind} {how : Except Unwind Unit}
    (hbody : hygienic.stmt (.ofResult how) (m.inside kind) m₁)
    (hgroups : NamesKept (fun s => ∃ g ∈ m₁.frames.headD [], g.scope = s) (m₁.leftBy how) m₂) :
    NamesKept (· = m.scope) m m₂ := by
  obtain ⟨-, hnames, hlocal⟩ := hbody
  have hbefore : NamesKept (· = m.scope) m (m₁.leftBy how) := ⟨hnames.size, hnames.names⟩
  refine hbefore.trans hgroups fun s hs hw => ?_
  obtain ⟨g, hg, rfl⟩ := hw
  obtain hold | hown | hnew := hlocal (Ending.ofResult_ne_crashed how) g hg
  · cases hold
  · exact hown
  · exact absurd hs (Nat.not_lt_of_le hnew)

/-- A frame writes to the scope that it was opened in. -/
theorem namesKept_frameEnds (hev : ev.Keeps hygienic) {kind : FrameKind} {body : Run α}
    (hbody : Keeps hygienic.stmt body) (h : FrameEnds ev kind body m e m') :
    NamesKept (· = m.scope) m m' := by
  cases h with
  | bodyCrashed hcrash =>
    obtain ⟨-, hnames, -⟩ := hbody.of_ended hcrash
    exact ⟨hnames.size, hnames.names⟩
  | groupsCrashed hended hcrash =>
    exact .groups (hbody.of_ended hended) ((hev.deferred _ _).of_ended hcrash).2
  | ended _ hended hgroups =>
    have hnames := NamesKept.groups (hbody.of_ended hended) ((hev.deferred _ _).of_ended hgroups).2
    exact ⟨hnames.size, hnames.names⟩

namespace Deferred

theorem Settled.scopes_eq {requested requested' : Option Int32}
    (h : Settled requested m e requested' m') : m'.store.scopes = m.store.scopes := by
  cases h with
  | done => rfl
  | asked _ => rfl
  | escalated _ hstill => exact hstill.scopes
  | failed _ hstill => exact hstill.scopes

/-- A group writes to the scope that it was registered in. -/
theorem namesKept_isolated (hev : ev.Keeps hygienic) {g : Deferred}
    {outcome : Except String (Except Unwind Unit)} (h : isolated ev g m = .ok outcome m') :
    NamesKept (· = g.scope) m m' := by
  obtain ⟨m₁, hframe, rfl⟩ := isolated_eq_ok h
  have hnames := namesKept_frameEnds hev (hev.block g.body).toKeeps hframe
  exact ⟨hnames.size, hnames.names⟩

theorem namesKept_runAll (hev : ev.Keeps hygienic) (frame : Frame) (groups : List Deferred)
    {requested : Option Int32} (h : ended? (runAll ev frame requested groups m) = some (e, m')) :
    NamesKept (fun s => ∃ g ∈ groups, g.scope = s) m m' := by
  induction groups generalizing m requested with
  | nil =>
    obtain ⟨-, rfl⟩ := ended?_runAll_nil h
    exact .of_scopes_eq rfl
  | cons g rest ih =>
    have hrest : ∀ s, (∃ g' ∈ rest, g'.scope = s) → ∃ g' ∈ g :: rest, g'.scope = s := by
      rintro s ⟨g', hmem, hs⟩
      exact ⟨g', List.mem_cons_of_mem g hmem, hs⟩
    obtain ⟨-, -, m₁, hstill, h⟩ | ⟨-, outcome, m₁, hok, h⟩ := ended?_runAll_cons h
    · have hskipped : NamesKept (fun s => ∃ g' ∈ g :: rest, g'.scope = s) m m₁ :=
        .of_scopes_eq hstill.scopes
      exact hskipped.trans (ih h) fun s _ => hrest s
    · have hran : NamesKept (fun s => ∃ g' ∈ g :: rest, g'.scope = s) m m₁ :=
        (namesKept_isolated hev hok).mono fun s hs => ⟨g, List.mem_cons_self, hs.symm⟩
      obtain ⟨rfl, -, hstill⟩ | ⟨requested', m₂, hsettled, h⟩ := h
      · exact hran.trans (.of_scopes_eq hstill.scopes) fun _ _ hw => hw
      · have hsettled' : NamesKept (fun s => ∃ g' ∈ g :: rest, g'.scope = s) m m₂ :=
          hran.trans (.of_scopes_eq hsettled.scopes_eq) fun _ _ hw => hw
        exact hsettled'.trans (ih h) fun s _ => hrest s

end Deferred

instance : hygienic.Lawful where
  expr := inferInstance
  stmt := inferInstance
  cuts := ⟨fun _ => trivial, fun _ _ => trivial⟩
  deferredCut_refl _ := trivial
  stmt_of_expr h := ⟨Guarantees.Lawful.stmt_of_expr h.1, h.2.mono nofun,
    fun he => .of_head_eq (sameState_of_chronicling h.1 he).2⟩
  write h := ⟨Guarantees.Lawful.write h, ⟨Nat.le_of_eq h.size.symm, fun _ => h.names⟩,
    fun _ => .of_head_eq rfl⟩
  inScope {e m m' vars} he h := by
    refine ⟨Guarantees.Lawful.inScope he h.1, ?_, fun _ g hg => ?_⟩
    · have hnames : NamesKept (· = m.scope) m m' := h.2.1.of_inNewScope
      exact ⟨hnames.size, hnames.names⟩
    · have hsize : (m.inNewScope m.scope vars).store.scopes.size = m.store.scopes.size + 1 :=
        m.store.size_scopes_grown m.scope vars
      obtain hold | hown | hnew := h.2.2 he g hg
      · exact .inl hold
      · exact .inr (.inr (Nat.le_of_eq hown.symm))
      · exact .inr (.inr (by omega))
  inScope_crashed h := ⟨Guarantees.Lawful.inScope_crashed h.1, h.2.1.of_inNewScope,
    fun he => absurd rfl he⟩
  inScope_cut _ := trivial
  register {m g groups outer} hframes hscope := by
    refine ⟨Guarantees.Lawful.register hframes hscope, .of_scopes_eq rfl, fun _ g' hg' => ?_⟩
    obtain rfl | hmem := List.mem_cons.1 hg'
    · exact .inr (.inl hscope)
    · left
      rw [hframes]
      exact hmem
  noFrame hframes := ⟨Guarantees.Lawful.noFrame hframes, .of_scopes_eq rfl,
    fun _ => .of_head_eq rfl⟩
  exit m code := ⟨Guarantees.Lawful.exit m code, .of_scopes_eq rfl⟩
  frame parent vars hev hbody := by
    have hbody' := hbody.toKeeps.mono And.left
    refine ⟨⟨fun {m e m'} h => ⟨?_, ?_⟩⟩, fun _ => trivial⟩
    · exact (Guarantees.Lawful.frame parent vars hev.chronicling
        ⟨hbody', fun _ => trivial⟩).of_ended h
    · obtain ⟨m₁, hframe, rfl⟩ := ended?_inNewFrame h
      have hnames : NamesKept (fun _ => False) m m₁ :=
        (namesKept_frameEnds hev hbody.toKeeps hframe).of_inNewScope
      split
      · exact hnames
      · exact ⟨hnames.size, hnames.names⟩
  groups groups frame hev := by
    refine ⟨⟨fun {m e m'} h => ⟨?_, Deferred.namesKept_runAll hev frame groups h⟩⟩,
      fun _ => trivial⟩
    exact (Guarantees.Lawful.groups groups frame hev.chronicling).of_ended h

/-! ## Loops -/

/-- No scope that there was before binds a name that it did not bind before. -/
def noNewNames : Guarantee := fun _ m m' =>
  ∀ s < m.store.scopes.size, ∀ name, m'.store.binds s name → m.store.binds s name

/-- No scope but new ones gains a name. -/
def tidy : Guarantee := fun _ m m' => NamesKept (fun _ => False) m m'

instance : tidy.Lawful where
  quiet h := .of_scopes_eq h.2.scopes
  trans h₁ h₂ := h₁.trans h₂ fun _ _ hw => hw

instance : tidy.Cuts fun _ _ => True := ⟨fun _ => trivial, fun _ _ => trivial⟩

theorem noNewNames_of_tidy (h : tidy e m m') : noNewNames e m m' :=
  fun _ hs _ => h.names hs nofun

theorem Run.Meets.tidy {x : Run α} (hx : Meets hygienic.expr hygienic.cut x) :
    Meets tidy (fun _ _ => True) x :=
  ⟨hx.toKeeps.mono And.right, fun _ => trivial⟩

namespace Stmt

/-- A round of a loop has a scope of its own. -/
theorem tidy_inScope (hev : ev.Keeps hygienic) (vars : List (String × Value)) (body : List Stmt) :
    Meets tidy (fun _ _ => True) (inScope ev vars body) := by
  refine ⟨⟨fun {m e m'} h => ?_⟩, fun _ => trivial⟩
  obtain ⟨m₁, hblock, rfl⟩ := ended?_inScope h
  have hnames : NamesKept (fun _ => False) m m₁ :=
    ((hev.block body).of_ended hblock).2.1.of_inNewScope
  split
  · exact hnames
  · exact ⟨hnames.size, hnames.names⟩

theorem tidy_runWhile (hev : ev.Keeps hygienic) (cond : Option Expr) (body : List Stmt)
    (rounds : Nat) : Meets tidy (fun _ _ => True) (runWhile ev cond body rounds) := by
  induction rounds with
  | zero => exact .outOfFuel fun _ => trivial
  | succ rounds ih =>
    refine .bind (keeps_continues hev cond).tidy fun again => .ite ?_ (.of_pure _)
    refine .bind (tidy_inScope hev [] body) fun signal => ?_
    split
    · exact .of_pure _
    · exact .of_pure _
    · exact ih

theorem tidy_runRows (hev : ev.Keeps hygienic) (vars : List String) (body : List Stmt)
    (rows : List (List Value)) : Meets tidy (fun _ _ => True) (runRows ev vars body rows) := by
  induction rows with
  | nil => exact .of_pure _
  | cons row rest ih =>
    refine .bind (tidy_inScope hev _ body) fun signal => ?_
    split
    · exact .of_pure _
    · exact .of_pure _
    · exact ih

theorem tidy_forLoop (hev : ev.Keeps hygienic) (rounds : Nat) (vars : List String) (iter : Expr)
    (body : List Stmt) :
    Meets tidy (fun _ _ => True) (runKind ev rounds (.forLoop vars iter body)) := by
  refine .bind (hev.expr iter).tidy fun iterable => .bind .of_get fun m => ?_
  exact .bind (.ensure (noBug_loopRows m.store _ iterable)) fun rows =>
    tidy_runRows hev vars body rows

end Stmt

/-- **Scopes are kept clean.** On every machine and however they end, expressions, calls and loops
give no new name to any scope that there was before. -/
theorem scope_hygiene (fuel rounds : Nat) :
    (∀ e : Expr, Keeps noNewNames (e.eval (.ofFuel fuel))) ∧
      (∀ (e : Expr) (expected : Option Nat),
        Keeps noNewNames (e.evalMulti (.ofFuel fuel) expected)) ∧
      (∀ (f : Callable) (args : CallArgs), Keeps noNewNames (f.call (.ofFuel fuel) args)) ∧
      (∀ (cond : Option Expr) (body : List Stmt) (span : Option Span),
        Keeps noNewNames ((Stmt.mk (.whileLoop cond body) span).run (.ofFuel fuel) rounds)) ∧
      ∀ (vars : List String) (iter : Expr) (body : List Stmt) (span : Option Span),
        Keeps noNewNames ((Stmt.mk (.forLoop vars iter body) span).run (.ofFuel fuel) rounds) := by
  have hev : (Evaluator.ofFuel fuel).Keeps hygienic := keeps_ofFuel fuel
  refine ⟨fun e => ?_, fun e expected => ?_, fun f args => ?_, fun cond body span => ?_,
    fun vars iter body span => ?_⟩
  · exact (Expr.keeps_eval hev e).tidy.toKeeps.mono noNewNames_of_tidy
  · exact (Expr.keeps_evalMulti hev e expected).tidy.toKeeps.mono noNewNames_of_tidy
  · exact (Callable.keeps_call hev f args).tidy.toKeeps.mono noNewNames_of_tidy
  · have hloop := Meets.atSpan span (Stmt.tidy_runWhile hev cond body rounds)
    exact hloop.toKeeps.mono noNewNames_of_tidy
  · have hloop := Meets.atSpan span (Stmt.tidy_forLoop hev rounds vars iter body)
    exact hloop.toKeeps.mono noNewNames_of_tidy

end TableScript
