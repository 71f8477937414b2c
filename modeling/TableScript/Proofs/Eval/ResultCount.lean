import TableScript.Proofs.Eval.Quiet

/-!
# How many results a call gives

A caller that expects a number of results gets exactly so many or none at all. Three mechanisms see
to it, and they agree:

1. the contract of a built-in function is checked before it runs, and the number of results it then
   gives is one that the contract allows;
2. a function that can fail gives a pair to who expects two results;
3. the results of a script's function are counted after its body (`Callable.length_checkReturns`).

`result_count_kept` says so for every function, and that an expression, which expects one result of
a call, always gets one.
-/

namespace TableScript

open Run

variable {α : Type} {m m' : Machine}

theorem Run.eq_ok_of_atSpan {x : Run α} {span : Option Span} {a : α}
    (h : atSpan span x m = .ok a m') : x m = .ok a m' := by
  unfold atSpan at h
  cases hx : x m with
  | ok b m₁ =>
    rw [hx] at h
    exact h
  | error s m₁ =>
    rw [hx] at h
    cases s <;> cases h

namespace Builtin

/-- A built-in function gives as many results as are expected. -/
theorem length_call {b : Builtin} {c : CallArgs} {values : List Value} {n : Nat}
    (hn : c.expected = some n) (h : b.call c m = .ok values m') : values.length = n := by
  obtain ⟨_, m₁, hcheck, hrun⟩ := eq_ok_of_bind (eq_ok_of_atSpan h)
  have hadmits := Contract.admits_of_check
    ((Yields.ensure (b.contract.noBug_check b.name c)).of_ok hcheck).2
  by_cases hb : b = .exit
  · subst hb
    change runExit c m₁ = _ at hrun
    obtain ⟨code, hexit⟩ | ⟨f, m₂, hfail, -⟩ := runExit_cases c m₁
    · rw [hexit] at hrun
      cases hrun
    · rw [hfail] at hrun
      cases hrun
  · exact ((yields_run hb hadmits).of_ok hrun).2 n hn

end Builtin

namespace Callable

/-- Results that pass the count are as many as are expected. -/
theorem length_checkReturns {name : String} {returned : Option (List Value)} {args : CallArgs}
    {values : List Value} {n : Nat} (hn : args.expected = some n)
    (h : checkReturns name returned args m = .ok values m') : values.length = n := by
  unfold checkReturns at h
  rw [hn] at h
  cases returned with
  | none =>
    dsimp only at h
    split at h
    · cases h
    · obtain ⟨rfl, -⟩ := EStateM.Result.ok.inj h
      rw [List.length_nil]
      omega
  | some values' =>
    dsimp only at h
    split at h
    · cases h
    · rename_i hlength
      obtain ⟨rfl, -⟩ := EStateM.Result.ok.inj h
      exact Decidable.not_not.1 hlength

/-- A call gives as many results as are expected, whatever the parts are evaluated with. -/
theorem length_call {ev : Evaluator} {f : Callable} {args : CallArgs} {values : List Value}
    {n : Nat} (hn : args.expected = some n) (h : f.call ev args m = .ok values m') :
    values.length = n := by
  unfold call at h
  cases f with
  | builtin b => exact Builtin.length_call hn h
  | closure a =>
    obtain ⟨_, m₁, hget, h⟩ := eq_ok_of_bind h
    obtain ⟨rfl, rfl⟩ := EStateM.Result.ok.inj hget
    cases hc : m.store.closures[a]? with
    | none =>
      rw [hc] at h
      cases h
    | some c =>
      rw [hc] at h
      obtain ⟨scope, m₁, -, h⟩ := eq_ok_of_bind h
      obtain ⟨returned, m₂, -, h⟩ := eq_ok_of_bind h
      exact length_checkReturns hn h

end Callable

/-- Where one result is expected, there is one. -/
theorem Expr.length_evalMulti {fuel : Nat} {e : Expr} {values : List Value}
    (h : e.evalMulti (.ofFuel fuel) (some 1) m = .ok values m') : values.length = 1 := by
  unfold evalMulti at h
  cases hkind : e.kind with
  | call callee args named =>
    rw [hkind] at h
    obtain ⟨f, m₁, -, h⟩ := eq_ok_of_bind h
    obtain ⟨args, m₂, -, h⟩ := eq_ok_of_bind h
    obtain ⟨named, m₃, -, h⟩ := eq_ok_of_bind h
    have hcall := eq_ok_of_atSpan h
    -- an evaluator without fuel gives no result at all
    cases fuel with
    | zero => cases hcall
    | succ fuel => exact Callable.length_call rfl hcall
  | _ =>
    rw [hkind] at h
    obtain ⟨v, m₁, -, h⟩ := eq_ok_of_bind h
    obtain ⟨rfl, -⟩ := EStateM.Result.ok.inj h
    rfl

/-- **The number of results is kept.** A call of any function, with any arguments on any machine,
that expects a number of results and gives results, gives so many. So what an expression takes from
a call is always one value, and the failure that it was another number is never met. -/
theorem result_count_kept :
    (∀ (ev : Evaluator) (f : Callable) (args : CallArgs) (n : Nat) (m m' : Machine)
      (values : List Value), args.expected = some n → f.call ev args m = .ok values m' →
      values.length = n) ∧
    ∀ (fuel : Nat) (e : Expr) (m m' : Machine) (values : List Value),
      e.evalMulti (.ofFuel fuel) (some 1) m = .ok values m' → ∃ v, values = [v] := by
  refine ⟨fun ev f args n m m' values hn h => Callable.length_call hn h, ?_⟩
  intro fuel e m m' values h
  exact List.length_eq_one_iff.1 (Expr.length_evalMulti h)

theorem Run.eq_ok_of_done {r : EStateM.Result Stop Machine α}
    (h : (ended? r).map Prod.fst = some .done) : ∃ a m', r = .ok a m' := by
  cases r with
  | ok a m' => exact ⟨a, m', rfl⟩
  | error s m' =>
    cases s with
    | unwind u => exact absurd (Option.some.inj h) u.ending_ne_done
    | crash message => cases h
    | outOfFuel => cases h

/-- The call of a function with a text. -/
def callText (name text : String) : Expr :=
  .mk (.call (.mk (.ident name) none) [.mk (.literal (.str text)) none] []) none

/-- A function that can fail gives a pair to who expects two results, and one value to an
expression. -/
theorem result_count_kept_parseInt :
    (∃ values m', (Callable.builtin .parseInt).call .exhausted
        { args := [.ofString "12"], expected := some 2 } {} = .ok values m' ∧
      values.length = 2) ∧
    ∃ v m', (callText "parse_int" "12").evalMulti (.ofFuel 2) (some 1) {} = .ok [v] m' := by
  obtain ⟨values, m', h⟩ : ∃ values m', (Callable.builtin .parseInt).call .exhausted
      { args := [.ofString "12"], expected := some 2 } {} = .ok values m' :=
    eq_ok_of_done (by decide +kernel)
  obtain ⟨values', m'', h'⟩ : ∃ values m', (callText "parse_int" "12").evalMulti (.ofFuel 2)
      (some 1) {} = .ok values m' := eq_ok_of_done (by decide +kernel)
  obtain ⟨v, rfl⟩ := result_count_kept.2 _ _ _ _ _ h'
  exact ⟨⟨values, m', h, result_count_kept.1 _ _ _ 2 _ _ _ rfl h⟩, v, m'', h'⟩

end TableScript
