import TableScript.Exit

/-!
# Runs of exit requests

An exit status is only ever asked to begin an exit or to escalate. Whatever is asked of a fresh
status, and in whichever order:

1. it is exiting from the first request to begin on (`isExiting_run`), and only this request is told
   that it is the first;
2. as long as it stays running, or stays exiting, its code is the first one other than zero of the
   one it had and those it is asked for (`code_run`);
3. the code an exit began with is settled by the request that began it and by what was escalated
   before (`begin_of_running`), and stays (`initialCode_run`).

`requests_settled` puts these together.
-/

namespace TableScript

/-- Something asked of an exit status. -/
inductive ExitRequest where
  | begin (code : Int32)
  | escalate (code : Int32)
  deriving DecidableEq, Repr

namespace ExitRequest

/-- The code a request names. -/
def code : ExitRequest → Int32
  | begin code | escalate code => code

/-- Whether a request is one to begin an exit. -/
def isBegin : ExitRequest → Bool
  | begin _ => true
  | escalate _ => false

end ExitRequest

/-- The first code other than zero; zero if there is none. -/
def firstNonzero (codes : List Int32) : Int32 := (codes.find? (· ≠ 0)).getD 0

theorem firstNonzero_cons (code : Int32) (codes : List Int32) :
    firstNonzero (code :: codes) = if code = 0 then firstNonzero codes else code := by
  unfold firstNonzero
  by_cases h : code = 0 <;> simp [h]

theorem firstNonzero_singleton (code : Int32) : firstNonzero [code] = code := by
  rw [firstNonzero_cons]
  split
  · next h => exact h.symm
  · rfl

theorem firstNonzero_pair (code code' : Int32) :
    firstNonzero [code, code'] = if code = 0 then code' else code := by
  rw [firstNonzero_cons, firstNonzero_singleton]

/-- Codes may be taken together from the front. -/
theorem firstNonzero_pair_cons (code code' : Int32) (codes : List Int32) :
    firstNonzero (firstNonzero [code, code'] :: codes) = firstNonzero (code :: code' :: codes) := by
  rw [firstNonzero_pair, firstNonzero_cons code]
  split
  · rfl
  · next h => rw [firstNonzero_cons, if_neg h]

namespace ExitStatus

/-- The status after a request. -/
def request (s : ExitStatus) : ExitRequest → ExitStatus
  | .begin code => (s.begin code).1
  | .escalate code => s.escalate code

/-- What a request is told: one to begin an exit, whether it is the first. -/
def answer? (s : ExitStatus) : ExitRequest → Option Bool
  | .begin code => some (s.begin code).2
  | .escalate _ => none

/-- The status after requests, one after the other. -/
def run (s : ExitStatus) (requests : List ExitRequest) : ExitStatus := requests.foldl request s

variable {s : ExitStatus} {requests : List ExitRequest}

/-! ## One request -/

/-- Escalating neither begins nor ends an exit, and leaves the code that one began with. -/
theorem escalate_keeps (s : ExitStatus) (code : Int32) :
    (s.escalate code).isExiting = s.isExiting ∧ (s.escalate code).initialCode = s.initialCode := by
  unfold escalate isExiting initialCode
  cases hphase : s.phase with
  | running =>
    dsimp only
    split <;> simp [hphase]
  | exiting current =>
    dsimp only
    split <;> simp [hphase]

theorem code_escalate (s : ExitStatus) (code : Int32) :
    (s.escalate code).code = firstNonzero [s.code, code] := by
  rw [firstNonzero_pair]
  unfold escalate ExitStatus.code
  cases hphase : s.phase with
  | running => by_cases hpending : s.pending = 0 <;> simp [hphase, hpending]
  | exiting current =>
    by_cases hcurrent : current = 0
    · by_cases hcode : code = 0 <;> simp [hphase, hcurrent, hcode]
    · simp [hphase, hcurrent]

/-- A request to begin while running begins an exit, with what is owed if it asks for zero. -/
theorem begin_of_running (hs : s.isExiting = false) (code : Int32) :
    (s.begin code).2 = true ∧ (s.begin code).1.isExiting = true ∧
      (s.begin code).1.initialCode = firstNonzero [code, s.code] ∧
      (s.begin code).1.code = (s.begin code).1.initialCode := by
  have hphase : s.phase = .running := by simpa [isExiting] using hs
  unfold begin
  simp [hphase, isExiting, initialCode, ExitStatus.code, firstNonzero_pair]

/-- A request to begin while exiting only escalates. -/
theorem begin_of_exiting (hs : s.isExiting = true) (code : Int32) :
    s.begin code = (s.escalate code, false) := by
  unfold begin
  cases hphase : s.phase with
  | running => simp [isExiting, hphase] at hs
  | exiting current => rfl

theorem isExiting_request (s : ExitStatus) (r : ExitRequest) :
    (s.request r).isExiting = (s.isExiting || r.isBegin) := by
  cases r with
  | escalate code =>
    show (s.escalate code).isExiting = (s.isExiting || false)
    rw [(s.escalate_keeps code).1, Bool.or_false]
  | begin code =>
    show (s.begin code).1.isExiting = (s.isExiting || true)
    rw [Bool.or_true]
    cases hs : s.isExiting with
    | false => exact (begin_of_running hs code).2.1
    | true =>
      rw [begin_of_exiting hs]
      exact (s.escalate_keeps code).1.trans hs

/-- A request that does not begin an exit escalates. -/
theorem request_eq_escalate {r : ExitRequest} (h : s.isExiting = true ∨ r.isBegin = false) :
    s.request r = s.escalate r.code := by
  cases r with
  | escalate code => rfl
  | begin code =>
    have hs : s.isExiting = true := h.resolve_right nofun
    show (s.begin code).1 = s.escalate code
    rw [begin_of_exiting hs]

/-! ## Many requests -/

theorem isExiting_run (s : ExitStatus) (requests : List ExitRequest) :
    (s.run requests).isExiting = (s.isExiting || requests.any (·.isBegin)) := by
  induction requests generalizing s with
  | nil => exact (Bool.or_false _).symm
  | cons r requests ih =>
    show ((s.request r).run requests).isExiting = _
    rw [ih, isExiting_request, List.any_cons, Bool.or_assoc]

/-- **Without the beginning of an exit on the way**, the first code other than zero is kept. -/
theorem code_run (h : s.isExiting = true ∨ ∀ r ∈ requests, r.isBegin = false) :
    (s.run requests).code = firstNonzero (s.code :: requests.map (·.code)) := by
  induction requests generalizing s with
  | nil => exact (firstNonzero_singleton _).symm
  | cons r requests ih =>
    have hr : s.request r = s.escalate r.code :=
      request_eq_escalate (h.imp id fun h => h r List.mem_cons_self)
    have hrest : (s.escalate r.code).isExiting = true ∨ ∀ r ∈ requests, r.isBegin = false :=
      h.imp (s.escalate_keeps r.code).1.trans fun h r hr => h r (List.mem_cons_of_mem _ hr)
    show ((s.request r).run requests).code = _
    rw [hr, ih hrest, code_escalate, firstNonzero_pair_cons, List.map_cons]

/-- The code an exit began with stays. -/
theorem initialCode_run (hs : s.isExiting = true) (requests : List ExitRequest) :
    (s.run requests).initialCode = s.initialCode := by
  induction requests generalizing s with
  | nil => rfl
  | cons r requests ih =>
    obtain ⟨hexiting, hinitial⟩ := s.escalate_keeps r.code
    show ((s.request r).run requests).initialCode = _
    rw [request_eq_escalate (.inl hs), ih (hexiting.trans hs), hinitial]

theorem run_append (s : ExitStatus) (past future : List ExitRequest) :
    s.run (past ++ future) = (s.run past).run future :=
  List.foldl_append

theorem answer?_eq (s : ExitStatus) (r : ExitRequest) :
    s.answer? r = if r.isBegin then some (!s.isExiting) else none := by
  cases r with
  | escalate code => rfl
  | begin code =>
    show some (s.begin code).2 = some (!s.isExiting)
    cases hs : s.isExiting with
    | false => rw [(begin_of_running hs code).1, Bool.not_false]
    | true => rw [begin_of_exiting hs, Bool.not_true]

/-- **Exit requests are settled by the first of them.** Of all that is asked of a fresh status, a
request to begin an exit is told that it is the first exactly when none came before it. A status
that is exiting stays so. From the first request to begin on, the code the exit began with is the
one asked for if that is not zero, else the first one other than zero escalated before, else zero;
and the code of the run is this one if it is not zero, else the first one other than zero asked for
since, else zero. -/
theorem requests_settled (past : List ExitRequest) :
    (∀ r, (run {} past).answer? r =
      if r.isBegin then some (past.all fun p => !p.isBegin) else none) ∧
    (∀ future, (run {} past).isExiting = true → (run {} (past ++ future)).isExiting = true) ∧
    ((∀ p ∈ past, p.isBegin = false) → ∀ code future,
      (run {} (past ++ .begin code :: future)).initialCode =
        firstNonzero (code :: past.map (·.code)) ∧
      (run {} (past ++ .begin code :: future)).code =
        firstNonzero ((run {} (past ++ .begin code :: future)).initialCode ::
          future.map (·.code))) := by
  have hexiting : (run {} past).isExiting = past.any (·.isBegin) := isExiting_run {} past
  refine ⟨fun r => ?_, fun future h => ?_, fun hpast code future => ?_⟩
  · rw [answer?_eq, hexiting, List.not_any_eq_all_not]
  · rw [run_append, isExiting_run, h, Bool.true_or]
  · have hrunning : (run {} past).isExiting = false := by
      rw [hexiting, List.any_eq_false]
      exact fun p hp => by rw [hpast p hp]; exact Bool.false_ne_true
    -- a fresh status owes nothing, so what is owed are the codes escalated so far
    have howed : (run {} past).code = firstNonzero (past.map (·.code)) := by
      rw [code_run (.inr hpast), firstNonzero_cons]
      rfl
    obtain ⟨-, hbegun, hinitial, hcode⟩ := begin_of_running hrunning code
    have hrun : run {} (past ++ .begin code :: future) = run ((run {} past).begin code).1 future :=
      run_append {} past _
    rw [hrun, initialCode_run hbegun, code_run (.inl hbegun), hcode, hinitial, howed]
    exact ⟨by rw [firstNonzero_pair, firstNonzero_cons], rfl⟩

/-- A failure is survived, then zero is asked for, and then another code. -/
theorem requests_settled_owed :
    (run {} [.escalate 0, .escalate 4, .escalate 5, .begin 0, .begin 7]).initialCode = 4 ∧
    (run {} [.begin 0, .escalate 0, .begin 7, .escalate 9]).code = 7 := by
  obtain ⟨howed, -⟩ := (requests_settled [.escalate 0, .escalate 4, .escalate 5]).2.2
    (by decide) 0 [.begin 7]
  obtain ⟨hinitial, hcode⟩ := (requests_settled []).2.2 nofun 0
    [.escalate 0, .begin 7, .escalate 9]
  refine ⟨howed.trans (by decide), hcode.trans ?_⟩
  rw [hinitial]
  decide

end ExitStatus
end TableScript
