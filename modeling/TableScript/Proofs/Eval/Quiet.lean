import TableScript.Proofs.Capture.Trace
import TableScript.Proofs.Eval.Guarantee

/-!
# Quiet operations

Running a command, fetching a document and calling a built-in function are still, whatever the
outside world answers. The one exception is the function that asks for an exit.

1. `Contract.Admits`: what the check of a call ensures about the number of arguments and results;
2. `Builtin.yields_run`: a function whose check has passed reads no argument that is not there,
   meets no bug, and gives as many results as its contract says (`Builtin.resultCount`).
-/

namespace TableScript

open Run

variable {α : Type}

/-! ## The outside world -/

theorem yields_programReply (host : Shell.Host) (program text : String)
    (captureOut captureErr quiet : Bool) :
    Yields (fun _ => True) (programReply host program text captureOut captureErr quiet) := by
  unfold programReply
  refine .when (.log _ _ _) fun _ => .ite (.of_pure trivial) ?_
  refine .bind (.of_modify fun _ => ?_) fun _ _ => ?_
  · exact ⟨⟨rfl, rfl, rfl, rfl, rfl⟩, rfl, .of_eq rfl rfl⟩
  refine .when (.emit _) fun _ => .when (.emit _) fun _ => ?_
  exact .bind (.log _ _ _) fun _ _ => .of_pure trivial

theorem yields_execute (text : String) (captureOut captureErr quiet : Bool) :
    Yields (fun _ => True) (execute text captureOut captureErr quiet) := by
  unfold execute
  refine .bind (.emit _) fun _ _ => .bind .of_get fun m _ => ?_
  split
  · refine .bind (.of_modify fun _ => ?_) fun _ _ => .of_pure trivial
    exact ⟨⟨rfl, rfl, rfl, rfl, rfl⟩, rfl, .of_eq rfl rfl⟩
  · exact yields_programReply _ _ _ _ _ _

/-- What a transport answers is taken off its answers; a failure among them may be any. -/
theorem stillResult_answer {m : Machine} {answer : Except Fault Json}
    {rest : List (Except Fault Json)} (h : m.transport = .scripted (answer :: rest)) :
    StillResult (fun _ => True) m (ensure answer { m with transport := .scripted rest }) := by
  have hstill : Still m { m with transport := .scripted rest } := by
    refine ⟨⟨rfl, rfl, rfl, rfl, rfl⟩, rfl, .inl, fun f hf => ?_⟩
    rw [h]
    exact (List.sublist_cons_self answer rest).filterMap _ |>.subset hf
  cases answer with
  | ok j => exact .value hstill trivial
  | error f =>
    have hf : f ∈ m.transport.failures := by simp [h, Transport.failures]
    exact .failure (hstill.arise (.inr hf)) (.inr hf)

theorem yields_fetch (url : String) : Yields (fun _ => True) (fetch url) := by
  refine .get_bind fun m => ?_
  have hasked : Still m { m with events := m.events.push (.request url) } :=
    ⟨⟨rfl, rfl, rfl, rfl, rfl⟩, rfl, .of_eq rfl rfl⟩
  cases htransport : m.transport with
  | none => exact Yields.fail (f := .fetch url _) trivial m
  | mock rules =>
    refine Yields.bind (.emit _) (fun _ _ => ?_) m
    split
    · exact .bind (.log _ _ _) fun _ _ => .of_pure trivial
    · exact .fail trivial
  | scripted answers =>
    cases answers with
    | nil => exact (Yields.fail (f := .fetch url _) trivial _).after hasked
    | cons answer rest =>
      have hanswer := stillResult_answer
        (m := { m with events := m.events.push (.request url) }) htransport
      exact hanswer.after hasked

/-! ## Arguments and results of built-in functions -/

theorem yields_colour : Yields (fun _ => True) colour := .bind .of_get fun _ _ => .of_pure trivial

/-- An argument that is there can be read. -/
theorem yields_arg {c : CallArgs} {i : Nat} (h : i < c.args.length) :
    Yields (fun _ => True) (c.arg i) := by
  unfold CallArgs.arg
  rw [List.getElem?_eq_getElem h]
  exact .of_pure trivial

namespace Builtin

variable {c : CallArgs}

theorem yields_richText (v : Value) : Yields (fun _ => True) (richText v) := by
  unfold richText
  split
  · exact .of_pure trivial
  · exact .bind .of_get fun _ _ => .of_pure trivial

theorem yields_joined (c : CallArgs) : Yields (fun _ => True) (joined c) :=
  .bind .of_get fun _ _ => .bind yields_colour fun _ _ => .of_pure trivial

theorem yields_plainArg {i : Nat} (h : i < c.args.length) :
    Yields (fun _ => True) (plainArg c i) :=
  .bind (yields_arg h) fun v _ => .bind (.ensure v.noBug_requireStr) fun _ _ => .of_pure trivial

theorem yields_listArg {i : Nat} (h : i < c.args.length) : Yields (fun _ => True) (listArg c i) :=
  .bind (yields_arg h) fun v _ => .bind (.ensure v.noBug_requireList) fun _ _ =>
    .bind .of_get fun _ _ => .of_pure trivial

theorem yields_mapArg {i : Nat} (h : i < c.args.length) : Yields (fun _ => True) (mapArg c i) :=
  .bind (yields_arg h) fun v _ => .bind (.ensure v.noBug_requireMap) fun _ _ =>
    .bind .of_get fun _ _ => .of_pure trivial

theorem yields_returnList (items : List Value) : Yields (·.length = 1) (returnList items) :=
  .bind (.ofStore (Store.steady_allocList items)) fun _ _ => .of_pure rfl

theorem yields_compile (pattern : String) : Yields (fun _ => True) (compile pattern) := by
  unfold compile
  split
  · exact .of_pure trivial
  · exact .fail trivial

theorem yields_channel (v : Value) : Yields (fun _ => True) (channel v) :=
  .bind (.ensure v.noBug_requireInt) fun _ _ => .ite (.of_pure trivial) (.fail trivial)

/-- Two results are given to who expects two, else one. -/
def fallibleCount (c : CallArgs) : Nat := if c.expected = some 2 then 2 else 1

/-- What is made of a still computation is a pair or one value, or its failure once more. -/
theorem yields_fallible (c : CallArgs) {x : Run Value} (hx : Yields (fun _ => True) x) :
    Yields (·.length = fallibleCount c) (attempt x >>= fallible c) := by
  intro m
  change StillResult _ m (EStateM.bind (attempt x) (fallible c) m)
  unfold EStateM.bind attempt
  have hresult := hx m
  generalize x m = r at hresult ⊢
  by_cases htwo : c.expected = some 2
  · cases hresult with
    | value hstill _ | failure hstill _ =>
      simp only [fallible, htwo]
      exact .value hstill (by simp [fallibleCount, htwo])
    | crash hstill hne => exact .crash hstill hne
  · cases hresult with
    | value hstill _ =>
      simp only [fallible]
      exact .value hstill (by simp [fallibleCount, htwo])
    | failure hstill hf =>
      simp only [fallible]
      exact .failure hstill hf
    | crash hstill hne => exact .crash hstill hne

/-! ## Built-in functions -/

theorem yields_runLen (h : 1 ≤ c.args.length) : Yields (·.length = 1) (runLen c) := by
  refine .bind .of_get fun _ _ => .bind (yields_arg h) fun v _ => ?_
  split
  · exact .of_pure rfl
  · exact .of_pure rfl
  · exact .of_pure rfl
  · exact .fail trivial

theorem yields_runInt (h : 1 ≤ c.args.length) : Yields (·.length = 1) (runInt c) := by
  refine .bind (yields_arg h) fun v _ => ?_
  split
  · exact .ite (.of_pure rfl) (.fail trivial)
  · exact .bind (.ensure (Value.noBug_requireIntOrBool _)) fun _ _ => .of_pure rfl

theorem yields_runFloat (h : 1 ≤ c.args.length) : Yields (·.length = 1) (runFloat c) := by
  refine .bind (yields_arg h) fun v _ => ?_
  split
  · exact .of_pure rfl
  · exact .bind (.ensure (Value.noBug_requireNumber _)) fun _ _ => .of_pure rfl

theorem yields_runJoin (h : 2 ≤ c.args.length) : Yields (·.length = 1) (runJoin c) :=
  .bind (yields_plainArg h) fun _ _ => .bind (yields_listArg (by omega)) fun _ _ =>
    .bind .of_get fun _ _ => .of_pure rfl

theorem yields_runSplit (h : 2 ≤ c.args.length) : Yields (·.length = 1) (runSplit c) :=
  .bind (yields_plainArg (by omega)) fun _ _ => .bind (yields_plainArg h) fun _ _ =>
    yields_returnList _

theorem yields_runReplace (h : 3 ≤ c.args.length) : Yields (·.length = 1) (runReplace c) :=
  .bind (yields_plainArg (by omega)) fun _ _ => .bind (yields_plainArg (by omega)) fun _ _ =>
    .bind (yields_compile _) fun _ _ => .bind (yields_plainArg h) fun _ _ => .of_pure rfl

theorem yields_runIsMatch (h : 2 ≤ c.args.length) : Yields (·.length = 1) (runIsMatch c) :=
  .bind (yields_plainArg (by omega)) fun _ _ => .bind (yields_plainArg h) fun _ _ =>
    .bind (yields_compile _) fun _ _ => .of_pure rfl

theorem yields_runTruncate (h : 2 ≤ c.args.length) : Yields (·.length = 1) (runTruncate c) := by
  refine .bind (yields_arg (by omega)) fun t _ => .bind (.ensure t.noBug_requireStr) fun _ _ => ?_
  refine .bind (yields_arg h) fun most _ => .bind (.ensure most.noBug_requireInt) fun _ _ => ?_
  exact .ite (.fail trivial) (.ite (.of_pure rfl) (.of_pure rfl))

theorem yields_rangeList (start stop step : Int64) :
    Yields (·.length = 1) (rangeList start stop step) :=
  .ite (.fail trivial) (yields_returnList _)

/-- One to three arguments are all cases there are. -/
theorem yields_runRange (h : 1 ≤ c.args.length) (h' : c.args.length ≤ 3) :
    Yields (·.length = 1) (runRange c) := by
  refine .bind (.mapM (fun v => (Yields.ensure v.noBug_requireInt).mono fun _ => trivial) _)
    fun ints hlength => ?_
  rcases ints with _ | ⟨a, _ | ⟨b, _ | ⟨d, _ | ⟨e, rest⟩⟩⟩⟩
  · exact absurd hlength (by simp; omega)
  · exact yields_rangeList _ _ _
  · exact yields_rangeList _ _ _
  · exact yields_rangeList _ _ _
  · exact absurd hlength (by simp; omega)

theorem yields_runSort (h : 1 ≤ c.args.length) : Yields (·.length = 1) (runSort c) := by
  have hrest : ∀ backwards : Bool, Yields (·.length = 1) (do
      let items ← listArg c 0
      returnList (← ensure (Rows.sortValues items
        (if backwards then .descending else .ascending)))) :=
    fun _ => .bind (yields_listArg h) fun _ _ =>
      .bind (.ensure (Rows.noBug_sortValues _ _)) fun _ _ => yields_returnList _
  unfold runSort
  split
  · exact .bind (.ensure (Value.noBug_requireBool _)) fun backwards _ => hrest backwards
  · exact hrest false

theorem yields_runAbs (h : 1 ≤ c.args.length) : Yields (·.length = 1) (runAbs c) := by
  refine .bind (yields_arg h) fun v _ => ?_
  split
  · exact .ite (.fail trivial) (.of_pure rfl)
  · exact .bind (.ensure (Value.noBug_requireNumber _)) fun _ _ => .of_pure rfl

theorem yields_runPow (h : 2 ≤ c.args.length) : Yields (·.length = 1) (runPow c) := by
  refine .bind (yields_arg (by omega)) fun b _ => ?_
  refine .bind (.ensure b.noBug_requireNumber) fun _ _ => ?_
  refine .bind (yields_arg h) fun e _ => .bind (.ensure e.noBug_requireNumber) fun _ _ => ?_
  exact .of_pure rfl

theorem yields_runSleep (h : 1 ≤ c.args.length) : Yields (·.length = 0) (runSleep c) := by
  refine .bind (yields_arg h) fun s _ => .bind (.ensure s.noBug_requireNumber) fun _ _ => ?_
  exact .ite (.fail trivial) (.ite (.crash (by decide)) (.of_pure rfl))

theorem yields_runParseJson (h : 1 ≤ c.args.length) :
    Yields (·.length = fallibleCount c) (runParseJson c) := by
  refine .bind (yields_plainArg h) fun s _ => yields_fallible c ?_
  split
  · exact .ofStore (.of_modifyGet fun st => st.scopes_ofJson _)
  · exact .fail trivial

theorem yields_runParseInt (h : 1 ≤ c.args.length) :
    Yields (·.length = fallibleCount c) (runParseInt c) := by
  refine .bind (yields_plainArg h) fun s _ => yields_fallible c ?_
  split
  · exact .of_pure trivial
  · exact .fail trivial

theorem yields_runParseFloat (h : 1 ≤ c.args.length) :
    Yields (·.length = fallibleCount c) (runParseFloat c) := by
  refine .bind (yields_plainArg h) fun s _ => yields_fallible c ?_
  split
  · exact .of_pure trivial
  · exact .fail trivial

theorem yields_runHttpGet (h : 1 ≤ c.args.length) :
    Yields (·.length = fallibleCount c) (runHttpGet c) := by
  refine .bind (yields_plainArg h) fun url _ => yields_fallible c ?_
  exact .bind (yields_fetch url) fun _ _ => .ofStore (.of_modifyGet fun st => st.scopes_ofJson _)

theorem yields_runRgb (h : 4 ≤ c.args.length) : Yields (·.length = 1) (runRgb c) := by
  refine .bind (yields_arg (by omega)) fun r _ => .bind (yields_channel r) fun _ _ => ?_
  refine .bind (yields_arg (by omega)) fun g _ => .bind (yields_channel g) fun _ _ => ?_
  refine .bind (yields_arg h) fun b _ => .bind (yields_channel b) fun _ _ => ?_
  refine .bind (yields_arg (by omega)) fun v _ => .bind (yields_richText v) fun _ _ => ?_
  exact .of_pure rfl

/-- Every name of a style stands for one. -/
theorem isSome_ofName? {name : String} (h : name ∈ Style.names) : (Style.ofName? name).isSome := by
  have hall : ∀ name ∈ Style.names, (Style.ofName? name).isSome := by decide
  exact hall name h

theorem yields_runStyle {name : String} (known : name ∈ Style.names) (h : 1 ≤ c.args.length) :
    Yields (·.length = 1) (runStyle name c) := by
  obtain ⟨style, hstyle⟩ := Option.isSome_iff_exists.1 (isSome_ofName? known)
  unfold runStyle
  rw [hstyle]
  exact .bind (yields_arg h) fun v _ => .bind (yields_richText v) fun _ _ => .of_pure rfl

/-- The function that asks for an exit: the exit is on record, or the code is none. -/
theorem runExit_cases (c : CallArgs) (m : Machine) :
    (∃ code, runExit c m =
        .error (.unwind (.exit code)) { m with turns := .exitAsked code :: m.turns }) ∨
      ∃ f m', runExit c m = .error (.unwind (.failure f none)) m' ∧ Still m m' := by
  unfold runExit
  cases harg : c.args[0]? with
  | none => exact .inl ⟨0, rfl⟩
  | some v =>
    change (∃ code, (ensure v.requireInt >>= _) m = _) ∨
      ∃ f m', (ensure v.requireInt >>= _) m = _ ∧ Still m m'
    cases hv : v.requireInt with
    | error f =>
      have hf := Fault.explained_of_ne_bug fun message hf =>
        v.noBug_requireInt message (hf ▸ hv)
      exact .inr ⟨f, _, rfl, (Still.refl m).arise (.inl hf)⟩
    | ok n =>
      by_cases hfits : Int32.minValue.toInt ≤ n.toInt ∧ n.toInt ≤ Int32.maxValue.toInt
      · refine .inl ⟨.ofInt n.toInt, ?_⟩
        change (if _ then _ else _ : Run (List Value)) m = _
        rw [if_pos hfits]
        rfl
      · have hf : (Fault.typeMismatch ("exit code " ++ toString n ++ " out of range")).Explained :=
          trivial
        refine .inr ⟨.typeMismatch ("exit code " ++ toString n ++ " out of range"), _, ?_,
          (Still.refl m).arise (.inl hf)⟩
        change (if _ then _ else _ : Run (List Value)) m = _
        rw [if_neg hfits]
        rfl

/-! ## Contracts -/

end Builtin

/-- A call that a contract admits: enough arguments, not too many, and a number of results that the
function can give. -/
structure Contract.Admits (k : Contract) (c : CallArgs) : Prop where
  least : k.minArgs ≤ c.args.length
  most {n : Nat} : k.maxArgs = some n → c.args.length ≤ n
  results {n : Nat} : c.expected = some n → n ∈ k.returns

theorem Contract.checkCount_eq_ok {k : Contract} {name : String} {n : Nat}
    (h : k.checkCount name n = .ok ()) :
    k.minArgs ≤ n ∧ ∀ most, k.maxArgs = some most → n ≤ most := by
  obtain ⟨minArgs, maxArgs, argTypes, named, returns⟩ := k
  unfold checkCount at h
  by_cases hfew : n < minArgs
  · simp only [hfew, if_true] at h
    cases h
  · refine ⟨Nat.le_of_not_lt hfew, ?_⟩
    rintro most rfl
    by_cases hmany : n > most
    · simp only [hfew, hmany, if_true, if_false] at h
      cases h
    · exact Nat.le_of_not_lt hmany

theorem Contract.mem_of_checkResults {k : Contract} {name : String} {n : Nat}
    (h : k.checkResults name (some n) = .ok ()) : n ∈ k.returns := by
  unfold checkResults at h
  by_cases hmem : k.returns.contains n
  · simpa using hmem
  · dsimp only at h
    rw [if_neg hmem] at h
    split at h <;> cases h

/-- A call that passes its check is admitted. -/
theorem Contract.admits_of_check {k : Contract} {name : String} {c : CallArgs}
    (h : k.check name c = .ok ()) : k.Admits c := by
  unfold check at h
  obtain ⟨_, hcount, h⟩ := bind_eq_ok.1 h
  obtain ⟨_, -, h⟩ := bind_eq_ok.1 h
  obtain ⟨_, -, h⟩ := bind_eq_ok.1 h
  refine ⟨(checkCount_eq_ok hcount).1, fun hmost => (checkCount_eq_ok hcount).2 _ hmost,
    fun hn => ?_⟩
  rw [hn] at h
  exact mem_of_checkResults h

namespace Builtin

/-- As many results as the caller expects, if any number is expected. -/
def Expected (c : CallArgs) (values : List Value) : Prop :=
  ∀ n, c.expected = some n → values.length = n

/-- A function that can give one number of results only gives what is expected. -/
theorem yields_expected {k : Contract} {n : Nat} (h : k.Admits c) (hk : k.returns = [n])
    {x : Run (List Value)} (hx : Yields (·.length = n) x) : Yields (Expected c) x := by
  refine hx.mono fun {values} hlength want hwant => ?_
  have hmem := h.results hwant
  rw [hk, List.mem_singleton] at hmem
  rw [hlength, hmem]

/-- A function that can fail gives one result or two, as expected. -/
theorem yields_fallibly {k : Contract} (h : k.Admits c) (hk : k.returns = [1, 2])
    {x : Run (List Value)} (hx : Yields (·.length = fallibleCount c) x) :
    Yields (Expected c) x := by
  refine hx.mono fun {values} hlength want hwant => ?_
  have hmem := h.results hwant
  rw [hk] at hmem
  rw [hlength, fallibleCount, hwant]
  obtain rfl | rfl : want = 1 ∨ want = 2 := by simpa using hmem
  · rfl
  · rfl

/-- **Every function but one is still** when its contract admits the call, and gives as many results
as are expected. -/
theorem yields_run {b : Builtin} (hb : b ≠ .exit) {c : CallArgs} (h : b.contract.Admits c) :
    Yields (Expected c) (b.run c) := by
  have hleast := h.least
  cases b with
  | exit => exact absurd rfl hb
  | print | printErr =>
    refine yields_expected h rfl (.bind (yields_joined c) fun _ _ => ?_)
    exact .bind (.emit _) fun _ _ => .of_pure rfl
  | debug =>
    refine yields_expected h rfl (.bind (yields_joined c) fun _ _ => ?_)
    exact .bind (.log _ _ _) fun _ _ => .of_pure rfl
  | len => exact yields_expected h rfl (yields_runLen hleast)
  | typeOf => exact yields_expected h rfl (.bind (yields_arg hleast) fun _ _ => .of_pure rfl)
  | str =>
    refine yields_expected h rfl (.bind (yields_arg hleast) fun v _ => ?_)
    exact .bind (yields_richText v) fun _ _ => .of_pure rfl
  | int => exact yields_expected h rfl (yields_runInt hleast)
  | float => exact yields_expected h rfl (yields_runFloat hleast)
  | upper | lower =>
    refine yields_expected h rfl (.bind (yields_arg hleast) fun v _ => ?_)
    exact .bind (.ensure v.noBug_requireStr) fun _ _ => .of_pure rfl
  | join => exact yields_expected h rfl (yields_runJoin hleast)
  | split => exact yields_expected h rfl (yields_runSplit hleast)
  | replace => exact yields_expected h rfl (yields_runReplace hleast)
  | isMatch => exact yields_expected h rfl (yields_runIsMatch hleast)
  | startsWith | endsWith =>
    refine yields_expected h rfl (.bind (yields_plainArg hleast) fun _ _ => ?_)
    exact .bind (yields_plainArg (Nat.lt_of_succ_lt hleast)) fun _ _ => .of_pure rfl
  | truncate => exact yields_expected h rfl (yields_runTruncate hleast)
  | keys | values =>
    exact yields_expected h rfl (.bind (yields_mapArg hleast) fun _ _ => yields_returnList _)
  | range => exact yields_expected h rfl (yields_runRange hleast (h.most rfl))
  | unique =>
    refine yields_expected h rfl (.bind (yields_listArg hleast) fun _ _ => ?_)
    exact .bind .of_get fun _ _ => yields_returnList _
  | sort => exact yields_expected h rfl (yields_runSort hleast)
  | abs => exact yields_expected h rfl (yields_runAbs hleast)
  | pow => exact yields_expected h rfl (yields_runPow hleast)
  | error => exact yields_expected h rfl (.bind (yields_plainArg hleast) fun _ _ => .of_pure rfl)
  | sleep => exact yields_expected h rfl (yields_runSleep hleast)
  | parseJson => exact yields_fallibly h rfl (yields_runParseJson hleast)
  | parseInt => exact yields_fallibly h rfl (yields_runParseInt hleast)
  | parseFloat => exact yields_fallibly h rfl (yields_runParseFloat hleast)
  | httpGet => exact yields_fallibly h rfl (yields_runHttpGet hleast)
  | hyperlink =>
    refine yields_expected h rfl (.bind (yields_plainArg hleast) fun _ _ => ?_)
    refine .bind (yields_arg (Nat.lt_of_succ_lt hleast)) fun v _ => ?_
    exact .bind (yields_richText v) fun _ _ => .of_pure rfl
  | rgb => exact yields_expected h rfl (yields_runRgb hleast)
  | style name known => exact yields_expected h rfl (yields_runStyle known hleast)

end Builtin
end TableScript
