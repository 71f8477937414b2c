import TableScript.Eval.Script
import TableScript.Proofs.Eval.ResultCount
import TableScript.Proofs.Value.Assignment
import TableScript.Proofs.Value.Making
import TableScript.Proofs.Value.Slots

/-!
# Updates of slots

`xs[i] += v` and `xs[i]++` find the slot that they read, and find it once more to write to it. In
between the operand is evaluated, and all indices are evaluated twice.

1. `Finds` is what finding a slot comes to: the slot that the last index selects, in a container
   that the other indices lead to (`Leads`);
2. `Calm` changes leave all variables and all containers that held something as they were. Finding
   a slot once more after calm changes finds the same slot, if the indices have the same values
   again (`Finds.again`);
3. indices that only look things up are calm and have the same values again (`Expr.LooksUp`);
4. `update_slot` says what an update does, and that it writes to the slot that it has read if its
   indices and its operand are calm. `update_writes_another_slot` is one that does not.
-/

namespace TableScript

open Run

variable {α : Type} {m m' m'' n : Machine}

/-! ## Steps that end well -/

theorem Run.eq_ok_of_ofStore {x : StoreM α} {a : α} (h : ofStore x m = .ok a m') :
    ∃ st, x m.store = .ok a st ∧ m' = { m with store := st } := by
  unfold ofStore at h
  dsimp only at h
  cases hx : x m.store with
  | ok b st =>
    rw [hx] at h
    cases h
    exact ⟨st, rfl, rfl⟩
  | error f st =>
    rw [hx] at h
    cases h

theorem Run.eq_ok_of_ensure {r : Except Fault α} {a : α} (h : ensure r m = .ok a m') :
    r = .ok a ∧ m' = m := by
  cases r with
  | ok b =>
    cases h
    exact ⟨rfl, rfl⟩
  | error f => cases h

/-- What a name stands for: a variable, else a built-in function. -/
theorem Run.eq_ok_of_lookup {name : String} {v : Value} (h : lookup name m = .ok v m') :
    (m.store.lookup? m.scope name).or ((Builtin.ofName? name).map fun b => .fn (.builtin b)) =
      some v ∧ m' = m := by
  unfold lookup at h
  rw [get_bind_apply] at h
  cases hv : m.store.lookup? m.scope name with
  | some w =>
    simp only [hv] at h
    cases h
    exact ⟨rfl, rfl⟩
  | none =>
    cases hb : Builtin.ofName? name with
    | some b =>
      simp only [hv, hb] at h
      cases h
      exact ⟨rfl, rfl⟩
    | none =>
      simp only [hv, hb] at h
      cases h

/-! ## Calm changes -/

/-- Every variable that can be seen and every container that held something is as it was. -/
structure Calm (m m' : Machine) : Prop where
  lookup? (name : String) : m'.store.lookup? m'.scope name = m.store.lookup? m.scope name
  items {a : Nat} : m.store.items a ≠ [] → m'.store.items a = m.store.items a
  entries {a : Nat} : m.store.entries a ≠ [] → m'.store.entries a = m.store.entries a

namespace Calm

theorem refl (m : Machine) : Calm m m := ⟨fun _ => rfl, fun _ => rfl, fun _ => rfl⟩

theorem trans (h : Calm m m') (h' : Calm m' m'') : Calm m m'' where
  lookup? name := (h'.lookup? name).trans (h.lookup? name)
  items ha := (h'.items (h.items ha ▸ ha)).trans (h.items ha)
  entries ha := (h'.entries (h.entries ha ▸ ha)).trans (h.entries ha)

/-- A slot that held something holds it. -/
theorem held {p : Slot} {v : Value} (h : Calm m m') (hp : m.store.held p = some v) :
    m'.store.held p = some v := by
  cases p with
  | element a k =>
    have hnonempty := Store.items_ne_nil_of_held hp
    rw [Store.held] at hp ⊢
    rwa [h.items hnonempty]
  | entry a k =>
    have hnonempty := Store.entries_ne_nil_of_held hp
    rw [Store.held] at hp ⊢
    rwa [h.entries hnonempty]
  | character t k => exact hp

/-- An index that selected a slot selects this slot. -/
theorem slot {container i : Value} {p : Slot} (h : Calm m m')
    (hp : m.store.slot container i = .ok p) : m'.store.slot container i = .ok p := by
  cases container with
  | list a =>
    rw [Store.slot] at hp ⊢
    rwa [h.items (Store.items_ne_nil_of_slot hp)]
  | _ => exact hp

theorem index {container i v : Value} (h : Calm m m') (hv : m.store.index container i = .ok v) :
    m'.store.index container i = .ok v := by
  obtain ⟨p, hp, hheld⟩ := Store.index_eq_ok_iff.1 hv
  exact Store.index_eq_ok_iff.2 ⟨p, h.slot hp, h.held hheld⟩

theorem lookup {name : String} {v w : Value} (h : Calm m n) (hv : lookup name m = .ok v m')
    (hw : lookup name n = .ok w m'') : w = v := by
  have hfound := (eq_ok_of_lookup hw).1
  rw [h.lookup?, (eq_ok_of_lookup hv).1] at hfound
  exact (Option.some.inj hfound).symm

/-- Making a list is calm. -/
theorem newList (m : Machine) (xs : List Value) :
    Calm m { m with store := (m.store.newList xs).2 } where
  lookup? name := by
    have houtline : Store.SameOutline m.store (m.store.newList xs).2 := .of_scopes_eq rfl
    unfold Store.lookup?
    rw [houtline.chain_eq]
    rfl
  items {a} ha := by
    have hlt : a < m.store.lists.size := by
      obtain hnil | ⟨hlt, -⟩ := m.store.items_eq_nil_or_mem a
      · exact absurd hnil ha
      · exact hlt
    exact (Store.grows_newList m.store xs).items hlt
  entries _ := rfl

end Calm

namespace Operator

theorem eq_of_ofExcept {r : Except Fault α} {a : α} {st st' : Store}
    (h : StoreM.ofExcept r st = .ok a st') : st' = st := by
  cases r with
  | ok b =>
    cases h
    rfl
  | error f => cases h

/-- Addition leaves the store as it is, or makes a list. -/
theorem eq_or_newList_of_add {a b v : Value} {st st' : Store} (h : add a b st = .ok v st') :
    st' = st ∨ ∃ xs, st' = (st.newList xs).2 := by
  unfold add at h
  split at h
  case h_6 x y =>
    cases h
    exact .inr ⟨_, rfl⟩
  case h_7 =>
    cases hp : Value.promote? a b with
    | none =>
      rw [hp] at h
      cases h
    | some xy =>
      rw [hp] at h
      cases h
      exact .inl rfl
  all_goals
    cases h
    exact .inl rfl

theorem eq_or_newList_of_binary {op : BinaryOp} {a b v : Value} {st st' : Store}
    (h : binary op a b st = .ok v st') : st' = st ∨ ∃ xs, st' = (st.newList xs).2 := by
  cases op with
  | add => exact eq_or_newList_of_add h
  | sub | mul | div | mod => exact .inl (eq_of_ofExcept h)
  | gt | ge | lt | le =>
    unfold binary at h
    dsimp only at h
    cases hc : compare? a b with
    | none =>
      rw [hc] at h
      cases h
    | some o =>
      rw [hc] at h
      cases h
      exact .inl rfl
  | isIn | notIn =>
    change EStateM.bind (StoreM.ofExcept (occurs st _ a b)) _ st = _ at h
    cases hr : occurs st _ a b with
    | error f =>
      rw [hr] at h
      cases h
    | ok r =>
      rw [hr] at h
      cases h
      exact .inl rfl
  | eq | ne | and | or =>
    cases h
    exact .inl rfl

end Operator

theorem Operator.calm_binary {op : BinaryOp} {a b v : Value} {st : Store}
    (h : binary op a b m.store = .ok v st) : Calm m { m with store := st } := by
  obtain rfl | ⟨xs, rfl⟩ := eq_or_newList_of_binary h
  · exact .refl m
  · exact .newList m xs

/-! ## Finding a slot -/

/-- Following indices from a container leads to an index into a container. -/
inductive Leads (ev : Evaluator) :
    Value → Expr → List Expr → Machine → Value → Value → Machine → Prop
  | last {container key : Value} {e : Expr} {m m' : Machine} : ev.expr e m = .ok key m' →
    Leads ev container e [] m container key m'
  | step {container key inner found last : Value} {e next : Expr} {rest : List Expr}
    {m m₁ m' : Machine} : ev.expr e m = .ok key m₁ → m₁.store.index container key = .ok inner →
    Leads ev inner next rest m₁ found last m' → Leads ev container e (next :: rest) m found last m'

/-- The indices of a target. -/
def Target.path : Target → List Expr
  | .mk _ path => path

/-- Resolving a target finds a slot. -/
def Finds (ev : Evaluator) : Target → Machine → Slot → Machine → Prop
  | .mk _ [], _, _, _ => False
  | .mk name (e :: rest), m, p, m' => ∃ container found last, lookup name m = .ok container m ∧
    Leads ev container e rest m found last m' ∧ m'.store.slot found last = .ok p

/-- A slot is written to, and nothing else is; an entry of a map that is not there is lost. -/
structure Written (p : Slot) (v : Value) (m m' : Machine) : Prop where
  held : m'.store.held p = some v ∨ ∃ a k, p = .entry a k ∧ m.store.maps.size ≤ a
  others (q : Slot) : q ≠ p → m'.store.held q = m.store.held q
  rest : m' = { m with store := { m.store with lists := m'.store.lists, maps := m'.store.maps } }

theorem written_put {p : Slot} (key v : Value)
    (h : m.store.CanPut p ∨ ∃ a k, p = .entry a k ∧ m.store.maps.size ≤ a) :
    Written p v m { m with store := m.store.put key v p } where
  held := h.imp_left (Store.held_put_self key v)
  others _ hq := Store.held_put_of_ne key v hq
  rest := by cases p <;> rfl

/-- A slot that held something holds what is written to it. -/
theorem Written.held_of_held {p : Slot} {v old : Value} (h : Written p v m m')
    (hold : m.store.held p = some old) : m'.store.held p = some v := by
  obtain hheld | ⟨a, k, rfl, hle⟩ := h.held
  · exact hheld
  · have hnil : m.store.entries a = [] := by simp [Store.entries, Array.getD, Nat.not_lt.2 hle]
    exact absurd hnil (Store.entries_ne_nil_of_held hold)

namespace Stmt

variable {ev : Evaluator} {e : Expr} {rest : List Expr} {container v : Value}

/-- One step along a path that ends well. -/
theorem eq_ok_of_index {f : Value → Run α} {a : α}
    (h : (do
      let key ← ev.expr e
      let inner ← atSpan e.span (ensure ((← get).store.index container key))
      f inner : Run α) m = .ok a m') :
    ∃ key m₁ inner, ev.expr e m = .ok key m₁ ∧ m₁.store.index container key = .ok inner ∧
      f inner m₁ = .ok a m' := by
  obtain ⟨key, m₁, hkey, hrest⟩ := eq_ok_of_bind h
  rw [get_bind_apply] at hrest
  obtain ⟨inner, m₂, hinner, hf⟩ := eq_ok_of_bind hrest
  obtain ⟨hindex, heq⟩ := eq_ok_of_ensure (eq_ok_of_atSpan hinner)
  exact ⟨key, m₁, inner, hkey, hindex, heq ▸ hf⟩

theorem leads_of_follow (h : follow ev container (e :: rest) m = .ok v m') :
    ∃ found last, Leads ev container e rest m found last m' ∧
      m'.store.index found last = .ok v := by
  induction rest generalizing e container m with
  | nil =>
    obtain ⟨key, m₁, inner, hkey, hindex, hend⟩ := eq_ok_of_index h
    cases hend
    exact ⟨container, key, .last hkey, hindex⟩
  | cons next rest ih =>
    obtain ⟨key, m₁, inner, hkey, hindex, hrest⟩ := eq_ok_of_index h
    obtain ⟨found, last, hleads, hlast⟩ := ih hrest
    exact ⟨found, last, .step hkey hindex hleads, hlast⟩

theorem leads_of_writePath {u : Unit} (h : writePath ev v container e rest m = .ok u m') :
    ∃ found last m₁ st, Leads ev container e rest m found last m₁ ∧
      Store.setIndex found last v m₁.store = .ok () st ∧ m' = { m₁ with store := st } := by
  induction rest generalizing e container m with
  | nil =>
    obtain ⟨key, m₁, hkey, hwrite⟩ := eq_ok_of_bind h
    obtain ⟨st, hset, rfl⟩ := eq_ok_of_ofStore (eq_ok_of_atSpan hwrite)
    exact ⟨container, key, m₁, st, .last hkey, hset, rfl⟩
  | cons next rest ih =>
    obtain ⟨key, m₁, inner, hkey, hindex, hrest⟩ := eq_ok_of_index h
    obtain ⟨found, last, m₂, st, hleads, hset, rfl⟩ := ih hrest
    exact ⟨found, last, m₂, st, .step hkey hindex hleads, hset, rfl⟩

/-- Reading a target finds the slot that holds what is read. -/
theorem finds_of_readTarget {name : String}
    (h : readTarget ev (.mk name (e :: rest)) m = .ok v m') :
    ∃ p, Finds ev (.mk name (e :: rest)) m p m' ∧ m'.store.held p = some v := by
  obtain ⟨container, m₁, hlookup, hfollow⟩ := eq_ok_of_bind h
  obtain ⟨-, rfl⟩ := eq_ok_of_lookup hlookup
  obtain ⟨found, last, hleads, hindex⟩ := leads_of_follow hfollow
  obtain ⟨p, hp, hheld⟩ := Store.index_eq_ok_iff.1 hindex
  exact ⟨p, ⟨container, found, last, hlookup, hleads, hp⟩, hheld⟩

/-- Writing to a target finds a slot and writes to it. -/
theorem finds_of_writeTarget {name : String} {u : Unit}
    (h : writeTarget ev v (.mk name (e :: rest)) m = .ok u m') :
    ∃ p m₁, Finds ev (.mk name (e :: rest)) m p m₁ ∧ Written p v m₁ m' := by
  obtain ⟨container, m₁, hlookup, hwrite⟩ := eq_ok_of_bind h
  obtain ⟨-, rfl⟩ := eq_ok_of_lookup hlookup
  obtain ⟨found, last, m₂, st, hleads, hset, rfl⟩ := leads_of_writePath hwrite
  obtain ⟨p, hp, rfl, hcan⟩ := Store.setIndex_eq_ok hset
  exact ⟨p, m₂, ⟨container, found, last, hlookup, hleads, hp⟩, written_put last v hcan⟩

end Stmt

/-! ## Finding a slot again -/

/-- Evaluating an expression is calm. -/
def Calmly (ev : Evaluator) (e : Expr) : Prop :=
  ∀ {m : Machine} {v : Value} {m' : Machine}, ev.expr e m = .ok v m' → Calm m m'

/-- After calm changes, an expression has the value that it had. -/
def Repeats (ev : Evaluator) (e : Expr) : Prop :=
  ∀ {m : Machine} {v : Value} {m' n : Machine} {w : Value} {n' : Machine},
    ev.expr e m = .ok v m' → Calm m n → ev.expr e n = .ok w n' → w = v

section Again

variable {ev : Evaluator} {e : Expr} {rest : List Expr} {container found last : Value}
  {n' : Machine}

theorem Leads.calm (h : Leads ev container e rest m found last m')
    (hcalm : ∀ x ∈ e :: rest, Calmly ev x) : Calm m m' := by
  induction h with
  | last hkey => exact hcalm _ List.mem_cons_self hkey
  | step hkey _ _ ih =>
    obtain ⟨he, hrest⟩ := List.forall_mem_cons.1 hcalm
    exact (he hkey).trans (ih hrest)

/-- Following indices again, after calm changes, leads to the same index. -/
theorem Leads.again (h : Leads ev container e rest m found last m')
    (hcalm : ∀ x ∈ e :: rest, Calmly ev x ∧ Repeats ev x) (hbetween : Calm m' n)
    {found' last' : Value} (h' : Leads ev container e rest n found' last' n') :
    found' = found ∧ last' = last := by
  induction h generalizing n with
  | last hkey =>
    cases h' with
    | last hkey' =>
      obtain ⟨he, hagain⟩ := hcalm _ List.mem_cons_self
      exact ⟨rfl, hagain hkey ((he hkey).trans hbetween) hkey'⟩
  | @step container key inner found last e next rest m m₁ m' hkey hindex hleads ih =>
    obtain ⟨⟨he, hagain⟩, hrest⟩ := List.forall_mem_cons.1 hcalm
    have hleft : Calm m₁ n := (hleads.calm fun x hx => (hrest x hx).1).trans hbetween
    cases h' with
    | @step _ key' inner' _ _ _ _ _ _ n₁ _ hkey' hindex' hleads' =>
      have hn : Calm n n₁ := he hkey'
      obtain rfl : key' = key := hagain hkey ((he hkey).trans hleft) hkey'
      -- the container held something on the way, so it holds the same now
      have hinner := (hleft.trans hn).index hindex
      obtain rfl : inner' = inner := Except.ok.inj (hindex'.symm.trans hinner)
      exact ih hrest (hbetween.trans hn) hleads'

theorem Finds.again {target : Target} {p q : Slot} (h : Finds ev target m p m')
    (hcalm : ∀ x ∈ target.path, Calmly ev x ∧ Repeats ev x) (hbetween : Calm m' n)
    (h' : Finds ev target n q n') : q = p ∧ Calm m m' ∧ Calm n n' := by
  obtain ⟨name, _ | ⟨e, rest⟩⟩ := target
  · exact h.elim
  obtain ⟨container, found, last, hlookup, hleads, hp⟩ := h
  obtain ⟨container', found', last', hlookup', hleads', hq⟩ := h'
  have hfirst := hleads.calm fun x hx => (hcalm x hx).1
  have hsecond := hleads'.calm fun x hx => (hcalm x hx).1
  obtain rfl := (hfirst.trans hbetween).lookup hlookup hlookup'
  obtain ⟨rfl, rfl⟩ := hleads.again hcalm hbetween hleads'
  refine ⟨?_, hfirst, hsecond⟩
  exact Except.ok.inj (hq.symm.trans ((hbetween.trans hsecond).slot hp))

end Again

/-! ## Indices that only look things up -/

/-- Constants, names, and what they lead to. -/
inductive Expr.LooksUp : Expr → Prop
  | literal (l : Literal) (span : Option Span) : LooksUp (.mk (.literal l) span)
  | ident (name : String) (span : Option Span) : LooksUp (.mk (.ident name) span)
  | index {target i : Expr} (span : Option Span) : LooksUp target → LooksUp i →
    LooksUp (.mk (.index target i) span)

namespace Expr

variable {fuel : Nat} {e : Expr} {v : Value}

/-- An expression that has a value took a step. -/
theorem eq_ok_of_fuel (h : (Evaluator.ofFuel fuel).expr e m = .ok v m') :
    ∃ less, fuel = less + 1 ∧ evalKind (.ofFuel less) e m = .ok v m' := by
  cases fuel with
  | zero => cases h
  | succ less => exact ⟨less, rfl, eq_ok_of_atSpan h⟩

theorem eq_ok_of_index {target i : Expr} {span : Option Span}
    (h : (Evaluator.ofFuel fuel).expr (.mk (.index target i) span) m = .ok v m') :
    ∃ less container key m₁, fuel = less + 1 ∧
      (Evaluator.ofFuel less).expr target m = .ok container m₁ ∧
      (Evaluator.ofFuel less).expr i m₁ = .ok key m' ∧ m'.store.index container key = .ok v := by
  obtain ⟨less, rfl, hkind⟩ := eq_ok_of_fuel h
  obtain ⟨container, m₁, htarget, hrest⟩ := eq_ok_of_bind hkind
  obtain ⟨key, m₂, hkey, hindex⟩ := eq_ok_of_bind hrest
  rw [get_bind_apply] at hindex
  obtain ⟨hv, rfl⟩ := eq_ok_of_ensure hindex
  exact ⟨less, container, key, m₁, rfl, htarget, hkey, hv⟩

theorem LooksUp.unchanged (he : e.LooksUp) (h : (Evaluator.ofFuel fuel).expr e m = .ok v m') :
    m' = m := by
  induction he generalizing fuel m v m' with
  | literal l span =>
    obtain ⟨less, -, hkind⟩ := eq_ok_of_fuel h
    cases hkind
    rfl
  | ident name span =>
    obtain ⟨less, -, hkind⟩ := eq_ok_of_fuel h
    exact (eq_ok_of_lookup hkind).2
  | index span _ _ htarget hi =>
    obtain ⟨less, container, key, m₁, -, h₁, h₂, -⟩ := eq_ok_of_index h
    exact (hi h₂).trans (htarget h₁)

theorem LooksUp.calmly (he : e.LooksUp) : Calmly (.ofFuel fuel) e :=
  fun h => he.unchanged h ▸ .refl _

theorem LooksUp.repeats (he : e.LooksUp) : Repeats (.ofFuel fuel) e := by
  intro m v m' n w n' h hcalm h'
  induction he generalizing fuel m v m' n w n' with
  | literal l span =>
    obtain ⟨less, -, hkind⟩ := eq_ok_of_fuel h
    obtain ⟨less', -, hkind'⟩ := eq_ok_of_fuel h'
    cases hkind
    cases hkind'
    rfl
  | ident name span =>
    obtain ⟨less, -, hkind⟩ := eq_ok_of_fuel h
    obtain ⟨less', -, hkind'⟩ := eq_ok_of_fuel h'
    exact hcalm.lookup hkind hkind'
  | index span htargetLooks hiLooks htarget hi =>
    obtain ⟨less, container, key, m₁, rfl, h₁, h₂, hindex⟩ := eq_ok_of_index h
    obtain ⟨less', container', key', n₁, hless, h₁', h₂', hindex'⟩ := eq_ok_of_index h'
    obtain rfl := Nat.succ.inj hless
    obtain rfl := htargetLooks.unchanged h₁
    obtain rfl := htargetLooks.unchanged h₁'
    obtain rfl := hiLooks.unchanged h₂
    obtain rfl := hiLooks.unchanged h₂'
    obtain rfl := htarget h₁ hcalm h₁'
    obtain rfl := hi h₂ hcalm h₂'
    exact Except.ok.inj (hindex'.symm.trans (hcalm.index hindex))

end Expr

/-! ## Updates -/

/-- The target of an update. -/
def StmtKind.updated? : StmtKind → Option Target
  | .compoundAssign target _ _ | .step target _ => some target
  | _ => none

/-- The operand of an update, if it is written out. -/
def StmtKind.operands : StmtKind → List Expr
  | .compoundAssign _ _ value => [value]
  | _ => []

/-- What an update makes of the content of a slot: the operator applied to it and the value of the
operand. A step adds to a number. -/
inductive Combines (ev : Evaluator) : StmtKind → Value → Machine → Value → Machine → Prop
  | compound {target : Target} {op : BinaryOp} {value : Expr} {old rhs new : Value}
    {m m' : Machine} {st : Store} : ev.expr value m = .ok rhs m' →
    Operator.binary op old rhs m'.store = .ok new st →
    Combines ev (.compoundAssign target op value) old m new { m' with store := st }
  | step {target : Target} {delta : Int64} {old new : Value} {m : Machine} {st : Store} :
    (∃ k, old = .int k) ∨ (∃ x, old = .float x) →
    Operator.binary .add old (.int delta) m.store = .ok new st →
    Combines ev (.step target delta) old m new { m with store := st }

theorem Combines.calm {ev : Evaluator} {kind : StmtKind} {old new : Value}
    (h : Combines ev kind old m new m') (hcalm : ∀ x ∈ kind.operands, Calmly ev x) :
    Calm m m' := by
  cases h with
  | compound hrhs hnew =>
    exact (hcalm _ List.mem_cons_self hrhs).trans (Operator.calm_binary hnew)
  | step _ hnew => exact Operator.calm_binary hnew

theorem Operator.eq_of_unary_plus {st : Store} {v w : Value} (h : unary st .plus v = .ok w) :
    w = v ∧ ((∃ k, v = .int k) ∨ ∃ x, v = .float x) := by
  cases v <;> cases h
  · exact ⟨rfl, .inl ⟨_, rfl⟩⟩
  · exact ⟨rfl, .inr ⟨_, rfl⟩⟩

/-- An update reads its target, combines what it read, and writes to the target. -/
theorem Stmt.eq_ok_of_update {ev : Evaluator} {rounds : Nat} {kind : StmtKind} {target : Target}
    {s : Option Signal} (hkind : kind.updated? = some target)
    (h : runKind ev rounds kind m = .ok s m') :
    ∃ old new m₁ m₂, readTarget ev target m = .ok old m₁ ∧ Combines ev kind old m₁ new m₂ ∧
      writeTarget ev new target m₂ = .ok () m' := by
  cases kind <;> cases hkind
  case compoundAssign op value =>
    obtain ⟨old, m₁, hread, hafter⟩ := eq_ok_of_bind h
    obtain ⟨rhs, m₂, hrhs, hoperated⟩ := eq_ok_of_bind hafter
    obtain ⟨new, m₃, hnew, hwritten⟩ := eq_ok_of_bind hoperated
    obtain ⟨st, hbinary, rfl⟩ := eq_ok_of_ofStore hnew
    obtain ⟨u, m₄, hwrite, hend⟩ := eq_ok_of_bind hwritten
    cases hend
    exact ⟨old, new, m₁, _, hread, .compound hrhs hbinary, hwrite⟩
  case step delta =>
    obtain ⟨old, m₁, hread, hafter⟩ := eq_ok_of_bind h
    rw [get_bind_apply] at hafter
    obtain ⟨number, m₂, hnumber, hoperated⟩ := eq_ok_of_bind hafter
    obtain ⟨hplus, rfl⟩ := eq_ok_of_ensure hnumber
    obtain ⟨rfl, hkinds⟩ := Operator.eq_of_unary_plus hplus
    obtain ⟨new, m₃, hnew, hwritten⟩ := eq_ok_of_bind hoperated
    obtain ⟨st, hbinary, rfl⟩ := eq_ok_of_ofStore hnew
    obtain ⟨u, m₄, hwrite, hend⟩ := eq_ok_of_bind hwritten
    cases hend
    exact ⟨_, new, _, _, hread, .step hkinds hbinary, hwrite⟩

/-- **Updates.** An update that succeeds finds a slot and reads it, combines what it held with the
operand, finds a slot again and writes the result there, and to nothing else. If the operand and the
indices are calm and the indices have the same values again, the slot it writes to is the one it has
read: the slot holds the result, and whatever else held something holds it still. -/
theorem update_slot {ev : Evaluator} {rounds : Nat} {kind : StmtKind} {name : String} {e : Expr}
    {rest : List Expr} {s : Option Signal} (hkind : kind.updated? = some (.mk name (e :: rest)))
    (h : Stmt.runKind ev rounds kind m = .ok s m') :
    ∃ p old new q m₁ m₂ m₃, Finds ev (.mk name (e :: rest)) m p m₁ ∧ m₁.store.held p = some old ∧
      Combines ev kind old m₁ new m₂ ∧
      Finds ev (.mk name (e :: rest)) m₂ q m₃ ∧ Written q new m₃ m' ∧
      ((∀ x ∈ e :: rest, Calmly ev x ∧ Repeats ev x) → (∀ x ∈ kind.operands, Calmly ev x) →
        q = p ∧ m'.store.held p = some new ∧
        ∀ r v, r ≠ p → m.store.held r = some v → m'.store.held r = some v) := by
  obtain ⟨old, new, m₁, m₂, hread, hcombines, hwrite⟩ := Stmt.eq_ok_of_update hkind h
  obtain ⟨p, hp, hold⟩ := Stmt.finds_of_readTarget hread
  obtain ⟨q, m₃, hq, hwritten⟩ := Stmt.finds_of_writeTarget hwrite
  refine ⟨p, old, new, q, m₁, m₂, m₃, hp, hold, hcombines, hq, hwritten, fun hpath hoperand => ?_⟩
  have hbetween := hcombines.calm hoperand
  obtain ⟨rfl, hfirst, hsecond⟩ := hp.again hpath hbetween hq
  have hleft := hbetween.trans hsecond
  refine ⟨rfl, hwritten.held_of_held (hleft.held hold), fun r v hr hv => ?_⟩
  rw [hwritten.others r hr]
  exact (hfirst.trans hleft).held hv

namespace Expr

/-- A name as an expression. -/
def ofName (name : String) : Expr := .mk (.ident name) none

/-- An integer as an expression. -/
def ofInt (k : Int64) : Expr := .mk (.literal (.int k)) none

end Expr

/-- A list `xs` of ten and twenty, a variable `i`, and a function `next` that gives back `i` and
steps it. -/
def inTurn : Machine where
  store :=
    { lists := #[[.int 10, .int 20]]
      scopes := #[{ vars := [("xs", .list 0), ("i", .int 0), ("next", .fn (.closure 0))] }]
      closures := #[{
        params := []
        body := .block "next" [.mk (.step (.mk "i" []) 1) none]
          (some [.mk (.binary .sub (.ofName "i") (.ofInt 1)) none])
        scope := 0 }] }

/-- `xs[e] += 5`. -/
def addFiveAt (e : Expr) : StmtKind := .compoundAssign (.mk "xs" [e]) .add (.ofInt 5)

/-- `next()`. -/
def callNext : Expr := .mk (.call (.ofName "next") [] []) none

/-- The value of a computation, and what the first list holds afterwards. -/
def firstList? : EStateM.Result Stop Machine α → Option (α × List Value)
  | .ok a m => some (a, m.store.items 0)
  | .error _ _ => none

theorem eq_ok_of_firstList? {r : EStateM.Result Stop Machine α} {a : α} {xs : List Value}
    (h : firstList? r = some (a, xs)) : ∃ m', r = .ok a m' ∧ m'.store.items 0 = xs := by
  cases r with
  | error stop m' => cases h
  | ok b m' =>
    obtain ⟨rfl, rfl⟩ := Prod.mk.inj (Option.some.inj h)
    exact ⟨m', rfl, rfl⟩

/-- With a variable as the index, the element that is read is the element that is written to. -/
theorem update_slot_variable :
    ∃ m' p old new m₁ m₂,
      Stmt.runKind (.ofFuel 9) 9 (addFiveAt (.ofName "i")) inTurn = .ok none m' ∧
      Finds (.ofFuel 9) (.mk "xs" [.ofName "i"]) inTurn p m₁ ∧ m₁.store.held p = some old ∧
      Combines (.ofFuel 9) (addFiveAt (.ofName "i")) old m₁ new m₂ ∧
      m'.store.held p = some new ∧ m'.store.items 0 = [.int 15, .int 20] := by
  have hrun : firstList? (Stmt.runKind (.ofFuel 9) 9 (addFiveAt (.ofName "i")) inTurn) =
      some (none, [.int 15, .int 20]) := by cbv
  obtain ⟨m', h, hitems⟩ := eq_ok_of_firstList? hrun
  obtain ⟨p, old, new, q, m₁, m₂, m₃, hp, hold, hnew, -, -, hsame⟩ := update_slot rfl h
  have hindex : (Expr.ofName "i").LooksUp := .ident "i" none
  have hoperand : (Expr.ofInt 5).LooksUp := .literal (.int 5) none
  obtain ⟨-, hheld, -⟩ := hsame (List.forall_mem_singleton.2 ⟨hindex.calmly, hindex.repeats⟩)
    (List.forall_mem_singleton.2 hoperand.calmly)
  exact ⟨m', p, old, new, m₁, m₂, h, hp, hold, hnew, hheld, hitems⟩

/-- The index is a call that steps through the list. The first element is found and read, and it
stays as it is: the sum is written to the second one, which is lost. -/
theorem update_writes_another_slot :
    ∃ m₁ m', Finds (.ofFuel 9) (.mk "xs" [callNext]) inTurn (.element 0 0) m₁ ∧
      m₁.store.held (.element 0 0) = some (.int 10) ∧
      m₁.store.held (.element 0 1) = some (.int 20) ∧
      Stmt.runKind (.ofFuel 9) 9 (addFiveAt callNext) inTurn = .ok none m' ∧
      m'.store.held (.element 0 0) = some (.int 10) ∧
      m'.store.held (.element 0 1) = some (.int 15) := by
  have hindex : firstList? ((Evaluator.ofFuel 9).expr callNext inTurn) =
      some (.int 0, [.int 10, .int 20]) := by cbv
  have hrun : firstList? (Stmt.runKind (.ofFuel 9) 9 (addFiveAt callNext) inTurn) =
      some (none, [.int 10, .int 15]) := by cbv
  obtain ⟨m₁, hkey, hitems₁⟩ := eq_ok_of_firstList? hindex
  obtain ⟨m', h, hitems⟩ := eq_ok_of_firstList? hrun
  have hslot : m₁.store.slot (.list 0) (.int 0) = .ok (.element 0 0) := by
    simp only [Store.slot, hitems₁]
    cbv
  refine ⟨m₁, m', ⟨.list 0, .list 0, .int 0, by cbv, .last hkey, hslot⟩, ?_, ?_, h, ?_, ?_⟩
  · rw [Store.held, hitems₁]
    rfl
  · rw [Store.held, hitems₁]
    rfl
  · rw [Store.held, hitems]
    rfl
  · rw [Store.held, hitems]
    rfl

end TableScript
