import TableScript.Eval.Call
import TableScript.Proofs.Value.Twins

/-!
# Computations that differ only in looks

Two computations run side by side on stores that are twins. They come to the same but for looks when
their results are related or their failures are the same, and what they leave are twins again, with
containers added.

1. `Alongside` is put together along `>>=`: what follows starts on the twins that were left;
2. operators, indexing and slicing see the plain text of strings, so they are alongside themselves
   on alike values (`Operator.binary_alongside`, `Store.index_alike`, `Store.slice_alongside`);
3. catching failures, attaching spans and working on the store keep computations alongside each
   other (`Run.attempt_alongside` and the others).
-/

namespace TableScript

/-- A state that a store is part of. -/
class HasStore (σ : Type) where
  store : σ → Store

instance : HasStore Store := ⟨id⟩

instance : HasStore Machine := ⟨Machine.store⟩

/-- Results that are related, or the same failure. -/
inductive SameResult {ε α : Type} (P : α → α → Prop) : Except ε α → Except ε α → Prop
  | ok {a b : α} : P a b → SameResult P (.ok a) (.ok b)
  | error (f : ε) : SameResult P (.error f) (.error f)

/-- What follows the same result. -/
theorem SameResult.same_bind {ε α β : Type} {Q : β → β → Prop} (r : Except ε α)
    {f g : α → Except ε β} (hfg : ∀ a, SameResult Q (f a) (g a)) :
    SameResult Q (r >>= f) (r >>= g) := by
  cases r with
  | ok a => exact hfg a
  | error f => exact .error f

/-- What follows results that are related. -/
theorem SameResult.bind {ε α β : Type} {P : α → α → Prop} {Q : β → β → Prop} {r r' : Except ε α}
    {f g : α → Except ε β} (h : SameResult P r r')
    (hfg : ∀ {a b}, P a b → SameResult Q (f a) (g b)) :
    SameResult Q (r >>= f) (r' >>= g) := by
  cases h with
  | ok hab => exact hfg hab
  | error f => exact .error f

theorem SameResult.refl {ε α : Type} (r : Except ε α) : SameResult Eq r r := by
  cases r with
  | ok a => exact .ok rfl
  | error f => exact .error f

section

variable {ε σ α β : Type} [HasStore σ] {R S : Pairing} {P Q : Pairing → α → α → Prop}

/-- Results that are related, or the same failure, beside stores that are twins with containers
added. -/
inductive SameOutcome (R : Pairing) (Q : Pairing → α → α → Prop) :
    EStateM.Result ε σ α → EStateM.Result ε σ α → Prop
  | ok {S : Pairing} {a b : α} {s s' : σ} : R ≤ S →
    (HasStore.store s).Twins S (HasStore.store s') → Q S a b → SameOutcome R Q (.ok a s) (.ok b s')
  | error {S : Pairing} {f : ε} {s s' : σ} : R ≤ S →
    (HasStore.store s).Twins S (HasStore.store s') → SameOutcome R Q (.error f s) (.error f s')

theorem SameOutcome.mono {r r' : EStateM.Result ε σ α} (hRS : R ≤ S) (h : SameOutcome S Q r r') :
    SameOutcome R Q r r' := by
  cases h with
  | ok hS hst hab => exact .ok (hRS.trans hS) hst hab
  | error hS hst => exact .error (hRS.trans hS) hst

/-- Two computations come to the same but for looks, wherever they start on twins. -/
def Alongside (R : Pairing) (Q : Pairing → α → α → Prop) (x y : EStateM ε σ α) : Prop :=
  ∀ s s' : σ, (HasStore.store s).Twins R (HasStore.store s') → SameOutcome R Q (x s) (y s')

namespace Alongside

variable {x y : EStateM ε σ α}

theorem of_pure {a b : α} (h : Q R a b) : Alongside R Q (pure a : EStateM ε σ α) (pure b) :=
  fun _ _ hst => .ok le_rfl hst h

theorem stop (f : ε) : Alongside R Q (throw f : EStateM ε σ α) (throw f) :=
  fun _ _ hst => .error le_rfl hst

theorem bind {Q : Pairing → β → β → Prop} {f g : α → EStateM ε σ β} (hx : Alongside R P x y)
    (hf : ∀ {S a b}, R ≤ S → P S a b → Alongside S Q (f a) (g b)) :
    Alongside R Q (x >>= f) (y >>= g) := by
  intro s s' hst
  change SameOutcome R Q (EStateM.bind x f s) (EStateM.bind y g s')
  have hxy := hx s s' hst
  unfold EStateM.bind
  generalize x s = r at hxy ⊢
  generalize y s' = r' at hxy ⊢
  cases hxy with
  | ok hS hst hab => exact (hf hS hab _ _ hst).mono hS
  | error hS hst => exact .error hS hst

/-- Computations that look at the state first. -/
theorem get_bind {f g : σ → EStateM ε σ α}
    (hf : ∀ {s s' : σ}, (HasStore.store s).Twins R (HasStore.store s') →
      Alongside R Q (f s) (g s')) : Alongside R Q (get >>= f) (get >>= g) :=
  fun s s' hst => hf hst s s' hst

theorem ite {c c' : Prop} [Decidable c] [Decidable c'] {x' y' : EStateM ε σ α} (hc : c ↔ c')
    (hx : Alongside R Q x x') (hy : Alongside R Q y y') :
    Alongside R Q (if c then x else y) (if c' then x' else y') := by
  by_cases h : c
  · rwa [if_pos h, if_pos (hc.1 h)]
  · rwa [if_neg h, if_neg (mt hc.2 h)]

end Alongside
end

variable {R : Pairing} {a b a' b' v w : Value}

theorem Alongside.getStore_bind {α : Type} {Q : Pairing → α → α → Prop} {f g : Store → StoreM α}
    (hf : ∀ {st st' : Store}, st.Twins R st' → Alongside R Q (f st) (g st')) :
    Alongside R Q (get >>= f) (get >>= g) :=
  .get_bind hf

theorem Alongside.ofExcept {α : Type} {Q : Pairing → α → α → Prop} {r r' : Except Fault α}
    (h : SameResult (Q R) r r') : Alongside R Q (StoreM.ofExcept r) (StoreM.ofExcept r') := by
  cases h with
  | ok hab => exact .of_pure hab
  | error f => exact .stop f

theorem Alongside.allocList {xs ys : List Value} (h : xs.Forall₂ (Value.Alike R) ys) :
    Alongside R Value.Alike (Store.allocList xs) (Store.allocList ys) := by
  intro st st' hst
  obtain ⟨S, hRS, hS, hlist⟩ := Store.Twins.newList hst h
  exact .ok hRS hS hlist

/-! ## Operators -/

namespace Operator

theorem invalidOperands_eq (op : BinaryOp) (ha : a.Alike R a') (hb : b.Alike R b') :
    Fault.invalidOperands op a b = .invalidOperands op a' b' := by
  rw [Fault.invalidOperands, Fault.invalidOperands, ha.typeName_eq, hb.typeName_eq]

theorem push_alongside {t u : RichText} (ht : t.plain = u.plain) (hb : b.Alike R b') :
    Alongside R Value.Alike (get >>= fun st => pure (.str (t.push (st.text b))) : StoreM Value)
      (get >>= fun st => pure (.str (u.push (st.text b')))) := by
  refine .getStore_bind fun hst => .of_pure (.str ?_)
  rw [RichText.plain_push, RichText.plain_push, ht, hst.text_eq hb]

theorem add_alongside (ha : a.Alike R a') (hb : b.Alike R b') :
    Alongside R Value.Alike (add a b) (add a' b') := by
  cases ha <;> cases hb
  case int.int => exact .of_pure (.int _)
  case int.float | float.int | float.float => exact .of_pure (.float _)
  case str.str ht _ _ hu =>
    refine .of_pure (.str ?_)
    rw [RichText.plain_append, RichText.plain_append, ht, hu]
  case str.int ht n => exact push_alongside ht (.int n)
  case str.float ht x => exact push_alongside ht (.float x)
  case str.bool ht q => exact push_alongside ht (.bool q)
  case list.list hx _ _ hy =>
    refine .getStore_bind fun hst => .getStore_bind fun hst' => .allocList ?_
    exact List.rel_append (hst.items hx) (hst'.items hy)
  all_goals exact .stop _

theorem arithmeticInt_alike (op : BinaryOp) (m n : Int64) :
    SameResult (Value.Alike R) (arithmeticInt op m n) (arithmeticInt op m n) := by
  unfold arithmeticInt
  split
  · exact .ok (.int _)
  · exact .ok (.int _)
  · split
    · exact .error _
    · exact .ok (.float _)
  · split
    · exact .error _
    · exact .ok (.int _)

theorem arithmeticFloat_alike (op : BinaryOp) (x y : Double) :
    SameResult (Value.Alike R) (arithmeticFloat op x y) (arithmeticFloat op x y) := by
  unfold arithmeticFloat
  split
  · exact .ok (.float _)
  · exact .ok (.float _)
  · split
    · exact .error _
    · exact .ok (.float _)
  · split
    · exact .error _
    · exact .ok (.float _)

theorem arithmetic_int (op : BinaryOp) (m n : Int64) :
    arithmetic op (.int m) (.int n) = arithmeticInt op m n := by
  cases op <;> rfl

/-- Strings are repeated by integers. -/
def Repeats (op : BinaryOp) (k l : Kind) : Prop :=
  op = .mul ∧ (k = .str ∧ l = .int ∨ k = .int ∧ l = .str)

/-- Neither two integers nor a string and how often: what is left are doubles. -/
theorem arithmetic_eq_of_kinds {op : BinaryOp} (hints : ¬ (a.kind = .int ∧ b.kind = .int))
    (hrepeats : ¬ Repeats op a.kind b.kind) :
    arithmetic op a b = match Value.promote? a b with
      | some (x, y) => arithmeticFloat op x y
      | none => .error (.invalidOperands op a b) := by
  unfold arithmetic
  split
  · exact absurd ⟨rfl, .inl ⟨rfl, rfl⟩⟩ hrepeats
  · exact absurd ⟨rfl, .inr ⟨rfl, rfl⟩⟩ hrepeats
  · exact absurd ⟨rfl, rfl⟩ hints
  · rfl

theorem arithmetic_alike (op : BinaryOp) (ha : a.Alike R a') (hb : b.Alike R b') :
    SameResult (Value.Alike R) (arithmetic op a b) (arithmetic op a' b') := by
  have hrepeat : ∀ {t u : RichText} (n : Int64), t.plain = u.plain →
      (Value.str (t.replicate n.toInt)).Alike R (.str (u.replicate n.toInt)) := by
    intro t u n ht
    refine .str ?_
    rw [RichText.plain_replicate, RichText.plain_replicate, ht]
  by_cases hints : a.kind = .int ∧ b.kind = .int
  · cases ha <;> cases hints.1
    cases hb <;> cases hints.2
    rw [arithmetic_int]
    exact arithmeticInt_alike _ _ _
  by_cases hrepeats : Repeats op a.kind b.kind
  · obtain ⟨rfl, ⟨hk, hl⟩ | ⟨hk, hl⟩⟩ := hrepeats
    · cases hb <;> cases hl
      cases ha with
      | str ht => exact .ok (hrepeat _ ht)
      | _ => cases hk
    · cases ha <;> cases hk
      cases hb with
      | str ht => exact .ok (hrepeat _ ht)
      | _ => cases hl
  rw [arithmetic_eq_of_kinds hints hrepeats]
  rw [ha.kind_eq, hb.kind_eq] at hints hrepeats
  rw [arithmetic_eq_of_kinds hints hrepeats, ha.promote?_eq hb, invalidOperands_eq op ha hb]
  split
  · exact arithmeticFloat_alike _ _ _
  · exact .error _

theorem compare?_eq (ha : a.Alike R a') (hb : b.Alike R b') : compare? a b = compare? a' b' := by
  cases ha <;> cases hb <;> try rfl
  case str.str ht _ _ hu => simp only [compare?, RichText.compare, ht, hu]

theorem occurs_map_eq {st : Store} {op : BinaryOp} {x : Nat} : occurs st op a (.map x) =
    a.mapKey.map fun k => (Store.findEntry? k (st.entries x)).isSome := by
  cases a <;> rfl

theorem isSome_findEntry?_eq {es fs : List Entry} (h : es.Forall₂ (Entry.Alike R) fs) (k : MapKey) :
    (Store.findEntry? k es).isSome = (Store.findEntry? k fs).isSome := by
  have hfound := Store.findEntry?_alike h k
  generalize Store.findEntry? k es = found at hfound ⊢
  generalize Store.findEntry? k fs = found' at hfound ⊢
  cases hfound <;> rfl

theorem occurs_eq {st st' : Store} (h : st.Twins R st') (op : BinaryOp) (ha : a.Alike R a')
    (hb : b.Alike R b') : occurs st op a b = occurs st' op a' b' := by
  have hfault := invalidOperands_eq op ha hb
  cases hb with
  | str ht =>
    have htext := h.text_eq ha
    cases ha with
    | str hu => simp only [occurs, ht, hu]
    | int n => simp only [occurs, ht, htext]
    | float x => simp only [occurs, ht, htext]
    | _ => exact congrArg Except.error hfault
  | list hy =>
    have hany : ∀ {xs ys : List Value}, xs.Forall₂ (Value.Alike R) ys →
        (xs.any fun v => st.equal v a) = ys.any fun w => st'.equal w a' := by
      intro xs ys hxs
      induction hxs with
      | nil => rfl
      | cons hvw _ ih => rw [List.any_cons, List.any_cons, ih, h.equal_eq hvw ha]
    have hitems := hany (h.items hy)
    cases ha <;> exact congrArg Except.ok hitems
  | map hy =>
    rw [occurs_map_eq, occurs_map_eq, ha.mapKey_eq]
    simp only [isSome_findEntry?_eq (h.entries hy)]
  | _ => cases ha <;> exact congrArg Except.error hfault

/-- Comparing operators decide by the order of the operands, and fail where these have none. -/
theorem binary_eq_elim {op : BinaryOp} (hop : op = .gt ∨ op = .ge ∨ op = .lt ∨ op = .le)
    (a b : Value) : binary op a b = (compare? a b).elim (throw (.invalidOperands op a b)) fun o =>
      pure (.bool (decideOrder op o)) := by
  obtain rfl | rfl | rfl | rfl := hop <;> unfold binary <;> cases compare? a b <;> rfl

/-- **Operators see plain text.** -/
theorem binary_alongside (op : BinaryOp) (ha : a.Alike R a') (hb : b.Alike R b') :
    Alongside R Value.Alike (binary op a b) (binary op a' b') := by
  have hcompare : ∀ {op : BinaryOp}, op = .gt ∨ op = .ge ∨ op = .lt ∨ op = .le →
      Alongside R Value.Alike (binary op a b) (binary op a' b') := by
    intro op hop
    rw [binary_eq_elim hop, binary_eq_elim hop, compare?_eq ha hb, invalidOperands_eq op ha hb]
    cases compare? a' b' with
    | some o => exact .of_pure (.bool _)
    | none => exact .stop _
  have hequal : ∀ f : Bool → Bool, Alongside R Value.Alike
      (get >>= fun st => pure (.bool (f (st.equal a b))) : StoreM Value)
      (get >>= fun st => pure (.bool (f (st.equal a' b')))) := by
    intro f
    refine .getStore_bind fun hst => .of_pure ?_
    rw [hst.equal_eq ha hb]
    exact .bool _
  have hoccurs : ∀ (op : BinaryOp) (f : Bool → Bool), Alongside R Value.Alike
      (get >>= fun st => StoreM.ofExcept (occurs st op a b) >>= fun r => pure (.bool (f r)) :
        StoreM Value)
      (get >>= fun st => StoreM.ofExcept (occurs st op a' b') >>= fun r => pure (.bool (f r))) := by
    intro op f
    refine .getStore_bind fun hst => ?_
    rw [occurs_eq hst op ha hb]
    refine .bind (.ofExcept (Q := fun _ => Eq) (.refl _)) fun _ heq => .of_pure ?_
    rw [heq]
    exact .bool _
  cases op with
  | add => exact add_alongside ha hb
  | sub => exact .ofExcept (arithmetic_alike .sub ha hb)
  | mul => exact .ofExcept (arithmetic_alike .mul ha hb)
  | div => exact .ofExcept (arithmetic_alike .div ha hb)
  | mod => exact .ofExcept (arithmetic_alike .mod ha hb)
  | gt => exact hcompare (by simp)
  | ge => exact hcompare (by simp)
  | lt => exact hcompare (by simp)
  | le => exact hcompare (by simp)
  | eq => exact hequal id
  | ne => exact hequal not
  | isIn => exact hoccurs .isIn id
  | notIn => exact hoccurs .notIn not
  | and =>
    refine .getStore_bind fun hst => .of_pure ?_
    rw [hst.isTruthy_eq ha]
    split
    · exact hb
    · exact ha
  | or =>
    refine .getStore_bind fun hst => .of_pure ?_
    rw [hst.isTruthy_eq ha]
    split
    · exact ha
    · exact hb

end Operator

/-! ## Indexing and slicing -/

namespace Store

/-- **Indexing sees plain text.** -/
theorem index_alike {st st' : Store} (h : st.Twins R st') (ha : a.Alike R a') (hb : b.Alike R b') :
    SameResult (Value.Alike R) (st.index a b) (st'.index a' b') := by
  cases ha with
  | @list x y hx =>
    have hitems := h.items hx
    simp only [index, hb.requireInt_eq, hitems.length_eq]
    refine .same_bind _ fun i => .same_bind _ fun n => ?_
    have hfound := rel_getElem? hitems n
    generalize (st.items x)[n]? = found at hfound ⊢
    generalize (st'.items y)[n]? = found' at hfound ⊢
    cases hfound with
    | none => exact .error _
    | some hvw => exact .ok hvw
  | @str t u ht =>
    simp only [index, hb.requireInt_eq, RichText.length_eq_of_plain_eq ht]
    refine .same_bind _ fun i => .same_bind _ fun n => ?_
    have hchar : (t.charAt? n).map RichText.plain = (u.charAt? n).map RichText.plain := by
      rw [RichText.map_plain_charAt?, RichText.map_plain_charAt?, ht]
    generalize t.charAt? n = c at hchar ⊢
    generalize u.charAt? n = d at hchar ⊢
    cases c <;> cases d
    · exact .error _
    · cases hchar
    · cases hchar
    · exact .ok (.str (Option.some.inj hchar))
  | @map x y hx =>
    simp only [index, hb.mapKey_eq, h.text_eq hb]
    refine .same_bind _ fun k => ?_
    have hfound := findEntry?_alike (h.entries hx) k
    generalize findEntry? k (st.entries x) = found at hfound ⊢
    generalize findEntry? k (st'.entries y) = found' at hfound ⊢
    cases hfound with
    | none => exact .error _
    | some hef => exact .ok hef.value
  | _ => exact .error _

/-- **Slicing sees plain text.** -/
theorem slice_alongside (start stop : Option Int64) (ha : a.Alike R a') :
    Alongside R Value.Alike (slice a start stop) (slice a' start stop) := by
  cases ha with
  | list hx =>
    refine .getStore_bind fun hst => ?_
    have hitems := hst.items hx
    dsimp only
    rw [hitems.length_eq]
    exact .allocList (List.forall₂_drop _ (List.forall₂_take _ hitems))
  | str ht =>
    refine .of_pure (.str ?_)
    rw [RichText.plain_slice, RichText.plain_slice, RichText.length_eq_of_plain_eq ht, ht]
  | _ => exact .stop _

end Store

/-! ## Computations on the machine -/

namespace Run

variable {α β : Type} {Q : Pairing → α → α → Prop} {x y : Run α}

theorem getMachine_bind {f g : Machine → Run α}
    (hf : ∀ {m m' : Machine}, m.store.Twins R m'.store → Alongside R Q (f m) (g m')) :
    Alongside R Q (get >>= f) (get >>= g) :=
  .get_bind hf

theorem fail_alongside (f : Fault) : Alongside R Q (fail f : Run α) (fail f) :=
  fun _ _ hst => .error le_rfl hst

/-- Results found without the machine, and what follows them. -/
theorem ensure_bind {P : α → α → Prop} {Q : Pairing → β → β → Prop} {r r' : Except Fault α}
    {f g : α → Run β} (h : SameResult P r r') (hf : ∀ {a b}, P a b → Alongside R Q (f a) (g b)) :
    Alongside R Q (ensure r >>= f) (ensure r' >>= g) := by
  cases h with
  | ok hab => exact hf hab
  | error f => exact fun _ _ hst => .error le_rfl hst

theorem ofStore_alongside {x y : StoreM α} (h : Alongside R Q x y) :
    Alongside R Q (ofStore x) (ofStore y) := by
  intro m m' hst
  have hxy := h m.store m'.store hst
  unfold ofStore
  dsimp only
  generalize x m.store = r at hxy ⊢
  generalize y m'.store = r' at hxy ⊢
  cases hxy with
  | ok hS hst hab => exact .ok hS hst hab
  | error hS hst => exact .error hS hst

theorem atSpan_alongside (span : Option Span) (h : Alongside R Q x y) :
    Alongside R Q (atSpan span x) (atSpan span y) := by
  intro m m' hst
  have hxy := h m m' hst
  unfold atSpan
  generalize x m = r at hxy ⊢
  generalize y m' = r' at hxy ⊢
  cases hxy with
  | ok hS hst hab => exact .ok hS hst hab
  | @error _ s _ _ hS hst => cases s <;> exact .error hS hst

theorem attempt_alongside (h : Alongside R Q x y) :
    Alongside R (fun S => SameResult (Q S)) (attempt x) (attempt y) := by
  intro m m' hst
  have hxy := h m m' hst
  unfold attempt
  generalize x m = r at hxy ⊢
  generalize y m' = r' at hxy ⊢
  cases hxy with
  | ok hS hst hab => exact .ok hS hst (.ok hab)
  | @error _ s _ _ hS hst =>
    cases s with
    | unwind u => exact .ok hS hst (.error u)
    | crash message => exact .error hS hst
    | outOfFuel => exact .error hS hst

end Run
end TableScript
