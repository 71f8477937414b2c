import TableScript.Eval.Builtins
import TableScript.Proofs.Value.Bisimilarity
import TableScript.Proofs.Value.Order
import TableScript.Proofs.Value.Slots

/-!
# Equality, keys and order of numbers

Numbers are compared in three places: operators turn an integer into the nearest double, keys of
maps and the order of sorting take it as it is. They differ only where rounding shows.

1. `RoundsTo`: a double is the nearest one to an integer, but not the integer itself. This happens
   beyond `2 ^ 53` only (`RoundsTo.lt_natAbs`);
2. two values with the same key are equal. Equal values have the same key unless one of them rounds
   to the other, or they are the least integer and the double that it is (`same_key_iff`);
3. the comparison operators say what the order says, unless one operand rounds to the other, where
   they say that the operands are equal (`operators_follow_order`).
-/

namespace TableScript

variable {n : Int64} {x y : Double} {a b : Value}

theorem Int64.natAbs_toInt_lt_iff : n.toInt.natAbs < 2 ^ 63 ↔ n ≠ Int64.minValue := by
  have hlow := n.le_toInt
  have hhigh := n.toInt_lt
  have hmin : n = Int64.minValue ↔ n.toInt = -2 ^ 63 := Int64.toInt_inj.symm
  rw [Ne, hmin]
  omega

theorem Value.isNaN_doubleOfInt (n : Int64) : (doubleOfInt n).isNaN = false :=
  Double.not_isNaN (Double.isFinite_ofInt (Int64.natAbs_toInt_le n))

/-- A double is the nearest one to an integer, but not the integer itself. -/
def RoundsTo (n : Int64) (x : Double) : Prop :=
  (Value.doubleOfInt n).sameNumber x = true ∧ NumberRank.ofDouble x ≠ .ofInt n

/-- A double equals an integer that it is or that rounds to it. -/
theorem sameNumber_doubleOfInt_iff : (Value.doubleOfInt n).sameNumber x = true ↔
    NumberRank.ofDouble x = .ofInt n ∨ RoundsTo n x := by
  by_cases hplace : NumberRank.ofDouble x = .ofInt n
  · refine iff_of_true ?_ (.inl hplace)
    have hx := Double.isNaN_eq_false_of_ofDouble hplace
    rw [Double.sameNumber_iff_ofDouble_eq (Value.isNaN_doubleOfInt n) hx]
    exact Double.ofDouble_ofInt_of_eq (Int64.natAbs_toInt_le n) hplace
  · exact ⟨fun h => .inr ⟨h, hplace⟩, fun h => (h.resolve_left hplace).1⟩

/-- Small integers are doubles, so only large ones round to another number. -/
theorem RoundsTo.lt_natAbs (h : RoundsTo n x) : 2 ^ 53 < n.toInt.natAbs := by
  by_contra hle
  refine h.2 ?_
  have hx : x.isNaN = false := ((Double.sameNumber_iff _ _).1 h.1).2.1
  rw [← (Double.sameNumber_iff_ofDouble_eq (Value.isNaN_doubleOfInt n) hx).1 h.1]
  exact Double.ofDouble_ofInt_of_le (Nat.le_of_not_lt hle)

/-! ## Keys -/

/-- The integer a double is, by its place in the order. -/
theorem Double.toInt?_eq_some_iff {k : Int} :
    x.toInt? = some k ↔ NumberRank.ofDouble x = .finite (k * one) := by
  have hone : (one : Int) ≠ 0 := Int.natCast_ne_zero.2 (Nat.ne_of_gt one_pos)
  rw [← units?_eq_some_iff, toInt?]
  cases x.units? with
  | none => exact iff_of_false nofun nofun
  | some u =>
    change (if u % one = 0 then some (u / one) else none) = some k ↔ some u = some (k * one)
    generalize (one : Int) = unit at hone
    rw [Option.some.injEq]
    constructor
    · intro h
      split at h
      · rename_i hmod
        rw [← Option.some.inj h, Int.ediv_mul_cancel (Int.dvd_of_emod_eq_zero hmod)]
      · cases h
    · rintro rfl
      rw [if_pos (Int.mul_emod_left k unit), Int.mul_ediv_cancel k hone]

namespace Value

/-- A double has the key of the integer that it is, but for the least integer. -/
theorem floatKey_eq_int_iff :
    floatKey x = .int n ↔ NumberRank.ofDouble x = .ofInt n ∧ n ≠ Int64.minValue := by
  have hplace : NumberRank.ofDouble x = .ofInt n ↔ x.toInt? = some n.toInt :=
    Double.toInt?_eq_some_iff.symm
  rw [hplace, floatKey]
  cases x.toInt? with
  | none => exact iff_of_false nofun fun h => nomatch h.1
  | some k =>
    rw [Option.some.injEq]
    by_cases hk : k.natAbs < 2 ^ 63
    · have hword : (Int64.ofInt k).toInt = k := Int64.toInt_ofInt_of_le (by omega) (by omega)
      simp only [Nat.pow_eq, if_pos hk, MapKey.int.injEq]
      constructor
      · rintro rfl
        rw [hword, ← Int64.natAbs_toInt_lt_iff, hword]
        exact ⟨rfl, hk⟩
      · rintro ⟨rfl, -⟩
        exact Int64.ofInt_toInt n
    · simp only [Nat.pow_eq, if_neg hk]
      refine iff_of_false nofun ?_
      rintro ⟨rfl, hmin⟩
      exact hk (Int64.natAbs_toInt_lt_iff.2 hmin)

/-- A double has the key of an integer or a key of its own. -/
theorem floatKey_eq_or (x : Double) : (∃ n, floatKey x = .int n) ∨ floatKey x = .float x := by
  unfold floatKey
  split
  · split
    · exact .inl ⟨_, rfl⟩
    · exact .inr rfl
  · exact .inr rfl

theorem floatKey_ne {k : MapKey} (hint : ∀ n, k ≠ .int n) (hfloat : ∀ y, k ≠ .float y) :
    floatKey x ≠ k := by
  rintro rfl
  obtain ⟨n, hn⟩ | hown := floatKey_eq_or x
  · exact hint n hn
  · exact hfloat x hown

theorem floatKey_of_isZero (h : x.isZero = true) : floatKey x = .int 0 := by
  have hbits : x.magnitudeBits = 0 := of_decide_eq_true h
  have hfield : x.exponentField = 0 := by rw [Double.exponentField, hbits, Nat.zero_div]
  have hfinite : x.isFinite := by simp [Double.isFinite, hfield]
  have hmagnitude : x.magnitude = 0 := by
    rw [Double.magnitude, Double.significand, if_pos hfield, Double.fraction, hbits, Nat.zero_mod,
      Nat.zero_mul]
  refine floatKey_eq_int_iff.2 ⟨?_, by decide⟩
  rw [Double.ofDouble_of_isFinite hfinite, hmagnitude, NumberRank.ofInt, Int64.toInt_zero,
    Int.zero_mul]
  cases x.sign <;> rfl

/-- Doubles have the same key exactly when they are the same number. -/
theorem floatKey_eq_floatKey_iff (hy : y.isNaN = false) :
    floatKey x = floatKey y ↔ x.sameNumber y = true := by
  constructor
  · intro h
    obtain ⟨n, hn⟩ | hown := floatKey_eq_or y
    · have hx := (floatKey_eq_int_iff.1 (h.trans hn)).1
      have hy := (floatKey_eq_int_iff.1 hn).1
      rw [Double.sameNumber_iff_ofDouble_eq (Double.isNaN_eq_false_of_ofDouble hx)
        (Double.isNaN_eq_false_of_ofDouble hy), hx, hy]
    · obtain ⟨n, hn⟩ | hown' := floatKey_eq_or x
      · cases hn.symm.trans (h.trans hown)
      · obtain rfl : x = y := MapKey.float.inj (hown'.symm.trans (h.trans hown))
        exact Double.sameNumber_self hy
  · intro h
    obtain ⟨hx, -, rfl | ⟨hzero, hzero'⟩⟩ := (Double.sameNumber_iff x y).1 h
    · rfl
    · rw [floatKey_of_isZero hzero, floatKey_of_isZero hzero']

/-- Equal numbers with different keys: an integer that rounds to a double, and the least integer,
which no double has for its key. -/
def KeyedApart : Value → Value → Prop
  | int n, float x | float x, int n =>
    RoundsTo n x ∨ n = Int64.minValue ∧ NumberRank.ofDouble x = .ofInt n
  | _, _ => False

theorem int_key_iff : floatKey x = .int n ↔ (doubleOfInt n).sameNumber x = true ∧
    ¬(RoundsTo n x ∨ n = Int64.minValue ∧ NumberRank.ofDouble x = .ofInt n) := by
  rw [floatKey_eq_int_iff, sameNumber_doubleOfInt_iff]
  have hne : RoundsTo n x → NumberRank.ofDouble x ≠ .ofInt n := And.right
  tauto

/-- Two values that can be keys have the same key when they are equal and not keyed apart. -/
theorem mapKey_eq_iff {k l : MapKey} (ha : a.mapKey = .ok k) (hb : b.mapKey = .ok l)
    (hnan : b.isNaN = false) : k = l ↔ Store.leafEqual a b = true ∧ ¬ KeyedApart a b := by
  cases a <;> cases b <;> simp only [mapKey, reduceCtorEq, Except.ok.injEq] at ha hb <;>
    subst ha hb
  case int.int => simp [Store.leafEqual, KeyedApart]
  case int.float => exact eq_comm.trans int_key_iff
  case float.int => exact int_key_iff
  case float.float => simpa [Store.leafEqual, KeyedApart] using floatKey_eq_floatKey_iff hnan
  case str.str => simp [Store.leafEqual, KeyedApart]
  case bool.bool => simp [Store.leafEqual, KeyedApart]
  case error.error => simp [Store.leafEqual, KeyedApart]
  case float.str | float.bool | float.error =>
    exact iff_of_false (floatKey_ne (by simp) (by simp)) (by simp [Store.leafEqual])
  case str.float | bool.float | error.float =>
    exact iff_of_false (floatKey_ne (by simp) (by simp)).symm (by simp [Store.leafEqual])
  -- the kinds of all others differ, and so do their keys
  all_goals simp [Store.leafEqual]

theorem KeyedApart.leafEqual (h : KeyedApart a b) : Store.leafEqual a b = true := by
  cases a <;> cases b <;> simp only [KeyedApart] at h
  · exact sameNumber_doubleOfInt_iff.2 (h.elim .inr fun h => .inl h.2)
  · exact sameNumber_doubleOfInt_iff.2 (h.elim .inr fun h => .inl h.2)

/-- Values that are not both containers are compared at once. -/
theorem equal_eq_leafEqual (st : Store) {k : MapKey} (hb : b.mapKey = .ok k) :
    st.equal a b = Store.leafEqual a b := by
  cases a <;> cases b <;> first | rfl | cases hb

end Value

/-- The keys of a map are a list of what they were last written as. -/
theorem Builtin.call_keys (m : Machine) (map : Nat) :
    Builtin.keys.call { args := [.map map] } m =
      .ok [.list m.store.lists.size] { m with
        store := { m.store with
          lists := m.store.lists.push ((m.store.entries map).map Entry.written) } } :=
  rfl

theorem Operator.binary_isIn {st : Store} {r : Bool} (h : occurs st .isIn a b = .ok r) :
    binary .isIn a b st = .ok (.bool r) st := by
  change EStateM.bind (StoreM.ofExcept (occurs st .isIn a b)) _ st = _
  rw [h]
  rfl

/-- A value occurs in a map when an entry has its key. -/
theorem Operator.occurs_map {st : Store} {map : Nat} {k : MapKey} (h : a.mapKey = .ok k) :
    occurs st .isIn a (.map map) = .ok (decide (∃ e ∈ st.entries map, e.key = k)) := by
  have hfound : (Store.findEntry? k (st.entries map)).isSome =
      decide (∃ e ∈ st.entries map, e.key = k) := by
    rw [Bool.eq_iff_iff, Store.findEntry?, List.find?_isSome]
    simp
  cases a <;> first | (rw [← hfound]; cases h; rfl) | cases h

/-- A value occurs among the keys of a map when its key is there or an entry is keyed apart. -/
theorem any_equal_iff {st : Store} {es : List Entry} {k : MapKey}
    (hkeys : ∀ e ∈ es, e.written.mapKey = .ok e.key) (hb : b.mapKey = .ok k)
    (hnan : b.isNaN = false) : ((es.map Entry.written).any fun w => st.equal w b) = true ↔
      (∃ e ∈ es, e.key = k) ∨ ∃ e ∈ es, e.written.KeyedApart b := by
  have hequal : ∀ e ∈ es, st.equal e.written b = true ↔ e.key = k ∨ e.written.KeyedApart b := by
    intro e he
    have hsame := Value.mapKey_eq_iff (hkeys e he) hb hnan
    have hapart := Value.KeyedApart.leafEqual (a := e.written) (b := b)
    rw [Value.equal_eq_leafEqual st hb]
    tauto
  rw [List.any_map, List.any_eq_true]
  constructor
  · rintro ⟨e, he, h⟩
    exact ((hequal e he).1 h).imp (⟨e, he, ·⟩) (⟨e, he, ·⟩)
  · rintro (⟨e, he, h⟩ | ⟨e, he, h⟩)
    · exact ⟨e, he, (hequal e he).2 (.inl h)⟩
    · exact ⟨e, he, (hequal e he).2 (.inr h)⟩

/-- **Keys and equality.** Of two values that can be keys, neither of them NaN, the same key means
that they are equal, and equal values have the same key unless they are keyed apart. So a value that
is in a map is among the keys of the map, and one among the keys is in the map unless a key is keyed
apart from it. This takes that entries are kept under the keys of what they were written as, and
writing into a map keeps it so. -/
theorem same_key_iff (m : Machine) (a b : Value) (k l : MapKey) (ha : a.mapKey = .ok k)
    (hb : b.mapKey = .ok l) (hnan : a.isNaN = false) (hnan' : b.isNaN = false) :
    (k = l ↔ m.store.equal a b = true ∧ ¬ a.KeyedApart b) ∧
    (a.KeyedApart b → m.store.equal a b = true) ∧
    (∀ map, m.store.KeysHashed → ∃ (list : Nat) (m' : Machine) (inMap inKeys : Bool),
      Builtin.keys.call { args := [.map map] } m = .ok [.list list] m' ∧
      Operator.binary .isIn a (.map map) m'.store = .ok (.bool inMap) m'.store ∧
      Operator.binary .isIn a (.list list) m'.store = .ok (.bool inKeys) m'.store ∧
      (inKeys = true ↔ inMap = true ∨ ∃ e ∈ m.store.entries map, e.written.KeyedApart a)) ∧
    ∀ (st st' : Store) (map : Nat) (value : Value), st.KeysHashed →
      Store.insert map a value st = .ok () st' → st'.KeysHashed := by
  rw [Value.equal_eq_leafEqual m.store hb]
  refine ⟨Value.mapKey_eq_iff ha hb hnan', Value.KeyedApart.leafEqual, fun map hkeys => ?_,
    fun st st' map value => Store.KeysHashed.insert⟩
  refine ⟨_, _, _, _, Builtin.call_keys m map, Operator.binary_isIn (Operator.occurs_map ha),
    Operator.binary_isIn rfl, ?_⟩
  have hitems : ({ m.store with
      lists := m.store.lists.push ((m.store.entries map).map Entry.written) } : Store).items
        m.store.lists.size = (m.store.entries map).map Entry.written := by
    simp [Store.items, Array.getD]
  rw [hitems, decide_eq_true_iff]
  exact any_equal_iff (fun e he => hkeys.mapKey_written he) ha hnan

/-- A store with a map of one key, an integer. -/
def keyedBy (n : Int64) : Store where
  maps := #[[⟨.int n, .int n, .null⟩]]

theorem keysHashed_keyedBy (n : Int64) : (keyedBy n).KeysHashed := by
  simp [Store.KeysHashed, keyedBy, Value.mapKey]

/-- Two as a double is equal to the integer two, whose key it has; `2 ^ 53` as a double is among the
keys of a map with the key `2 ^ 53 + 1`; and a map can be written into. -/
theorem same_key_iff_two :
    (keyedBy 2).equal (.float ⟨0x4000000000000000⟩) (.int 2) = true ∧
    (∃ (list : Nat) (m' : Machine),
      Builtin.keys.call { args := [.map 0] } { store := keyedBy 9007199254740993 } =
        .ok [.list list] m' ∧
      Operator.binary .isIn (.float ⟨0x4340000000000000⟩) (.list list) m'.store =
        .ok (.bool true) m'.store) ∧
    ∃ st', Store.insert 0 (.bool true) .null (keyedBy 2) = .ok () st' ∧ st'.KeysHashed := by
  have htwo := same_key_iff { store := keyedBy 2 } (.float ⟨0x4000000000000000⟩) (.int 2) _ _
    rfl rfl (by decide +kernel) rfl
  have hlarge := same_key_iff { store := keyedBy 9007199254740993 } (.float ⟨0x4340000000000000⟩)
    (.int 0) _ _ rfl rfl (by decide +kernel) rfl
  have hwrite := same_key_iff {} (.bool true) (.bool true) _ _ rfl rfl rfl rfl
  refine ⟨(htwo.1.1 (by decide +kernel)).1, ?_, _, rfl,
    hwrite.2.2.2 _ _ 0 .null (keysHashed_keyedBy 2) rfl⟩
  obtain ⟨list, m', inMap, inKeys, hcall, -, hin, hiff⟩ := hlarge.2.2.1 0 (keysHashed_keyedBy _)
  have hapart : (Value.int 9007199254740993).KeyedApart (.float ⟨0x4340000000000000⟩) :=
    .inl ⟨by decide +kernel, by decide +kernel⟩
  have htrue := hiff.2 (.inr ⟨_, List.mem_singleton_self _, hapart⟩)
  exact ⟨list, m', hcall, htrue ▸ hin⟩

/-- The least integer equals the double that it is, and has another key. So the double is among the
keys of a map that it is not in. -/
theorem least_integer_keyed_apart :
    (∃ k l, (Value.int Int64.minValue).mapKey = .ok k ∧
      (Value.float ⟨0xc3e0000000000000⟩).mapKey = .ok l ∧ k ≠ l) ∧
    (keyedBy Int64.minValue).equal (.int Int64.minValue) (.float ⟨0xc3e0000000000000⟩) = true ∧
    ∃ (list : Nat) (m' : Machine),
      Builtin.keys.call { args := [.map 0] } { store := keyedBy Int64.minValue } =
        .ok [.list list] m' ∧
      Operator.binary .isIn (.float ⟨0xc3e0000000000000⟩) (.list list) m'.store =
        .ok (.bool true) m'.store ∧
      Operator.binary .isIn (.float ⟨0xc3e0000000000000⟩) (.map 0) m'.store =
        .ok (.bool false) m'.store := by
  refine ⟨⟨_, _, rfl, rfl, by decide +kernel⟩, by decide +kernel, _, _, Builtin.call_keys _ 0, ?_,
    ?_⟩
  · exact Operator.binary_isIn (congrArg Except.ok (by decide +kernel))
  · exact Operator.binary_isIn (congrArg Except.ok (by decide +kernel))

/-! ## Order -/

namespace Value

/-- Two numbers, neither of them NaN, or two strings. -/
def Comparable (a b : Value) : Prop :=
  (TypeSet.number.accepts a.kind ∧ TypeSet.number.accepts b.kind ∧
    a.isNaN = false ∧ b.isNaN = false) ∨ a.kind = .str ∧ b.kind = .str

/-- One value is an integer that rounds to the other. -/
def OneRounds : Value → Value → Prop
  | int n, float x | float x, int n => RoundsTo n x
  | _, _ => False

/-- What the operators make of two operands whose order is `e`: they see the order `o`, which is `e`
unless one operand rounds to the other, and then say that the operands are equal. -/
structure Seen (equal : Bool) (rounds : Prop) (e o : Ordering) : Prop where
  equal_eq : equal = (o == .eq)
  rounded : rounds → o = .eq ∧ e ≠ .eq
  exact : ¬ rounds → o = e

theorem Seen.swap {equal : Bool} {rounds : Prop} {e o : Ordering} (h : Seen equal rounds e o) :
    Seen equal rounds e.swap o.swap := by
  refine ⟨?_, fun hr => ?_, fun hr => congrArg Ordering.swap (h.exact hr)⟩
  · rw [h.equal_eq]
    cases o <;> rfl
  · obtain ⟨rfl, hne⟩ := h.rounded hr
    refine ⟨rfl, ?_⟩
    cases e <;> first | exact absurd rfl hne | exact nofun

/-- An integer and a double, both seen as doubles. -/
theorem seen_doubleOfInt (n : Int64) (hx : x.isNaN = false) :
    Seen ((doubleOfInt n).sameNumber x) (RoundsTo n x)
      ((NumberRank.ofInt n).compare (.ofDouble x))
      ((NumberRank.ofDouble (doubleOfInt n)).compare (.ofDouble x)) := by
  have hsame := Double.sameNumber_iff_ofDouble_eq (isNaN_doubleOfInt n) hx
  have hcompare : (NumberRank.ofDouble (doubleOfInt n)).compare (.ofDouble x) =
      if NumberRank.ofDouble (doubleOfInt n) = .ofDouble x then .eq
      else (NumberRank.ofInt n).compare (.ofDouble x) :=
    Double.compare_ofInt (Int64.natAbs_toInt_le n) hx
  refine ⟨?_, fun hr => ⟨?_, fun heq => ?_⟩, fun hr => ?_⟩
  · rw [Bool.eq_iff_iff, hsame, beq_iff_eq, NumberRank.compare_eq_eq_iff]
  · exact NumberRank.compare_eq_eq_iff.2 (hsame.1 hr.1)
  · exact hr.2 (NumberRank.compare_eq_eq_iff.1 heq).symm
  · rw [hcompare]
    split
    · rename_i heq
      have hplace : NumberRank.ofDouble x = .ofInt n :=
        (sameNumber_doubleOfInt_iff.1 (hsame.2 heq)).resolve_right hr
      exact (NumberRank.compare_eq_eq_iff.2 hplace.symm).symm
    · rfl

theorem compare?_int_float (n : Int64) (x : Double) :
    Operator.compare? (int n) (float x) = (doubleOfInt n).compare? x := by
  have hpromote : promote? (int n) (float x) = some (doubleOfInt n, x) := rfl
  unfold Operator.compare?
  dsimp only
  rw [hpromote, Option.bind_some]

theorem compare?_float_int (x : Double) (n : Int64) :
    Operator.compare? (float x) (int n) = x.compare? (doubleOfInt n) := by
  have hpromote : promote? (float x) (int n) = some (x, doubleOfInt n) := rfl
  unfold Operator.compare?
  dsimp only
  rw [hpromote, Option.bind_some]

/-- The comparison operators and equality, by the kinds of the operands. -/
theorem exists_seen (h : Comparable a b) : ∃ o, Operator.compare? a b = some o ∧
    Seen (Store.leafEqual a b) (OneRounds a b) (a.order b) o := by
  cases a <;> cases b <;>
    simp [Comparable, kind, TypeSet.accepts, TypeSet.number, TypeSet.isAny, isNaN] at h
  case int.int m n =>
    rw [order_of_rank? rfl rfl]
    refine ⟨_, rfl, ?_, nofun, fun _ => rfl⟩
    rw [Bool.eq_iff_iff, beq_iff_eq, Std.LawfulEqCmp.compare_eq_iff_eq, Int64.toInt_inj]
    exact decide_eq_true_iff
  case int.float n x =>
    rw [order_of_rank? rfl rfl, compareAlike_number rfl rfl, compare?_int_float,
      Double.compare?_eq (isNaN_doubleOfInt n) h]
    exact ⟨_, rfl, seen_doubleOfInt n h⟩
  case float.int x n =>
    have hswap := (seen_doubleOfInt n h).swap
    rw [NumberRank.swap_compare, NumberRank.swap_compare] at hswap
    rw [order_of_rank? rfl rfl, compareAlike_number rfl rfl, compare?_float_int,
      Double.compare?_eq h (isNaN_doubleOfInt n)]
    exact ⟨_, rfl, hswap⟩
  case float.float x y =>
    have hsame := Double.sameNumber_iff_ofDouble_eq h.1 h.2
    rw [order_of_rank? rfl rfl, compareAlike_number rfl rfl]
    refine ⟨_, Double.compare?_eq h.1 h.2, ?_, nofun, fun _ => rfl⟩
    rw [Bool.eq_iff_iff, beq_iff_eq, NumberRank.compare_eq_eq_iff, ← hsame]
    rfl
  case str.str t u =>
    rw [order_of_rank? rfl rfl]
    refine ⟨_, rfl, ?_, nofun, fun _ => rfl⟩
    rw [Bool.eq_iff_iff, beq_iff_eq, RichText.compare, Std.LawfulEqCmp.compare_eq_iff_eq]
    exact decide_eq_true_iff

theorem Comparable.mapKey_right (h : Comparable a b) : ∃ k, b.mapKey = .ok k := by
  cases a <;> cases b <;>
    simp [Comparable, kind, TypeSet.accepts, TypeSet.number, TypeSet.isAny, isNaN] at h <;>
    exact ⟨_, rfl⟩

theorem OneRounds.lt_natAbs (h : OneRounds a b) (hn : a = int n ∨ b = int n) :
    2 ^ 53 < n.toInt.natAbs := by
  cases a <;> cases b <;> simp only [OneRounds] at h <;> obtain hn | hn := hn <;> cases hn
  · exact h.lt_natAbs
  · exact h.lt_natAbs

end Value

theorem Operator.binary_compare {op : BinaryOp} {o : Ordering} (st : Store)
    (hop : op = .lt ∨ op = .gt) (h : compare? a b = some o) :
    binary op a b st = .ok (.bool (decideOrder op o)) st := by
  obtain rfl | rfl := hop <;> unfold binary <;> dsimp only <;> rw [h] <;> rfl

/-- **Operators and order.** Of two numbers that are not NaN, and of two strings, exactly one is
true: that the first is less, that they are equal, that it is greater. It is the one that the order
of sorting gives, unless one of them is an integer that rounds to the other, which it can only be
beyond `2 ^ 53`: then they count as equal, while the order tells them apart. -/
theorem operators_follow_order (st : Store) (a b : Value) (h : a.Comparable b) : ∃ o,
    Operator.binary .lt a b st = .ok (.bool (o == .lt)) st ∧
    Operator.binary .eq a b st = .ok (.bool (o == .eq)) st ∧
    Operator.binary .gt a b st = .ok (.bool (o == .gt)) st ∧
    (¬ a.OneRounds b → o = a.order b) ∧
    (a.OneRounds b → o = .eq ∧ a.order b ≠ .eq ∧
      ∀ n, a = .int n ∨ b = .int n → 2 ^ 53 < n.toInt.natAbs) := by
  obtain ⟨o, ho, hseen⟩ := Value.exists_seen h
  obtain ⟨k, hk⟩ := h.mapKey_right
  have hequal : Operator.binary .eq a b st = .ok (.bool (st.equal a b)) st := rfl
  refine ⟨o, ?_, ?_, ?_, hseen.exact, fun hr => ?_⟩
  · rw [Operator.binary_compare st (.inl rfl) ho]
    cases o <;> rfl
  · rw [hequal, Value.equal_eq_leafEqual st hk, hseen.equal_eq]
  · rw [Operator.binary_compare st (.inr rfl) ho]
    cases o <;> rfl
  · obtain ⟨heq, hne⟩ := hseen.rounded hr
    exact ⟨heq, hne, fun _ hn => hr.lt_natAbs hn⟩

/-- The integer one and one half as a double are told apart by all three. -/
theorem operators_follow_order_half :
    Operator.binary .gt (.int 1) (.float ⟨0x3fe0000000000000⟩) {} = .ok (.bool true) {} := by
  have hcomparable : (Value.int 1).Comparable (.float ⟨0x3fe0000000000000⟩) :=
    .inl ⟨rfl, rfl, rfl, by decide +kernel⟩
  obtain ⟨o, -, -, hgt, hexact, -⟩ := operators_follow_order {} _ _ hcomparable
  have hrounds : ¬ (Value.int 1).OneRounds (.float ⟨0x3fe0000000000000⟩) := by
    intro h
    exact absurd h.1 (by decide +kernel)
  have ho : o = .gt := (hexact hrounds).trans (by decide +kernel)
  rw [hgt, ho]
  rfl

/-- The operators take `2 ^ 53 + 1` and `2 ^ 53` as a double for equal, and the order does not. -/
theorem operators_round_large_integers :
    Operator.binary .eq (.int 9007199254740993) (.float ⟨0x4340000000000000⟩) {} =
      .ok (.bool true) {} ∧
    Operator.binary .gt (.int 9007199254740993) (.float ⟨0x4340000000000000⟩) {} =
      .ok (.bool false) {} ∧
    (Value.int 9007199254740993).order (.float ⟨0x4340000000000000⟩) = .gt := by
  have hequal : ({} : Store).equal (.int 9007199254740993) (.float ⟨0x4340000000000000⟩) = true :=
    by decide +kernel
  have hcompare : Operator.compare? (.int 9007199254740993) (.float ⟨0x4340000000000000⟩) =
      some .eq := by
    decide +kernel
  refine ⟨?_, Operator.binary_compare {} (.inr rfl) hcompare, by decide +kernel⟩
  change EStateM.Result.ok (Value.bool (({} : Store).equal _ _)) _ = _
  rw [hequal]

end TableScript
