import TableScript.Proofs.Value.Contents
import TableScript.Value.Index

/-!
# Slots of containers

An index selects a slot: an element of a list, an entry of a map or a character of a text. Reading
by an index is reading what its slot holds (`index_eq_ok_iff`), writing by an index is writing to
its slot (`setIndex_eq_ok`), and a write changes what one slot holds (`held_put_self`,
`held_put_of_ne`). Writing into a map keeps what maps are kept to (`Keyed.insert`).
-/

namespace TableScript

/-- A resolved index lies inside. -/
theorem lt_of_resolveIndex {i : Int64} {length n : Nat} (h : resolveIndex i length = .ok n) :
    n < length := by
  unfold resolveIndex at h
  extract_lets position at h
  split at h
  · rename_i hinside
    obtain rfl := Except.ok.inj h
    omega
  · cases h

/-- A slot that an index can select. -/
inductive Slot where
  | element (list position : Nat)
  | entry (map : Nat) (key : MapKey)
  | character (text : RichText) (position : Nat)

namespace Store

variable {st st' : Store} {container i v : Value} {p q : Slot}

/-- What a slot holds. -/
def held (st : Store) : Slot → Option Value
  | .element a n => (st.items a)[n]?
  | .entry a k => Option.map Entry.value <| findEntry? k (st.entries a)
  | .character t n => (t.charAt? n).map .str

/-- The container of a slot that holds something is not empty. -/
theorem items_ne_nil_of_held {a n : Nat} (h : st.held (.element a n) = some v) :
    st.items a ≠ [] := by
  intro hnil
  simp [held, hnil] at h

theorem entries_ne_nil_of_held {a : Nat} {k : MapKey} (h : st.held (.entry a k) = some v) :
    st.entries a ≠ [] := by
  intro hnil
  simp [held, hnil, findEntry?] at h

/-- The slot that an index selects. -/
def slot (st : Store) (container i : Value) : Except Fault Slot :=
  match container with
  | .list a => do
    let n ← resolveIndex (← i.requireInt) (st.items a).length
    return .element a n
  | .map a => do return .entry a (← i.mapKey)
  | .str t => do
    let n ← resolveIndex (← i.requireInt) t.length
    return .character t n
  | v => .error (.typeMismatch ("cannot index a " ++ v.typeName))

/-- Writes to a slot; a key of a map is kept as it is written. -/
def put (st : Store) (written v : Value) : Slot → Store
  | .element a n => st.setItems a ((st.items a).set n v)
  | .entry a k => st.setEntries a (setEntry ⟨k, written, v⟩ (st.entries a))
  | .character _ _ => st

/-- A slot can be written to: an element that there is, or an entry of a map that there is. -/
def CanPut (st : Store) : Slot → Prop
  | .element a n => n < (st.items a).length
  | .entry a _ => a < st.maps.size
  | .character _ _ => False

/-- **Reading by an index** is reading what its slot holds. -/
theorem index_eq_ok_iff :
    st.index container i = .ok v ↔ ∃ p, st.slot container i = .ok p ∧ st.held p = some v := by
  cases container with
  | list a =>
    unfold index slot
    cases i.requireInt with
    | error f => simp [bind, Except.bind]
    | ok n =>
      cases hn : resolveIndex n (st.items a).length with
      | error f => simp [bind, Except.bind, hn]
      | ok position =>
        cases hget : (st.items a)[position]? <;>
          simp [bind, Except.bind, pure, Except.pure, hn, held, hget]
  | str t =>
    unfold index slot
    cases i.requireInt with
    | error f => simp [bind, Except.bind]
    | ok n =>
      cases hn : resolveIndex n t.length with
      | error f => simp [bind, Except.bind, hn]
      | ok position =>
        cases hget : t.charAt? position <;>
          simp [bind, Except.bind, pure, Except.pure, hn, held, hget]
  | map a =>
    unfold index slot
    cases i.mapKey with
    | error f => simp [bind, Except.bind]
    | ok k =>
      cases hfind : findEntry? k (st.entries a) <;>
        simp [bind, Except.bind, pure, Except.pure, held, hfind]
  | _ => simp [index, slot]

/-- An index selects no element of an empty list. -/
theorem items_ne_nil_of_slot {a : Nat} (h : st.slot (.list a) i = .ok p) : st.items a ≠ [] := by
  intro hnil
  unfold slot at h
  cases hi : i.requireInt with
  | error f =>
    rw [hi] at h
    cases h
  | ok n =>
    cases hn : resolveIndex n (st.items a).length with
    | error f =>
      simp only [hi, bind, Except.bind, hn] at h
      cases h
    | ok position =>
      have hlt := lt_of_resolveIndex hn
      rw [hnil] at hlt
      exact Nat.not_lt_zero _ hlt

/-- An entry is written under the key of what it is written as. -/
theorem insert_eq_ok {a : Nat} {u : Unit} (h : Store.insert a i v st = .ok u st') :
    ∃ k, i.mapKey = .ok k ∧ st' = st.setEntries a (setEntry ⟨k, i, v⟩ (st.entries a)) := by
  cases hk : i.mapKey with
  | error f =>
    simp only [Store.insert, hk] at h
    cases h
  | ok k =>
    simp only [Store.insert, hk] at h
    cases h
    exact ⟨k, rfl, rfl⟩

/-- **Writing by an index** is writing to its slot, an element that there is or an entry. -/
theorem setIndex_eq_ok {u : Unit} (h : setIndex container i v st = .ok u st') :
    ∃ p, st.slot container i = .ok p ∧ st' = st.put i v p ∧
      (st.CanPut p ∨ ∃ a k, p = .entry a k ∧ st.maps.size ≤ a) := by
  cases container with
  | list a =>
    unfold slot
    cases hi : i.requireInt with
    | error f =>
      simp only [setIndex, hi] at h
      cases h
    | ok n =>
      simp only [setIndex, hi] at h
      change EStateM.bind (StoreM.ofExcept (resolveIndex n (st.items a).length)) _ st = _ at h
      cases hn : resolveIndex n (st.items a).length with
      | error f =>
        rw [hn] at h
        cases h
      | ok position =>
        rw [hn] at h
        cases h
        exact ⟨_, congrArg (Except.map (Slot.element a)) hn, rfl, .inl (lt_of_resolveIndex hn)⟩
  | map a =>
    obtain ⟨k, hk, rfl⟩ := insert_eq_ok h
    refine ⟨.entry a k, ?_, rfl, ?_⟩
    · rw [slot, hk]
      rfl
    · exact (Nat.lt_or_ge a st.maps.size).imp_right fun ha => ⟨a, k, rfl, ha⟩
  | _ => cases h

theorem mem_setEntry {e entry : Entry} {es : List Entry} (h : e ∈ setEntry entry es) :
    e = entry ∨ e ∈ es := by
  induction es with
  | nil => exact .inl (List.mem_singleton.1 h)
  | cons f rest ih =>
    rw [setEntry] at h
    split at h
    · exact (List.mem_cons.1 h).imp_right (List.mem_cons_of_mem f)
    · obtain rfl | h := List.mem_cons.1 h
      · exact .inr List.mem_cons_self
      · exact (ih h).imp_right (List.mem_cons_of_mem f)

theorem keys_setEntry (entry : Entry) (es : List Entry) : (setEntry entry es).map Entry.key =
    if entry.key ∈ es.map Entry.key then es.map Entry.key else es.map Entry.key ++ [entry.key] := by
  induction es with
  | nil => rfl
  | cons e es ih =>
    by_cases he : e.key = entry.key
    · simp [setEntry, he]
    · simp only [setEntry, he, if_false, List.map_cons, ih, List.mem_cons, Ne.symm he, false_or]
      split <;> rfl

theorem nodup_keys_setEntry {es : List Entry} (h : (es.map Entry.key).Nodup) (entry : Entry) :
    ((setEntry entry es).map Entry.key).Nodup := by
  rw [keys_setEntry]
  exact nodup_ite_concat h entry.key

theorem mapKey_setEntry {entry : Entry} {es : List Entry}
    (h : ∀ e ∈ es, e.written.mapKey = .ok e.key) (hentry : entry.written.mapKey = .ok entry.key) :
    ∀ e ∈ setEntry entry es, e.written.mapKey = .ok e.key := by
  intro e he
  obtain rfl | he := mem_setEntry he
  · exact hentry
  · exact h e he

/-- Writing into a map keeps the keys different. -/
theorem KeysDistinct.insert {a : Nat} {u : Unit} (h : st.KeysDistinct)
    (hinsert : Store.insert a i v st = .ok u st') : st'.KeysDistinct := by
  obtain ⟨k, -, rfl⟩ := insert_eq_ok hinsert
  intro es hes
  obtain hes | rfl := Array.mem_or_eq_of_mem_setIfInBounds hes
  · exact h es hes
  · exact nodup_keys_setEntry (h.entries a) _

/-- Writing into a map keeps the keys of entries to what they are written as. -/
theorem KeysHashed.insert {a : Nat} {u : Unit} (h : st.KeysHashed)
    (hinsert : Store.insert a i v st = .ok u st') : st'.KeysHashed := by
  obtain ⟨k, hk, rfl⟩ := insert_eq_ok hinsert
  intro es hes
  obtain hes | rfl := Array.mem_or_eq_of_mem_setIfInBounds hes
  · exact h es hes
  · exact mapKey_setEntry (fun e he => h.mapKey_written he) hk

theorem Keyed.insert {a : Nat} {u : Unit} (h : st.Keyed)
    (hinsert : Store.insert a i v st = .ok u st') : st'.Keyed :=
  ⟨h.distinct.insert hinsert, h.hashed.insert hinsert⟩

theorem findEntry?_setEntry (entry : Entry) (es : List Entry) (k : MapKey) :
    findEntry? k (setEntry entry es) = if k = entry.key then some entry else findEntry? k es := by
  induction es with
  | nil => by_cases hk : k = entry.key <;> simp [setEntry, findEntry?, hk, eq_comm]
  | cons e es ih =>
    rw [setEntry]
    by_cases he : e.key = entry.key
    · by_cases hk : k = entry.key
      · simp [he, findEntry?, hk]
      · simp [he, findEntry?, hk, Ne.symm hk]
    · by_cases hk : e.key = k
      · simp [hk, findEntry?, hk ▸ he]
      · rw [if_neg he]
        unfold findEntry? at ih
        simp [hk, findEntry?, ih]

theorem items_put_element (st : Store) (written v : Value) (a n b : Nat) :
    (st.put written v (.element a n)).items b =
      if b = a then (st.items a).set n v else st.items b := by
  refine items_setItems st a _ b fun hle => ?_
  have hnil : st.items a = [] := by simp [items, Array.getD, Nat.not_lt.2 hle]
  rw [hnil, List.set_nil]

theorem held_put_self (written v : Value) (h : st.CanPut p) :
    (st.put written v p).held p = some v := by
  cases p with
  | element a n =>
    rw [held, items_put_element, if_pos rfl, List.getElem?_set_self h]
  | entry a k =>
    rw [put, held, entries_setEntries _ _ h, if_pos rfl, findEntry?_setEntry, if_pos rfl]
    rfl
  | character t n => exact h.elim

theorem held_put_of_ne (written v : Value) (h : q ≠ p) :
    (st.put written v p).held q = st.held q := by
  cases p with
  | element a n =>
    cases q with
    | element b k =>
      rw [held, held, items_put_element]
      split
      · rename_i hb
        subst hb
        exact List.getElem?_set_ne fun hn => h (by rw [hn])
      · rfl
    | entry => rfl
    | character => rfl
  | entry a k =>
    cases q with
    | entry b l =>
      obtain ha | ha := Nat.lt_or_ge a st.maps.size
      · rw [held, held, put, entries_setEntries _ _ ha]
        split
        · rename_i hb
          subst hb
          rw [findEntry?_setEntry, if_neg fun hl => h (by rw [hl])]
        · rfl
      · rw [put, setEntries_of_le _ _ ha]
    | element => rfl
    | character => rfl
  | character t n => rfl

end Store
end TableScript
