import Mathlib.Data.List.Nodup
import TableScript.Value.Equality

/-!
# What containers hold

Lists and maps read alike: a container holds values, the items of a list or the values of a map's
entries. Only containers that there are hold anything (`mem_containers_of_mem_contents`), so a walk
that is inside of different containers all the time is inside of at most `containerCount`. The
entries of a map have different keys, and each key is what it was written as (`Keyed`).
-/

namespace TableScript

/-- What is put at the end unless it is there already leaves a list without repetition. -/
theorem nodup_ite_concat {α : Type} [DecidableEq α] {xs : List α} (h : xs.Nodup) (x : α) :
    (if x ∈ xs then xs else xs ++ [x]).Nodup := by
  split
  · exact h
  · rename_i hnew
    exact List.concat_eq_append ▸ h.concat hnew

/-- The container a value is. -/
def Value.container? : Value → Option Container
  | .list x => some (.list x)
  | .map x => some (.map x)
  | _ => none

/-- A container as a value. -/
def Container.value : Container → Value
  | .list x => .list x
  | .map x => .map x

theorem Value.container?_eq_some_iff {v : Value} {c : Container} :
    v.container? = some c ↔ v = c.value := by
  cases v <;> cases c <;> simp [Value.container?, Container.value]

namespace Store

variable {st : Store} {v : Value} {c : Container}

/-- The values a container holds. -/
def contents (st : Store) : Container → List Value
  | .list x => st.items x
  | .map x => (st.entries x).map Entry.value

/-- The containers there are. -/
def containers (st : Store) : List Container :=
  (List.range st.lists.size).map .list ++ (List.range st.maps.size).map .map

theorem length_containers : st.containers.length = st.containerCount := by
  simp [containers, containerCount]

theorem items_eq_nil_or_mem (st : Store) (x : Nat) : st.items x = [] ∨
    x < st.lists.size ∧ st.items x ∈ st.lists := by
  by_cases hx : x < st.lists.size
  · right
    simp [items, Array.getD, hx]
  · left
    simp [items, Array.getD, hx]

theorem entries_eq_nil_or_mem (st : Store) (x : Nat) : st.entries x = [] ∨
    x < st.maps.size ∧ st.entries x ∈ st.maps := by
  by_cases hx : x < st.maps.size
  · right
    simp [entries, Array.getD, hx]
  · left
    simp [entries, Array.getD, hx]

theorem items_setItems (st : Store) (a : Nat) (xs : List Value) (b : Nat)
    (h : st.lists.size ≤ a → xs = []) :
    (st.setItems a xs).items b = if b = a then xs else st.items b := by
  unfold items setItems
  rw [Array.getD_eq_getD_getElem?, Array.getD_eq_getD_getElem?, Array.getElem?_setIfInBounds]
  by_cases hb : b = a
  · subst hb
    rw [if_pos rfl, if_pos rfl]
    split
    · rfl
    · rename_i hge
      rw [h (Nat.le_of_not_lt hge)]
      rfl
  · rw [if_neg (Ne.symm hb), if_neg hb]

theorem entries_setEntries (st : Store) {a : Nat} (es : List Entry) (ha : a < st.maps.size)
    (b : Nat) : (st.setEntries a es).entries b = if b = a then es else st.entries b := by
  unfold entries setEntries
  rw [Array.getD_eq_getD_getElem?, Array.getD_eq_getD_getElem?, Array.getElem?_setIfInBounds]
  by_cases hb : b = a
  · rw [if_pos hb.symm, if_pos hb, if_pos ha, Option.getD_some]
  · rw [if_neg (Ne.symm hb), if_neg hb]

/-- Nothing is written into a map that is not there. -/
theorem setEntries_of_le (st : Store) {a : Nat} (es : List Entry) (ha : st.maps.size ≤ a) :
    st.setEntries a es = st := by
  unfold setEntries
  rw [Array.setIfInBounds_eq_of_size_le ha]

/-- Only a container that there is holds something. -/
theorem mem_containers_of_mem_contents (h : v ∈ st.contents c) : c ∈ st.containers := by
  cases c with
  | list x =>
    rcases st.items_eq_nil_or_mem x with hx | ⟨hx, _⟩
    · simp [contents, hx] at h
    · simp [containers, hx]
  | map x =>
    rcases st.entries_eq_nil_or_mem x with hx | ⟨hx, _⟩
    · simp [contents, hx] at h
    · simp [containers, hx]

/-! ## The entries of maps -/

/-- No two entries of a map have the same key. -/
def KeysDistinct (st : Store) : Prop := ∀ es ∈ st.maps, (es.map Entry.key).Nodup

/-- What an entry's key was written as has this key, so it is no container. -/
def KeysHashed (st : Store) : Prop := ∀ es ∈ st.maps, ∀ e ∈ es, e.written.mapKey = .ok e.key

/-- What all maps are kept to: writing into a map (`Keyed.insert`), a new map (`Keyed.newMap`) and
the maps of a document (`Keyed.ofJson`) keep it. A result that needs only one of the two facts asks
for this one. -/
structure Keyed (st : Store) : Prop where
  distinct : st.KeysDistinct
  hashed : st.KeysHashed

theorem KeysDistinct.entries (h : st.KeysDistinct) (x : Nat) :
    ((st.entries x).map Entry.key).Nodup := by
  rcases st.entries_eq_nil_or_mem x with hx | ⟨_, hx⟩
  · rw [hx]
    exact List.nodup_nil
  · exact h _ hx

theorem KeysHashed.mapKey_written (h : st.KeysHashed) {x : Nat} {e : Entry}
    (he : e ∈ st.entries x) : e.written.mapKey = .ok e.key := by
  rcases st.entries_eq_nil_or_mem x with hx | ⟨_, hx⟩
  · rw [hx] at he
    cases he
  · exact h _ hx e he

theorem KeysHashed.written (h : st.KeysHashed) {x : Nat} {e : Entry} (he : e ∈ st.entries x) :
    e.written.container? = none := by
  have hkey := h.mapKey_written he
  cases hw : e.written with
  | list a => simp [hw, Value.mapKey] at hkey
  | map a => simp [hw, Value.mapKey] at hkey
  | _ => rfl

/-- The entry found under a key is the one that has it. -/
theorem findEntry?_eq_some_iff {es : List Entry} (h : (es.map Entry.key).Nodup) {k : MapKey}
    {e : Entry} : findEntry? k es = some e ↔ e ∈ es ∧ e.key = k := by
  constructor
  · intro he
    exact ⟨List.mem_of_find?_eq_some he, by simpa using List.find?_some he⟩
  · rintro ⟨he, rfl⟩
    cases hf : findEntry? e.key es with
    | none => simpa using List.find?_eq_none.1 hf e he
    | some f =>
      have hkey : f.key = e.key := by simpa using List.find?_some hf
      rw [List.inj_on_of_nodup_map h (List.mem_of_find?_eq_some hf) he hkey]

end Store
end TableScript
