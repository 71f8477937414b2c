import TableScript.Proofs.Number.ReadBack
import TableScript.Proofs.Value.Documents
import TableScript.Proofs.Value.Slots

/-!
# The members of a map's document

A map's keys are typed, the names of an object's members are texts. `entries_become_members` says
what becomes of the entries of a map that was filled by writing into it:

1. such a map has each key once, and every key is written as a value of this key (`Filled.keyed`).
   So a store of such maps is keyed (`keyed_of_filled`);
2. the object has one member for each name, where the name stood first, with the document of the
   last entry of this name. So no entry is lost exactly when the names are different;
3. different keys have different names if they are written as values of one kind, except that every
   NaN has the same name, and an error has its message for a name (`alike_of_memberName_eq`).
-/

namespace TableScript

/-- What stands at a place on the right stands next to something on the left. -/
theorem exists_split_of_forall₂ {α β : Type} {R : α → β → Prop} {xs : List α} {y : β}
    {before after : List β} (h : xs.Forall₂ R (before ++ y :: after)) :
    ∃ xs₁ x xs₂, xs = xs₁ ++ x :: xs₂ ∧ R x y ∧ xs₂.Forall₂ R after := by
  have hdrop := List.forall₂_drop_append _ _ _ h
  obtain ⟨x, xs₂, hx, hxs₂, heq⟩ := List.forall₂_cons_right_iff.1 hdrop
  refine ⟨xs.take before.length, x, xs₂, ?_, hx, hxs₂⟩
  rw [← heq, List.take_append_drop]

/-! ## Objects with one member for each name -/

namespace Json

variable {α : Type} {members : List (String × α)} {m : String × α}

theorem names_setMember (key : String) (value : α) (members : List (String × α)) :
    (setMember key value members).map (·.1) =
      if key ∈ members.map (·.1) then members.map (·.1) else members.map (·.1) ++ [key] := by
  induction members with
  | nil => rfl
  | cons m members ih =>
    by_cases hm : m.1 = key
    · simp [setMember, hm]
    · simp only [setMember, hm, if_false, List.map_cons, ih, List.mem_cons, Ne.symm hm, false_or]
      split <;> rfl

/-- The names stay, each where it stood first. -/
theorem names_collapseMembers (members : List (String × α)) :
    (collapseMembers members).map (·.1) = (members.map (·.1)).eraseDups := by
  induction members using List.reverseRecOn with
  | nil => rfl
  | append_singleton members m ih =>
    rw [collapseMembers_concat, names_setMember, ih, List.map_append, List.map_singleton,
      List.eraseDups_append, List.removeAll, List.filter_singleton]
    by_cases hm : m.1 ∈ members.map (·.1)
    · simp [hm]
    · simp [hm, List.eraseDups_cons]

theorem nodup_names_collapseMembers (members : List (String × α)) :
    ((collapseMembers members).map (·.1)).Nodup := by
  induction members using List.reverseRecOn with
  | nil => exact List.nodup_nil
  | append_singleton members m ih =>
    rw [collapseMembers_concat, names_setMember]
    exact nodup_ite_concat ih m.1

theorem mem_setMember {key : String} {value : α} (hnodup : (members.map (·.1)).Nodup)
    (h : m ∈ setMember key value members) : m = (key, value) ∨ m ∈ members ∧ m.1 ≠ key := by
  induction members with
  | nil => exact .inl (List.mem_singleton.1 h)
  | cons p members ih =>
    obtain ⟨hp, hnodup⟩ := List.nodup_cons.1 hnodup
    rw [setMember] at h
    split at h
    · rename_i hkey
      obtain rfl | h := List.mem_cons.1 h
      · exact .inl (by rw [hkey])
      · refine .inr ⟨List.mem_cons_of_mem p h, ?_⟩
        intro hm
        exact hp (List.mem_map.2 ⟨m, h, hm.trans hkey.symm⟩)
    · rename_i hkey
      obtain rfl | h := List.mem_cons.1 h
      · exact .inr ⟨List.mem_cons_self, hkey⟩
      · exact (ih hnodup h).imp_right fun h => ⟨List.mem_cons_of_mem p h.1, h.2⟩

/-- A member that stays is the last one of its name. -/
theorem last_of_mem_collapseMembers (h : m ∈ collapseMembers members) :
    ∃ before after, members = before ++ m :: after ∧ m.1 ∉ after.map (·.1) := by
  induction members using List.reverseRecOn with
  | nil => cases h
  | append_singleton members p ih =>
    rw [collapseMembers_concat] at h
    obtain rfl | ⟨h, hne⟩ := mem_setMember (nodup_names_collapseMembers members) h
    · exact ⟨members, [], rfl, List.not_mem_nil⟩
    · obtain ⟨before, after, rfl, hafter⟩ := ih h
      refine ⟨before, after ++ [p], by simp, ?_⟩
      simp [hafter, hne]

/-- No member is lost exactly when all names are different. -/
theorem length_collapseMembers_eq_iff (members : List (String × α)) :
    (collapseMembers members).length = members.length ↔ (members.map (·.1)).Nodup := by
  constructor
  · intro hlength
    have hnodup := nodup_names_collapseMembers members
    have hsubperm : ((collapseMembers members).map (·.1)).Subperm (members.map (·.1)) := by
      refine hnodup.subperm fun name hname => ?_
      rwa [names_collapseMembers, List.mem_eraseDups] at hname
    have hperm := hsubperm.perm_of_length_le (by simp [hlength])
    exact hperm.nodup_iff.1 hnodup
  · intro hnodup
    rw [collapseMembers_of_nodup hnodup]

end Json

namespace Store

variable {st st' : Store} {a : Nat} {v w : Value} {k l : MapKey} {j : Json}

/-! ## Maps that are filled by writing into them -/

/-- The map `a` was empty, and only writing into it changed it since. -/
inductive Filled (a : Nat) : Store → Prop
  | empty {st : Store} : st.entries a = [] → Filled a st
  | insert {st st' : Store} {key value : Value} : Filled a st →
    Store.insert a key value st = .ok () st' → Filled a st'
  /-- Whatever else happens leaves the entries of the map alone. -/
  | aside {st st' : Store} : Filled a st → st'.entries a = st.entries a → Filled a st'

/-- However a map was filled, each key stands in one entry, and is what it was written as. -/
theorem Filled.keyed (h : Filled a st) : ((st.entries a).map Entry.key).Nodup ∧
    ∀ e ∈ st.entries a, e.written.mapKey = .ok e.key := by
  induction h with
  | empty hnil =>
    rw [hnil]
    exact ⟨List.nodup_nil, List.forall_mem_nil _⟩
  | @insert st st' key value _ hinsert ih =>
    obtain ⟨k, hk, rfl⟩ := insert_eq_ok hinsert
    obtain ha | ha := Nat.lt_or_ge a st.maps.size
    · rw [entries_setEntries _ _ ha, if_pos rfl]
      exact ⟨nodup_keys_setEntry ih.1 _, mapKey_setEntry ih.2 hk⟩
    · rwa [setEntries_of_le _ _ ha]
  | aside _ hentries ih => rwa [hentries]

/-- A store of which all maps were filled is keyed. -/
theorem keyed_of_filled (h : ∀ a < st.maps.size, Filled a st) : st.Keyed := by
  have hkeyed : ∀ es ∈ st.maps, (es.map Entry.key).Nodup ∧
      ∀ e ∈ es, e.written.mapKey = .ok e.key := by
    intro es hes
    obtain ⟨a, ha, rfl⟩ := Array.getElem_of_mem hes
    have hentries : st.entries a = st.maps[a] := by simp [entries, Array.getD, ha]
    exact hentries ▸ (h a ha).keyed
  exact ⟨fun es hes => (hkeyed es hes).1, fun es hes => (hkeyed es hes).2⟩

/-! ## Names of keys -/

/-- Two values whose texts can be the same although their keys differ. -/
inductive Alike : Value → Value → Prop
  | kinds {v w : Value} : v.kind ≠ w.kind → Alike v w
  | nan {x y : Double} : x.isNaN → y.isNaN → Alike (.float x) (.float y)
  | error {e f : ErrorValue} : e.message = f.message → Alike (.error e) (.error f)

/-- **Different keys of one kind have different names**, but for NaN and for errors. -/
theorem alike_of_memberName_eq (hv : v.mapKey = .ok k) (hw : w.mapKey = .ok l) (hne : k ≠ l)
    (hname : st.memberName v = st.memberName w) : Alike v w := by
  by_cases hkind : v.kind = w.kind
  · have hvalue : v ≠ w := by
      rintro rfl
      exact hne (Except.ok.inj (hv.symm.trans hw))
    cases v with
    | int n =>
      cases w with
      | int n' =>
        -- the reader takes the one text to both numbers
        have hread := congrArg NumberText.readInt? (show toString n = toString n' from hname)
        rw [NumberText.readInt?_toString, NumberText.readInt?_toString] at hread
        exact absurd (congrArg Value.int (Option.some.inj hread)) hvalue
      | _ => cases hkind
    | float x =>
      cases w with
      | float y =>
        obtain rfl | ⟨hx, hy⟩ := NumberText.eq_or_isNaN_of_plainText_eq hname
        · exact absurd rfl hvalue
        · exact .nan hx hy
      | _ => cases hkind
    | str t =>
      cases w with
      | str u =>
        cases hv
        cases hw
        exact absurd (congrArg MapKey.str hname) hne
      | _ => cases hkind
    | bool b =>
      cases w with
      | bool c =>
        cases b <;> cases c
        · exact absurd rfl hvalue
        · exact absurd (show "false" = "true" from hname) (by decide)
        · exact absurd (show "true" = "false" from hname) (by decide)
        · exact absurd rfl hvalue
      | _ => cases hkind
    | error e =>
      cases w with
      | error f => exact .error hname
      | _ => cases hkind
    | _ => cases hv
  · exact .kinds hkind

/-! ## Documents of maps -/

/-- **What becomes of the entries of a map.** Of a map that was filled by writing into it, let a
document be made. It is an object with one member for each name of a key, where the name stood
first, and the member has the document of the last entry of its name. It has as many members as
the map has entries exactly when all names are different, and then the entries are its members, one
by one and in their order. Two entries have the same name only if their keys are written as values
of different kinds, are both NaN, or are errors with the same message. -/
theorem entries_become_members (st : Store) (a : Nat) (j : Json) (hfilled : Filled a st)
    (hjson : st.toJson (.map a) = .ok j) :
    ∃ members, j = .obj members ∧
      members.map (·.1) = ((st.entries a).map fun e => st.memberName e.written).eraseDups ∧
      (∀ m ∈ members, ∃ before e after, st.entries a = before ++ e :: after ∧
        st.memberName e.written = m.1 ∧ st.toJson e.value = .ok m.2 ∧
        ∀ f ∈ after, st.memberName f.written ≠ m.1) ∧
      (members.length = (st.entries a).length ↔
        ((st.entries a).map fun e => st.memberName e.written).Nodup) ∧
      (((st.entries a).map fun e => st.memberName e.written).Nodup →
        (st.entries a).Forall₂
          (fun e m => st.memberName e.written = m.1 ∧ st.toJson e.value = .ok m.2) members) ∧
      (st.entries a).Pairwise fun e f =>
        st.memberName e.written = st.memberName f.written → Alike e.written f.written := by
  obtain ⟨rows, rfl, hrows⟩ := (hasJson_iff.2 hjson).rows
  simp only [hasJson_iff] at hrows
  rw [map_eq_map_of_forall₂ hrows fun e m hem => hem.1]
  refine ⟨Json.collapseMembers rows, rfl, Json.names_collapseMembers rows, fun m hm => ?_, ?_,
    fun hnodup => ?_, ?_⟩
  · obtain ⟨before, after, rfl, hlast⟩ := Json.last_of_mem_collapseMembers hm
    obtain ⟨es, e, fs, hes, ⟨hname, hvalue⟩, hfs⟩ := exists_split_of_forall₂ hrows
    refine ⟨es, e, fs, hes, hname, hvalue, fun f hf hsame => hlast ?_⟩
    rw [← map_eq_map_of_forall₂ hfs fun e m hem => hem.1]
    exact List.mem_map.2 ⟨f, hf, hsame⟩
  · rw [← Json.length_collapseMembers_eq_iff, hrows.length_eq]
  · rwa [Json.collapseMembers_of_nodup hnodup]
  · obtain ⟨hnodup, hkey⟩ := hfilled.keyed
    refine (List.pairwise_map.1 hnodup).imp_of_mem fun {e f} he hf hne => ?_
    exact alike_of_memberName_eq (hkey e he) (hkey f hf) hne

/-- A map with the integer `1` and a string for its keys. -/
def keyedByOneAnd (s : String) : Store where
  maps := #[[⟨.int 1, .int 1, .ofString "a"⟩, ⟨.str s, .ofString s, .ofString "b"⟩]]

theorem filled_keyedByOneAnd (s : String) : Filled 0 (keyedByOneAnd s) := by
  have hnone : Filled 0 { maps := #[[]] } := .empty rfl
  have hone := hnone.insert (rfl : Store.insert 0 (.int 1) (.ofString "a") _ = _)
  refine hone.insert (?_ : Store.insert 0 (.ofString s) (.ofString "b") _ = _)
  rw [Store.insert, Value.mapKey_ofString]
  rfl

theorem entries_become_members_two : Filled 0 (keyedByOneAnd "x") ∧
    ∃ members, (keyedByOneAnd "x").toJson (.map 0) = .ok (.obj members) ∧ members.length = 2 := by
  have hfilled := filled_keyedByOneAnd "x"
  have hjson : (keyedByOneAnd "x").toJson (.map 0) =
      .ok (.obj [("1", .str "a"), ("x", .str "b")]) := rfl
  obtain ⟨members, hmembers, -, -, hlength, -⟩ := entries_become_members _ 0 _ hfilled hjson
  exact ⟨hfilled, members, hmembers ▸ hjson, hlength.2 (by decide)⟩

/-- **An entry is lost.** The integer `1` and the string `1` are different keys with one name. -/
theorem entry_lost : Filled 0 (keyedByOneAnd "1") ∧
    ((keyedByOneAnd "1").entries 0).map Entry.key = [.int 1, .str "1"] ∧
    (keyedByOneAnd "1").toJson (.map 0) = .ok (.obj [("1", .str "b")]) :=
  ⟨filled_keyedByOneAnd "1", rfl, rfl⟩

end Store
end TableScript
