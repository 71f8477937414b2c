import Mathlib.Data.List.Forall2
import Mathlib.Data.List.Nodup
import TableScript.Json.Basic

/-!
# Documents whose members stand in another order

The members of an object stand in some order, which is kept but means nothing. `Reordered` relates
documents that differ in such orders only, at any depth. Where no object has a key twice
(`Distinct`), reordered objects have the same members to look up (`member?_reordered`), and sorted
by key they stand in the same order again (`sorted_reordered`).
-/

namespace TableScript

variable {α β : Type}

/-! ## Related lists -/

/-- Lists of pairs with the same first components and related second ones. -/
theorem forall₂_pairs {R : α → α → Prop} {xs ys : List (β × α)}
    (hfst : xs.map (·.1) = ys.map (·.1)) (hsnd : (xs.map (·.2)).Forall₂ R (ys.map (·.2))) :
    xs.Forall₂ (fun x y => x.1 = y.1 ∧ R x.2 y.2) ys := by
  induction xs generalizing ys with
  | nil =>
    obtain rfl := List.map_eq_nil_iff.1 hfst.symm
    exact .nil
  | cons x xs ih =>
    cases ys with
    | nil => cases hfst
    | cons y ys =>
      obtain ⟨hxy, hfst⟩ := List.cons.inj hfst
      obtain ⟨hR, hsnd⟩ := List.forall₂_cons.1 hsnd
      exact .cons ⟨hxy, hR⟩ (ih hfst hsnd)

/-- Related lists stay related when they are sorted by orders that agree on them. -/
theorem forall₂_mergeSort {R : α → β → Prop} {le : α → α → Bool} {le' : β → β → Bool}
    (hle : ∀ {x y x' y'}, R x y → R x' y' → le x x' = le' y y') {xs : List α} {ys : List β}
    (h : xs.Forall₂ R ys) : (xs.mergeSort le).Forall₂ R (ys.mergeSort le') := by
  obtain ⟨hlength, hR⟩ := List.forall₂_iff_zip.1 h
  -- sort the pairs, and take the two sides of them
  let order : α × β → α × β → Bool := fun p q => le p.1 q.1
  have hxs : ((xs.zip ys).mergeSort order).map Prod.fst = xs.mergeSort le := by
    rw [List.map_mergeSort (s := le) fun _ _ _ _ => rfl, List.map_fst_zip (Nat.le_of_eq hlength)]
  have hys : ((xs.zip ys).mergeSort order).map Prod.snd = ys.mergeSort le' := by
    rw [List.map_mergeSort (s := le') fun p hp q hq => hle (hR hp) (hR hq),
      List.map_snd_zip (Nat.le_of_eq hlength.symm)]
  rw [← hxs, ← hys, List.forall₂_map_left_iff, List.forall₂_map_right_iff, List.forall₂_same]
  exact fun p hp => hR (List.mem_mergeSort.1 hp)

namespace Json

/-! ## Reordered documents -/

/-- No object has a key twice, at any depth. -/
inductive Distinct : Json → Prop
  | leaf {j : Json} : (∀ items, j ≠ .arr items) → (∀ members, j ≠ .obj members) → Distinct j
  | arr {items : List Json} : (∀ j ∈ items, Distinct j) → Distinct (.arr items)
  | obj {members : List (String × Json)} : (members.map (·.1)).Nodup →
    (∀ m ∈ members, Distinct m.2) → Distinct (.obj members)

/-- The same document but for the order of members, at any depth. -/
inductive Reordered : Json → Json → Prop
  | refl (j : Json) : Reordered j j
  | arr {items items' : List Json} : items.Forall₂ Reordered items' →
    Reordered (.arr items) (.arr items')
  /-- The members are shuffled, and what they hold is reordered. -/
  | obj {members shuffled members' : List (String × Json)} : members.Perm shuffled →
    shuffled.map (·.1) = members'.map (·.1) →
    (shuffled.map (·.2)).Forall₂ Reordered (members'.map (·.2)) →
    Reordered (.obj members) (.obj members')

theorem Distinct.items {items : List Json} (h : Distinct (.arr items)) :
    ∀ j ∈ items, Distinct j := by
  cases h with
  | leaf hitems => exact absurd rfl (hitems items)
  | arr h => exact h

theorem Distinct.nodup {members : List (String × Json)} (h : Distinct (.obj members)) :
    (members.map (·.1)).Nodup := by
  cases h with
  | leaf _ hmembers => exact absurd rfl (hmembers members)
  | obj hnodup => exact hnodup

theorem Distinct.members {members : List (String × Json)} (h : Distinct (.obj members)) :
    ∀ m ∈ members, Distinct m.2 := by
  cases h with
  | leaf _ hmembers => exact absurd rfl (hmembers members)
  | obj _ h => exact h

/-- Members with the same keys, position by position, that hold reordered documents. -/
abbrev ReorderedMembers (members members' : List (String × Json)) : Prop :=
  members.Forall₂ (fun m m' => m.1 = m'.1 ∧ Reordered m.2 m'.2) members'

theorem reorderedMembers_refl (members : List (String × Json)) :
    ReorderedMembers members members :=
  List.forall₂_same.2 fun m _ => ⟨rfl, .refl m.2⟩

theorem reordered_items {items items' : List Json} (h : Reordered (.arr items) (.arr items')) :
    items.Forall₂ Reordered items' := by
  cases h with
  | refl => exact List.forall₂_same.2 fun j _ => .refl j
  | arr h => exact h

/-- An object is reordered by shuffling its members and reordering what they hold. -/
theorem reordered_members {members members' : List (String × Json)}
    (h : Reordered (.obj members) (.obj members')) :
    ∃ shuffled, members.Perm shuffled ∧ ReorderedMembers shuffled members' := by
  cases h with
  | refl => exact ⟨members, .refl _, reorderedMembers_refl members⟩
  | obj hperm hkeys hvalues => exact ⟨_, hperm, forall₂_pairs hkeys hvalues⟩

/-! ## Looking members up -/

theorem member?_eq_some_iff {members : List (String × Json)} (h : (members.map (·.1)).Nodup)
    {key : String} {j : Json} : member? key members = some j ↔ (key, j) ∈ members := by
  induction members with
  | nil => simp [member?]
  | cons m members ih =>
    obtain ⟨k, v⟩ := m
    obtain ⟨hk, hnodup⟩ := List.nodup_cons.1 h
    rw [member?, List.mem_cons, Prod.mk.injEq]
    by_cases hkey : k = key
    · subst hkey
      have hnot : (k, j) ∉ members := fun hmem => hk (List.mem_map_of_mem (f := (·.1)) hmem)
      simp [hnot, eq_comm]
    · rw [if_neg hkey, ih hnodup]
      simp [Ne.symm hkey]

theorem member?_perm {members shuffled : List (String × Json)} (hperm : members.Perm shuffled)
    (h : (members.map (·.1)).Nodup) (key : String) :
    member? key members = member? key shuffled := by
  have h' : (shuffled.map (·.1)).Nodup := (hperm.map (·.1)).nodup_iff.1 h
  ext j
  rw [member?_eq_some_iff h, member?_eq_some_iff h', hperm.mem_iff]

theorem member?_rel {members members' : List (String × Json)}
    (h : ReorderedMembers members members') (key : String) :
    Option.Rel Reordered (member? key members) (member? key members') := by
  induction h with
  | nil => exact .none
  | @cons m m' _ _ hm _ ih =>
    obtain ⟨k, v⟩ := m
    obtain ⟨k', v'⟩ := m'
    obtain ⟨rfl, hv⟩ : k = k' ∧ Reordered v v' := hm
    rw [member?, member?]
    split_ifs
    · exact .some hv
    · exact ih

/-- A reordered object has the same members to look up. -/
theorem member?_reordered {members members' : List (String × Json)}
    (hd : Distinct (.obj members)) (h : Reordered (.obj members) (.obj members')) (key : String) :
    Option.Rel Reordered (member? key members) (member? key members') := by
  obtain ⟨shuffled, hperm, hmembers⟩ := reordered_members h
  rw [member?_perm hperm hd.nodup]
  exact member?_rel hmembers key

/-! ## Sorting members -/

/-- Members sorted by their keys. -/
abbrev sortedMembers (members : List (String × Json)) : List (String × Json) :=
  members.mergeSort fun a b => decide (a.1 ≤ b.1)

theorem pairwise_sortedMembers (members : List (String × Json)) :
    (sortedMembers members).Pairwise fun a b => a.1 ≤ b.1 := by
  have hsorted : (sortedMembers members).Pairwise fun a b => decide (a.1 ≤ b.1) = true :=
    List.pairwise_mergeSort
      (fun a b c hab hbc => by
        simpa using String.le_trans (by simpa using hab) (by simpa using hbc))
      (fun a b => by simpa using String.le_total a.1 b.1) members
  simpa using hsorted

/-- Different keys stand in one order when they are sorted. -/
theorem sortedMembers_perm {members shuffled : List (String × Json)}
    (hperm : members.Perm shuffled) (h : (members.map (·.1)).Nodup) :
    sortedMembers members = sortedMembers shuffled := by
  refine List.Perm.eq_of_pairwise (fun a b ha hb hab hba => ?_) (pairwise_sortedMembers members)
    (pairwise_sortedMembers shuffled)
    ((List.mergeSort_perm _ _).trans (hperm.trans (List.mergeSort_perm _ _).symm))
  have ha' : a ∈ members := List.mem_mergeSort.1 ha
  have hb' : b ∈ members := hperm.mem_iff.2 (List.mem_mergeSort.1 hb)
  exact List.inj_on_of_nodup_map h ha' hb' (String.le_antisymm hab hba)

/-- The members of a reordered object stand in the same order once they are sorted. -/
theorem sorted_reordered {members members' : List (String × Json)} (hd : Distinct (.obj members))
    (h : Reordered (.obj members) (.obj members')) :
    ReorderedMembers (sortedMembers members) (sortedMembers members') := by
  obtain ⟨shuffled, hperm, hmembers⟩ := reordered_members h
  rw [sortedMembers_perm hperm hd.nodup]
  refine forall₂_mergeSort (fun hab hcd => ?_) hmembers
  rw [hab.1, hcd.1]

end Json
end TableScript
