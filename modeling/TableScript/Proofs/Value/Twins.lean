import Mathlib.Data.List.Forall2
import TableScript.Proofs.Text.Characters
import TableScript.Proofs.Value.Bisimilarity
import TableScript.Value.Document
import TableScript.Value.Operator

/-!
# Stores that differ only in looks

Two stores are twins under a correspondence of containers when corresponding containers hold values
that are alike: the same, but for the looks of strings and for which container is meant.

1. `Value.Alike` and `Store.Twins` say so. The correspondence is one to one, so a walk over one
   store is at a container it has met exactly when the walk over the other is;
2. alike values have the same text, the same key and the same truth (`Twins.text_eq`,
   `Alike.mapKey_eq`, `Twins.isTruthy_eq`), and compare alike (`Twins.equal_eq`);
3. new containers with alike contents correspond to each other from then on (`Twins.newList`,
   `Twins.newMap`), and so do the containers of a document (`Twins.ofJson`).
-/

namespace TableScript

/-- A correspondence of the containers of one store with those of another. -/
abbrev Pairing := Container → Container → Prop

variable {R S : Pairing} {a b a' b' v w : Value}

/-- Values that are the same but for looks, where containers correspond by `R`. -/
inductive Value.Alike (R : Pairing) : Value → Value → Prop
  | int (n : Int64) : Alike R (.int n) (.int n)
  | float (x : Double) : Alike R (.float x) (.float x)
  | str {t u : RichText} : t.plain = u.plain → Alike R (.str t) (.str u)
  | bool (b : Bool) : Alike R (.bool b) (.bool b)
  | list {x y : Nat} : R (.list x) (.list y) → Alike R (.list x) (.list y)
  | map {x y : Nat} : R (.map x) (.map y) → Alike R (.map x) (.map y)
  | fn (f : Callable) : Alike R (.fn f) (.fn f)
  | error (e : ErrorValue) : Alike R (.error e) (.error e)
  | null : Alike R .null .null

/-- Entries of the same key that are the same but for looks. -/
structure Entry.Alike (R : Pairing) (e f : Entry) : Prop where
  key : e.key = f.key
  written : e.written.Alike R f.written
  value : e.value.Alike R f.value

/-- Stores whose corresponding containers differ only in looks. -/
structure Store.Twins (R : Pairing) (st st' : Store) : Prop where
  biUnique : Relator.BiUnique R
  /-- Only containers that there are correspond. -/
  mem {c d : Container} : R c d → c ∈ st.containers ∧ d ∈ st'.containers
  items {x y : Nat} : R (.list x) (.list y) →
    (st.items x).Forall₂ (Value.Alike R) (st'.items y)
  entries {x y : Nat} : R (.map x) (.map y) →
    (st.entries x).Forall₂ (Entry.Alike R) (st'.entries y)
  /-- Functions are shown by the same names. -/
  callableName (f : Callable) : st.callableName f = st'.callableName f

/-! ## Lists side by side -/

theorem map_eq_map_of_forall₂ {α β γ : Type} {P : α → β → Prop} {f : α → γ} {g : β → γ}
    {xs : List α} {ys : List β} (h : xs.Forall₂ P ys) (hfg : ∀ x y, P x y → f x = g y) :
    xs.map f = ys.map g := by
  rw [← List.forall₂_eq_eq_eq]
  exact List.rel_map (fun x y hxy => hfg x y hxy) h

theorem forall₂_zip_zip {α β : Type} {P : α → α → Prop} {Q : β → β → Prop} {xs us : List α}
    {ys vs : List β} (h : xs.Forall₂ P us) (h' : ys.Forall₂ Q vs) :
    (xs.zip ys).Forall₂ (fun p q => P p.1 q.1 ∧ Q p.2 q.2) (us.zip vs) := by
  induction h generalizing ys vs with
  | nil => exact .nil
  | cons hxu _ ih =>
    cases h' with
    | nil => exact .nil
    | cons hyv h' => exact .cons ⟨hxu, hyv⟩ (ih h')

theorem all_eq_all_of_forall₂ {α β : Type} {P : α → β → Prop} {f : α → Bool} {g : β → Bool}
    {xs : List α} {ys : List β} (h : xs.Forall₂ P ys)
    (hfg : ∀ x ∈ xs, ∀ y ∈ ys, P x y → f x = g y) : xs.all f = ys.all g := by
  induction h with
  | nil => rfl
  | @cons x y xs ys hxy _ ih =>
    rw [List.all_cons, List.all_cons, hfg x List.mem_cons_self y List.mem_cons_self hxy,
      ih fun x hx y hy => hfg x (List.mem_cons_of_mem _ hx) y (List.mem_cons_of_mem _ hy)]

theorem rel_getElem? {α : Type} {P : α → α → Prop} {xs ys : List α} (h : xs.Forall₂ P ys)
    (n : Nat) : Option.Rel P xs[n]? ys[n]? := by
  induction h generalizing n with
  | nil => exact .none
  | cons hxy _ ih =>
    cases n with
    | zero => exact .some hxy
    | succ n => exact ih n

/-! ## Alike values -/

namespace Value.Alike

theorem mono (hRS : R ≤ S) (h : v.Alike R w) : v.Alike S w := by
  cases h with
  | int n => exact .int n
  | float x => exact .float x
  | str h => exact .str h
  | bool b => exact .bool b
  | list h => exact .list (hRS _ _ h)
  | map h => exact .map (hRS _ _ h)
  | fn f => exact .fn f
  | error e => exact .error e
  | null => exact .null

theorem ofString (s : String) : (Value.ofString s).Alike R (.ofString s) := .str rfl

theorem kind_eq (h : v.Alike R w) : v.kind = w.kind := by
  cases h <;> rfl

theorem typeName_eq (h : v.Alike R w) : v.typeName = w.typeName := congrArg Kind.name h.kind_eq

theorem mapKey_eq (h : v.Alike R w) : v.mapKey = w.mapKey := by
  cases h with
  | str h => exact congrArg (fun s => Except.ok (MapKey.str s)) h
  | _ => rfl

theorem requireInt_eq (h : v.Alike R w) : v.requireInt = w.requireInt := by
  cases h <;> rfl

theorem promote?_eq (ha : a.Alike R a') (hb : b.Alike R b') : promote? a b = promote? a' b' := by
  cases ha <;> cases hb <;> rfl

theorem leafEqual_eq (ha : a.Alike R a') (hb : b.Alike R b') :
    Store.leafEqual a b = Store.leafEqual a' b' := by
  cases ha <;> cases hb <;> try rfl
  case str.str t t' ht u u' hu => simp only [Store.leafEqual, ht, hu]

end Value.Alike

theorem Entry.Alike.mono {e f : Entry} (hRS : R ≤ S) (h : e.Alike R f) : e.Alike S f :=
  ⟨h.key, h.written.mono hRS, h.value.mono hRS⟩

namespace Store

/-! ## Walks -/

namespace Twins

variable {st st' : Store} {inside inside' : List Container}

theorem mem_iff (h : st.Twins R st') (hinside : inside.Forall₂ R inside') {c d : Container}
    (hcd : R c d) : c ∈ inside ↔ d ∈ inside' :=
  List.rel_mem h.biUnique hcd hinside

theorem nodup_iff (h : st.Twins R st') (hinside : inside.Forall₂ R inside') :
    inside.Nodup ↔ inside'.Nodup :=
  List.rel_nodup h.biUnique hinside

/-- Two walks at once are never inside of more containers than either store has. -/
theorem length_le (h : st.Twins R st') (hinside : inside.Forall₂ R inside')
    (hnodup : inside.Nodup) :
    inside.length ≤ st.containerCount ∧ inside'.length ≤ st'.containerCount := by
  have hnodup' := (h.nodup_iff hinside).1 hnodup
  have hsub : ∀ {xs ys : List Container}, xs.Forall₂ R ys →
      xs ⊆ st.containers ∧ ys ⊆ st'.containers := by
    intro xs ys hxs
    induction hxs with
    | nil => exact ⟨List.nil_subset _, List.nil_subset _⟩
    | cons hcd _ ih =>
      exact ⟨List.cons_subset.2 ⟨(h.mem hcd).1, ih.1⟩, List.cons_subset.2 ⟨(h.mem hcd).2, ih.2⟩⟩
  rw [← length_containers, ← length_containers]
  exact ⟨(hnodup.subperm (hsub hinside).1).length_le, (hnodup'.subperm (hsub hinside).2).length_le⟩

theorem leafText_eq (h : st.Twins R st') (nested : Bool) (hv : v.Alike R w) :
    st.leafText nested v = st'.leafText nested w := by
  cases hv with
  | str ht => simp only [leafText, ht]
  | fn f => simp only [leafText, h.callableName f]
  | _ => rfl

/-- The text of a value inside of containers, where the depth is enough in both stores. -/
theorem textWithin_eq (h : st.Twins R st') {depth depth' : Nat} (hinside : inside.Forall₂ R inside')
    (hnodup : inside.Nodup) (hdepth : st.containerCount < depth + inside.length)
    (hdepth' : st'.containerCount < depth' + inside'.length) (nested : Bool) (hv : v.Alike R w) :
    st.textWithin depth inside nested v = st'.textWithin depth' inside' nested w := by
  have hle := h.length_le hinside hnodup
  induction depth generalizing depth' inside inside' nested v w with
  | zero => omega
  | succ depth ih =>
    cases depth' with
    | zero => omega
    | succ depth' =>
      -- the walks go on inside of one more container each
      have hnext : ∀ {c d : Container}, R c d → c ∉ inside → ∀ {v w : Value}, v.Alike R w →
          st.textWithin depth (c :: inside) true v =
            st'.textWithin depth' (d :: inside') true w := by
        intro c d hcd hc v w hvw
        have hinside' := List.Forall₂.cons hcd hinside
        have hnodup' := List.nodup_cons.2 ⟨hc, hnodup⟩
        refine ih hinside' hnodup' ?_ ?_ true hvw (h.length_le hinside' hnodup')
        · rw [List.length_cons]
          omega
        · rw [List.length_cons]
          omega
      cases hv with
      | @list x y hxy =>
        simp only [textWithin, List.contains_eq_mem, decide_eq_true_eq, h.mem_iff hinside hxy]
        split
        · rfl
        · rename_i hy
          have hx := mt (h.mem_iff hinside hxy).1 hy
          exact congrArg listText (map_eq_map_of_forall₂ (h.items hxy) fun v w => hnext hxy hx)
      | @map x y hxy =>
        simp only [textWithin, List.contains_eq_mem, decide_eq_true_eq, h.mem_iff hinside hxy]
        split
        · rfl
        · rename_i hy
          have hx := mt (h.mem_iff hinside hxy).1 hy
          refine congrArg mapText (map_eq_map_of_forall₂ (h.entries hxy) fun e f hef => ?_)
          rw [hnext hxy hx hef.written, hnext hxy hx hef.value]
      | str ht => exact h.leafText_eq nested (.str ht)
      | fn f => exact h.leafText_eq nested (.fn f)
      | _ => rfl

/-- Alike values have the same text. -/
theorem text_eq (h : st.Twins R st') (hv : v.Alike R w) : st.text v = st'.text w :=
  h.textWithin_eq .nil List.nodup_nil (Nat.lt_succ_self _) (Nat.lt_succ_self _) false hv

theorem isTruthy_eq (h : st.Twins R st') (hv : v.Alike R w) : st.isTruthy v = st'.isTruthy w := by
  have hisEmpty : ∀ {α : Type} {xs ys : List α} {P : α → α → Prop}, xs.Forall₂ P ys →
      xs.isEmpty = ys.isEmpty := by
    intro α xs ys P hxs
    cases hxs <;> rfl
  cases hv with
  | @str t u ht =>
    have hempty : t.isEmpty = u.isEmpty := by
      rw [Bool.eq_iff_iff, RichText.isEmpty_iff, RichText.isEmpty_iff, ht]
    simp only [isTruthy, hempty]
  | list hxy => simp only [isTruthy, hisEmpty (h.items hxy)]
  | map hxy => simp only [isTruthy, hisEmpty (h.entries hxy)]
  | _ => rfl

end Twins

/-! ## Comparison -/

theorem findEntry?_alike {es fs : List Entry} (h : es.Forall₂ (Entry.Alike R) fs) (k : MapKey) :
    Option.Rel (Entry.Alike R) (Store.findEntry? k es) (Store.findEntry? k fs) := by
  induction h with
  | nil => exact .none
  | @cons e f es fs hef _ ih =>
    simp only [Store.findEntry?, List.find?_cons, hef.key]
    split
    · exact .some hef
    · exact ih

/-- Pairs of containers that correspond. -/
def PairsAlike (R : Pairing) (pq pq' : Container × Container) : Prop := R pq.1 pq'.1 ∧ R pq.2 pq'.2

theorem PairsAlike.biUnique (h : Relator.BiUnique R) : Relator.BiUnique (PairsAlike R) :=
  ⟨fun _ _ _ hx hy => Prod.ext (h.1 hx.1 hy.1) (h.1 hx.2 hy.2),
    fun _ _ _ hx hy => Prod.ext (h.2 hx.1 hy.1) (h.2 hx.2 hy.2)⟩

/-- What is held in the same place of two containers, in each of two stores. -/
def PartsAlike (R : Pairing) (part part' : Value × Option Value) : Prop :=
  part.1.Alike R part'.1 ∧ Option.Rel (Value.Alike R) part.2 part'.2

namespace Twins

variable {st st' : Store} {p q : Container}

theorem pair?_eq_none_iff (ha : a.Alike R a') (hb : b.Alike R b') :
    pair? a b = none ↔ pair? a' b' = none := by
  cases ha <;> cases hb <;> simp [pair?]

/-- Containers to be compared in one store correspond to containers to be compared in the other,
with as much in them, and alike things in the same places. -/
theorem pair?_alike (h : st.Twins R st') (ha : a.Alike R a') (hb : b.Alike R b')
    (hpq : pair? a b = some (p, q)) : ∃ p' q', pair? a' b' = some (p', q') ∧
      PairsAlike R (p, q) (p', q') ∧ (st.size p = st.size q ↔ st'.size p' = st'.size q') ∧
      (st.parts p q).Forall₂ (PartsAlike R) (st'.parts p' q') := by
  cases ha <;> cases hb <;> cases hpq
  case list.list x x' hx y y' hy =>
    have hxs := h.items hx
    have hys := h.items hy
    refine ⟨_, _, rfl, ⟨hx, hy⟩, ?_, ?_⟩
    · simp only [size, contents, hxs.length_eq, hys.length_eq]
    · refine List.rel_map (fun _ _ hvw => ?_) (forall₂_zip_zip hxs hys)
      exact ⟨hvw.1, .some hvw.2⟩
  case map.map x x' hx y y' hy =>
    have hxs := h.entries hx
    have hys := h.entries hy
    refine ⟨_, _, rfl, ⟨hx, hy⟩, ?_, ?_⟩
    · simp only [size, contents, List.length_map, hxs.length_eq, hys.length_eq]
    · refine List.rel_map (fun e f hef => ⟨hef.value, ?_⟩) hxs
      have hfound := findEntry?_alike hys e.key
      rw [hef.key] at hfound ⊢
      generalize findEntry? f.key (st.entries y) = found at hfound ⊢
      generalize findEntry? f.key (st'.entries y') = found' at hfound ⊢
      cases hfound with
      | none => exact .none
      | some hef => exact .some hef.value

/-- Comparisons of alike values that are inside of corresponding pairs have the same answer. -/
theorem compared_eq (h : st.Twins R st') {assumed assumed' : List (Container × Container)}
    {answer answer' : Bool} (hassumed : assumed.Forall₂ (PairsAlike R) assumed')
    (ha : a.Alike R a') (hb : b.Alike R b') (hcompared : st.Compared assumed a b answer)
    (hcompared' : st'.Compared assumed' a' b' answer') : answer = answer' := by
  induction hcompared generalizing assumed' a' b' answer' with
  | leaf hpair =>
    have hpair' := (pair?_eq_none_iff ha hb).1 hpair
    cases hcompared' with
    | leaf => exact ha.leafEqual_eq hb
    | same hpair'' => exact nomatch hpair'.symm.trans hpair''
    | met hpair'' => exact nomatch hpair'.symm.trans hpair''
    | opened _ hpair'' => exact nomatch hpair'.symm.trans hpair''
  | same hpair =>
    obtain ⟨p', q', hpair', hpq, -⟩ := h.pair?_alike ha hb hpair
    have hsame : p' = q' := h.biUnique.2 hpq.1 hpq.2
    cases hcompared' with
    | leaf hpair'' => exact nomatch hpair'.symm.trans hpair''
    | same => rfl
    | met => rfl
    | opened _ hpair'' hne =>
      cases hpair'.symm.trans hpair''
      exact absurd hsame hne
  | met hpair hmet =>
    obtain ⟨p', q', hpair', hpq, -⟩ := h.pair?_alike ha hb hpair
    have hmet' := (List.rel_mem (PairsAlike.biUnique h.biUnique) hpq hassumed).1 hmet
    cases hcompared' with
    | leaf hpair'' => exact nomatch hpair'.symm.trans hpair''
    | same => rfl
    | met => rfl
    | opened _ hpair'' _ hnew =>
      cases hpair'.symm.trans hpair''
      exact absurd hmet' hnew
  | opened answer hpair hne hnew hparts ih =>
    obtain ⟨p', q', hpair', hpq, hsize, halike⟩ := h.pair?_alike ha hb hpair
    cases hcompared' with
    | leaf hpair'' => exact nomatch hpair'.symm.trans hpair''
    | same hpair'' =>
      cases hpair'.symm.trans hpair''
      exact absurd (h.biUnique.1 hpq.1 hpq.2) hne
    | met hpair'' hmet =>
      cases hpair'.symm.trans hpair''
      exact absurd ((List.rel_mem (PairsAlike.biUnique h.biUnique) hpq hassumed).2 hmet) hnew
    | opened answer' hpair'' _ _ hparts' =>
      cases hpair'.symm.trans hpair''
      simp only [hsize]
      refine congrArg (_ && ·) (all_eq_all_of_forall₂ halike ?_)
      rintro ⟨v, w⟩ hpart ⟨v', w'⟩ hpart' ⟨hv, hw⟩
      cases hw with
      | none => rfl
      | some hw => exact ih _ hpart _ rfl (.cons hpq hassumed) hv hw (hparts' _ hpart' _ rfl)

/-- Alike values are equal to alike values. -/
theorem equal_eq (h : st.Twins R st') (ha : a.Alike R a') (hb : b.Alike R b') :
    st.equal a b = st'.equal a' b' :=
  h.compared_eq .nil ha hb (compared_equal st a b) (compared_equal st' a' b')

end Twins
end Store

/-! ## New containers -/

/-- The correspondence with one more pair. -/
def Pairing.add (R : Pairing) (c d : Container) : Pairing :=
  fun c' d' => R c' d' ∨ c' = c ∧ d' = d

theorem Pairing.le_add (R : Pairing) (c d : Container) : R ≤ R.add c d := fun _ _ => .inl

theorem Pairing.biUnique_add {c d : Container} (h : Relator.BiUnique R) (hc : ∀ d', ¬ R c d')
    (hd : ∀ c', ¬ R c' d) : Relator.BiUnique (R.add c d) := by
  constructor
  · rintro c₁ c₂ d' (h₁ | ⟨rfl, rfl⟩) (h₂ | ⟨rfl, hd₂⟩)
    · exact h.1 h₁ h₂
    · exact absurd (hd₂ ▸ h₁) (hd _)
    · exact absurd h₂ (hd _)
    · rfl
  · rintro c' d₁ d₂ (h₁ | ⟨rfl, rfl⟩) (h₂ | ⟨hc₂, rfl⟩)
    · exact h.2 h₁ h₂
    · exact absurd (hc₂ ▸ h₁) (hc _)
    · exact absurd h₂ (hc _)
    · rfl

namespace Store

variable {st st' : Store}

/-- A store with one more container, all else as before. -/
structure Adds (st : Store) (c : Container) (st₁ : Store) : Prop where
  notMem : c ∉ st.containers
  mem_iff (d : Container) : d ∈ st₁.containers ↔ d ∈ st.containers ∨ d = c
  items (x : Nat) : .list x ≠ c → st₁.items x = st.items x
  entries (x : Nat) : .map x ≠ c → st₁.entries x = st.entries x
  callableName (f : Callable) : st₁.callableName f = st.callableName f

theorem adds_newList (st : Store) (xs : List Value) :
    st.Adds (.list st.lists.size) (st.newList xs).2 where
  notMem := by simp [containers]
  mem_iff d := by
    cases d with
    | list x => simp [containers, newList, Nat.le_iff_lt_or_eq]
    | map x => simp [containers, newList]
  items x hx := by
    have hne : x ≠ st.lists.size := fun h => hx (congrArg _ h)
    simp only [items, newList, Array.getD_eq_getD_getElem?, Array.getElem?_push, if_neg hne]
  entries _ _ := rfl
  callableName _ := rfl

theorem adds_newMap (st : Store) (es : List Entry) :
    st.Adds (.map st.maps.size) (st.newMap es).2 where
  notMem := by simp [containers]
  mem_iff d := by
    cases d with
    | list x => simp [containers, newMap]
    | map x => simp [containers, newMap, Nat.le_iff_lt_or_eq]
  items _ _ := rfl
  entries x hx := by
    have hne : x ≠ st.maps.size := fun h => hx (congrArg _ h)
    simp only [entries, newMap, Array.getD_eq_getD_getElem?, Array.getElem?_push, if_neg hne]
  callableName _ := rfl

@[simp] theorem items_newList_size (st : Store) (xs : List Value) :
    (st.newList xs).2.items st.lists.size = xs := by
  simp [items, newList, Array.getD]

@[simp] theorem entries_newMap_size (st : Store) (es : List Entry) :
    (st.newMap es).2.entries st.maps.size = es := by
  simp [entries, newMap, Array.getD]

namespace Twins

/-- Twins with one more container each are twins when these two hold alike things. -/
theorem add {st₁ st₁' : Store} {c d : Container} (h : st.Twins R st') (hst : st.Adds c st₁)
    (hst' : st'.Adds d st₁')
    (hitems : ∀ x y, .list x = c → .list y = d →
      (st₁.items x).Forall₂ (Value.Alike R) (st₁'.items y))
    (hentries : ∀ x y, .map x = c → .map y = d →
      (st₁.entries x).Forall₂ (Entry.Alike R) (st₁'.entries y)) :
    st₁.Twins (R.add c d) st₁' := by
  have hle := R.le_add c d
  -- nothing corresponds to the new containers yet
  have hc : ∀ d', ¬ R c d' := fun d' hR => hst.notMem (h.mem hR).1
  have hd : ∀ c', ¬ R c' d := fun c' hR => hst'.notMem (h.mem hR).2
  have hold : ∀ {c' d'}, R c' d' → c' ≠ c ∧ d' ≠ d := by
    intro c' d' hR
    exact ⟨fun heq => hc d' (heq ▸ hR), fun heq => hd c' (heq ▸ hR)⟩
  refine ⟨Pairing.biUnique_add h.biUnique hc hd, ?_, ?_, ?_, fun f => ?_⟩
  · rintro c' d' (hR | hnew)
    · exact ⟨(hst.mem_iff c').2 (.inl (h.mem hR).1), (hst'.mem_iff d').2 (.inl (h.mem hR).2)⟩
    · exact ⟨(hst.mem_iff c').2 (.inr hnew.1), (hst'.mem_iff d').2 (.inr hnew.2)⟩
  · rintro x y (hR | ⟨hx, hy⟩)
    · rw [hst.items x (hold hR).1, hst'.items y (hold hR).2]
      exact (h.items hR).imp fun _ _ hv => hv.mono hle
    · exact (hitems x y hx hy).imp fun _ _ hv => hv.mono hle
  · rintro x y (hR | ⟨hx, hy⟩)
    · rw [hst.entries x (hold hR).1, hst'.entries y (hold hR).2]
      exact (h.entries hR).imp fun _ _ he => he.mono hle
    · exact (hentries x y hx hy).imp fun _ _ he => he.mono hle
  · rw [hst.callableName, hst'.callableName, h.callableName]

theorem newList (h : st.Twins R st') {xs ys : List Value} (hxs : xs.Forall₂ (Value.Alike R) ys) :
    ∃ S, R ≤ S ∧ (st.newList xs).2.Twins S (st'.newList ys).2 ∧
      (st.newList xs).1.Alike S (st'.newList ys).1 := by
  refine ⟨_, R.le_add _ _, h.add (st.adds_newList xs) (st'.adds_newList ys) ?_ nofun,
    .list (.inr ⟨rfl, rfl⟩)⟩
  rintro x y ⟨⟩ ⟨⟩
  rwa [items_newList_size, items_newList_size]

theorem newMap (h : st.Twins R st') {es fs : List Entry} (hes : es.Forall₂ (Entry.Alike R) fs) :
    ∃ S, R ≤ S ∧ (st.newMap es).2.Twins S (st'.newMap fs).2 ∧
      (st.newMap es).1.Alike S (st'.newMap fs).1 := by
  refine ⟨_, R.le_add _ _, h.add (st.adds_newMap es) (st'.adds_newMap fs) nofun ?_,
    .map (.inr ⟨rfl, rfl⟩)⟩
  rintro x y ⟨⟩ ⟨⟩
  rwa [entries_newMap_size, entries_newMap_size]

mutual

/-- The same document makes alike values. -/
theorem ofJson {R : Pairing} {st st' : Store} (h : st.Twins R st') (j : Json) : ∃ S, R ≤ S ∧
    (st.ofJson j).2.Twins S (st'.ofJson j).2 ∧ (st.ofJson j).1.Alike S (st'.ofJson j).1 := by
  cases j with
  | null => exact ⟨R, le_rfl, h, .null⟩
  | bool b => exact ⟨R, le_rfl, h, .bool b⟩
  | int n =>
    refine ⟨R, le_rfl, h, ?_⟩
    simp only [Store.ofJson, valueOfInt]
    split
    · exact .int _
    · exact .float _
  | float x => exact ⟨R, le_rfl, h, .float x⟩
  | str s => exact ⟨R, le_rfl, h, .str rfl⟩
  | arr items =>
    obtain ⟨S, hRS, hS, hvalues⟩ := ofJsonItems h items
    obtain ⟨T, hST, hT, hlist⟩ := hS.newList hvalues
    exact ⟨T, hRS.trans hST, hT, hlist⟩
  | obj members =>
    obtain ⟨S, hRS, hS, hentries⟩ := ofJsonMembers h members
    obtain ⟨T, hST, hT, hmap⟩ := hS.newMap hentries
    exact ⟨T, hRS.trans hST, hT, hmap⟩

theorem ofJsonItems {R : Pairing} {st st' : Store} (h : st.Twins R st') (items : List Json) :
    ∃ S, R ≤ S ∧
    (st.ofJsonItems items).2.Twins S (st'.ofJsonItems items).2 ∧
    (st.ofJsonItems items).1.Forall₂ (Value.Alike S) (st'.ofJsonItems items).1 := by
  cases items with
  | nil => exact ⟨R, le_rfl, h, .nil⟩
  | cons j rest =>
    obtain ⟨S, hRS, hS, hv⟩ := ofJson h j
    obtain ⟨T, hST, hT, hvs⟩ := ofJsonItems hS rest
    exact ⟨T, hRS.trans hST, hT, .cons (hv.mono hST) hvs⟩

theorem ofJsonMembers {R : Pairing} {st st' : Store} (h : st.Twins R st')
    (members : List (String × Json)) : ∃ S, R ≤ S ∧
    (st.ofJsonMembers members).2.Twins S (st'.ofJsonMembers members).2 ∧
    (st.ofJsonMembers members).1.Forall₂ (Entry.Alike S) (st'.ofJsonMembers members).1 := by
  cases members with
  | nil => exact ⟨R, le_rfl, h, .nil⟩
  | cons member rest =>
    obtain ⟨k, j⟩ := member
    obtain ⟨S, hRS, hS, hv⟩ := ofJson h j
    obtain ⟨T, hST, hT, hes⟩ := ofJsonMembers hS rest
    exact ⟨T, hRS.trans hST, hT, .cons ⟨rfl, .ofString k, hv.mono hST⟩ hes⟩

end

end Twins
end Store
end TableScript
