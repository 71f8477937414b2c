import TableScript.Proofs.Json.Reordering
import TableScript.Proofs.Number.Rounding
import TableScript.Proofs.Text.Characters
import TableScript.Proofs.Value.Bisimilarity
import TableScript.Proofs.Value.Making
import TableScript.Proofs.Value.Unfolding

/-!
# Values and their documents

A document becomes a value with new containers, and a value becomes the document of its unfolding.

1. `HasJson` relates a value to the document of its unfolding, container by container
   (`hasJson_container_iff`). It is the document that the value becomes, if any (`hasJson_iff`);
2. the value made of a document has that document, if a value can hold it exactly (`Made.hasJson`);
3. what is made of a plain value's document is bisimilar to the value (`isBisimulation_remade`);
4. `document_round_trip` says both ways around.
-/

namespace TableScript

/-! ## Lists side by side -/

theorem forall₂_imp_of_mem {α β : Type} {R S : α → β → Prop} {xs : List α} {ys : List β}
    (h : xs.Forall₂ R ys) (hRS : ∀ x ∈ xs, ∀ y ∈ ys, R x y → S x y) : xs.Forall₂ S ys := by
  obtain ⟨hlength, hR⟩ := List.forall₂_iff_zip.1 h
  refine List.forall₂_iff_zip.2 ⟨hlength, fun {x y} hxy => ?_⟩
  obtain ⟨hx, hy⟩ := List.of_mem_zip hxy
  exact hRS x hx y hy (hR hxy)

/-- Lists related to one list are related to each other. -/
theorem forall₂_of_common {α β γ : Type} {R : α → γ → Prop} {S : β → γ → Prop} {xs : List α}
    {ys : List β} {zs : List γ} (h : xs.Forall₂ R zs) (h' : ys.Forall₂ S zs) :
    xs.Forall₂ (fun x y => ∃ z, R x z ∧ S y z) ys := by
  induction h generalizing ys with
  | nil =>
    cases h'
    exact .nil
  | cons hxz _ ih =>
    cases h' with
    | cons hyz h' => exact .cons ⟨_, hxz, hyz⟩ (ih h')

theorem forall₂_zip_right {α β γ : Type} {R : α → β → Prop} {S : α → γ → Prop} {xs : List α}
    {ys : List β} {zs : List γ} (h : xs.Forall₂ R ys) (h' : xs.Forall₂ S zs) :
    xs.Forall₂ (fun x p => R x p.1 ∧ S x p.2) (ys.zip zs) := by
  induction h generalizing zs with
  | nil =>
    cases h'
    exact .nil
  | cons hxy _ ih =>
    cases h' with
    | cons hxz h' => exact .cons ⟨hxy, hxz⟩ (ih h')

namespace Json

/-- A document, in the form in which documents are used, that a value can hold exactly: no object
has a key twice, doubles are finite, and integers fit a word. -/
inductive Exact : Json → Prop
  | null : Exact .null
  | bool (b : Bool) : Exact (.bool b)
  | int {n : Int} : Int64.minValue.toInt ≤ n → n ≤ Int64.maxValue.toInt → Exact (.int n)
  | float {x : Double} : x.isFinite → Exact (.float x)
  | str (s : String) : Exact (.str s)
  | arr {items : List Json} : (∀ j ∈ items, Exact j) → Exact (.arr items)
  | obj {members : List (String × Json)} : (members.map (·.1)).Nodup →
    (∀ m ∈ members, Exact m.2) → Exact (.obj members)

/-- Exact documents are documents in which no object has a key twice. -/
theorem Exact.distinct {j : Json} (h : Exact j) : Distinct j := by
  induction h with
  | arr _ ih => exact .arr ih
  | obj hnodup _ ih => exact .obj hnodup ih
  | _ => exact .leaf nofun nofun

theorem setMember_of_not_mem {α : Type} {key : String} {value : α} {members : List (String × α)}
    (h : key ∉ members.map (·.1)) : setMember key value members = members ++ [(key, value)] := by
  induction members with
  | nil => rfl
  | cons m members ih =>
    obtain ⟨hne, hrest⟩ := not_or.1 (mt List.mem_cons.2 h)
    rw [setMember, if_neg (Ne.symm hne), ih hrest, List.cons_append]

theorem collapseMembers_concat {α : Type} (members : List (String × α)) (m : String × α) :
    collapseMembers (members ++ [m]) = setMember m.1 m.2 (collapseMembers members) :=
  List.foldl_concat ..

/-- Members with different names are all kept. -/
theorem collapseMembers_of_nodup {α : Type} {members : List (String × α)}
    (h : (members.map (·.1)).Nodup) : collapseMembers members = members := by
  induction members using List.reverseRecOn with
  | nil => rfl
  | append_singleton members m ih =>
    rw [List.map_append, List.nodup_append'] at h
    obtain ⟨hnodup, -, hdisjoint⟩ := h
    have hnew : m.1 ∉ members.map (·.1) := fun hmem => hdisjoint hmem (List.mem_singleton_self m.1)
    rw [collapseMembers_concat, ih hnodup, setMember_of_not_mem hnew]

end Json

theorem Value.mapKey_ofString (s : String) : (Value.ofString s).mapKey = .ok (.str s) := by
  rw [Value.ofString, Value.mapKey, RichText.plain_ofString]

namespace Store

variable {st st' old : Store} {v w : Value} {j : Json} {c : Container}

/-! ## The document of an unfolding -/

theorem jsons_eq_ok_iff {ts : List Sketch} {js : List Json} :
    Sketch.jsons st ts = .ok js ↔ ts.Forall₂ (fun t j => t.json st = .ok j) js := by
  induction ts generalizing js with
  | nil =>
    rw [Sketch.jsons, List.forall₂_nil_left_iff, Except.ok.injEq]
    exact eq_comm
  | cons t ts ih =>
    rw [Sketch.jsons, List.forall₂_cons_left_iff]
    simp only [← ih]
    cases t.json st with
    | error f => simp [bind, Except.bind]
    | ok j => cases Sketch.jsons st ts <;> simp [bind, Except.bind, pure, Except.pure, eq_comm]

/-- A value unfolds, and this is the document of its unfolding. -/
def HasJson (st : Store) (v : Value) (j : Json) : Prop := ∃ t, st.Unfolds v t ∧ t.json st = .ok j

theorem hasJson_leaf_iff (h : v.container? = none) : st.HasJson v j ↔ leafJson v = .ok j := by
  constructor
  · rintro ⟨t, ht, hj⟩
    cases ht with
    | leaf => rwa [Sketch.json] at hj
    | opened _ hv => cases h.symm.trans hv
  · intro hj
    exact ⟨.leaf v, .leaf h, by rwa [Sketch.json]⟩

/-- The document of a container is put together from the documents of what it holds. -/
theorem hasJson_container_iff (h : v.container? = some c) :
    st.HasJson v j ↔ ∃ js, (st.contents c).Forall₂ st.HasJson js ∧ j = st.containerJson c js := by
  constructor
  · rintro ⟨t, ht, hj⟩
    cases ht with
    | leaf hv => cases h.symm.trans hv
    | opened draw hv hparts =>
      cases h.symm.trans hv
      rw [Sketch.json] at hj
      cases hjs : Sketch.jsons st ((st.contents c).map draw) with
      | error f =>
        rw [hjs] at hj
        cases hj
      | ok js =>
        rw [hjs] at hj
        refine ⟨js, ?_, (Except.ok.inj hj).symm⟩
        have hjsons := List.forall₂_map_left_iff.1 (jsons_eq_ok_iff.1 hjs)
        exact forall₂_imp_of_mem hjsons fun w hw j _ hj => ⟨draw w, hparts w hw, hj⟩
  · rintro ⟨js, hjs, rfl⟩
    have hboth : (st.contents c).Forall₂ (fun w j => (∃ t, st.Unfolds w t) ∧ st.HasJson w j) js :=
      hjs.imp fun w j hw => ⟨hw.imp fun t ht => ht.1, hw⟩
    have hparts := ((List.forall₂_and_left _ _).1 hboth).1
    choose! draw hdraw using hparts
    refine ⟨_, .opened draw h hdraw, ?_⟩
    have hjsons : Sketch.jsons st ((st.contents c).map draw) = .ok js := by
      rw [jsons_eq_ok_iff, List.forall₂_map_left_iff]
      refine forall₂_imp_of_mem hjs ?_
      rintro w hw j - ⟨t, ht, hj⟩
      rwa [(hdraw w hw).unique ht]
    rw [Sketch.json, hjsons]
    rfl

/-- A value becomes the document of its unfolding, and no other. -/
theorem hasJson_iff : st.HasJson v j ↔ st.toJson v = .ok j := by
  obtain ⟨t, hdrawn, -, hjson⟩ := exists_drawn_within List.nodup_nil (List.nil_subset _)
    (Nat.lt_succ_self st.containerCount) v
  change st.toJson v = t.json st at hjson
  rw [hjson]
  constructor
  · rintro ⟨u, hu, hj⟩
    rwa [(hdrawn.unfolds nofun fun w => hu.not_containsItself).unique hu]
  · intro hj
    exact ⟨t, hdrawn.unfolds_of_json ⟨j, hj⟩, hj⟩

theorem HasJson.not_containsItself (h : st.HasJson v j) (hw : st.Reaches v w) :
    ¬ st.ContainsItself w := by
  obtain ⟨t, ht, -⟩ := h
  exact ht.not_containsItself hw

/-! ## From documents to values -/

theorem valueOfInt_eq {n : Int} (hlow : Int64.minValue.toInt ≤ n)
    (hhigh : n ≤ Int64.maxValue.toInt) : valueOfInt n = .int (.ofInt n) :=
  if_pos ⟨hlow, hhigh⟩

/-- **The value made of a document has this document.** -/
theorem Made.hasJson (hexact : j.Exact) (h : Made old st j v) : st.HasJson v j := by
  induction hexact generalizing v with
  | null =>
    rw [Made] at h
    subst h
    exact (hasJson_leaf_iff rfl).2 rfl
  | bool b =>
    rw [Made] at h
    subst h
    exact (hasJson_leaf_iff rfl).2 rfl
  | int hlow hhigh =>
    rw [Made, valueOfInt_eq hlow hhigh] at h
    subst h
    refine (hasJson_leaf_iff rfl).2 ?_
    rw [leafJson, Int64.toInt_ofInt_of_le hlow (Int.lt_add_one_iff.2 hhigh)]
  | float hx =>
    rw [Made] at h
    subst h
    refine (hasJson_leaf_iff rfl).2 ?_
    rw [leafJson, if_pos hx]
  | str s =>
    rw [Made] at h
    subst h
    refine (hasJson_leaf_iff rfl).2 ?_
    rw [Value.ofString, leafJson, RichText.plain_ofString]
  | @arr items _ ih =>
    rw [Made] at h
    obtain ⟨a, rfl, -, -, h⟩ := h
    refine (hasJson_container_iff (c := .list a) rfl).2 ⟨items, ?_, rfl⟩
    exact forall₂_imp_of_mem h.forall₂ fun v _ j hj hv => ih j hj hv
  | @obj members hnodup _ ih =>
    rw [Made] at h
    obtain ⟨a, rfl, -, -, h⟩ := h
    have hnames : ((st.entries a).map fun e => st.memberName e.written) = members.map Prod.fst :=
      map_eq_map_of_forall₂ h.forall₂ fun e m hem => by
        rw [hem.2.1]
        exact RichText.plain_ofString m.1
    have hvalues : ((st.entries a).map Entry.value).Forall₂ st.HasJson (members.map Prod.snd) := by
      rw [List.forall₂_map_left_iff, List.forall₂_map_right_iff]
      exact forall₂_imp_of_mem h.forall₂ fun e _ m hm hem => ih m hm hem.2.2
    refine (hasJson_container_iff (c := .map a) rfl).2 ⟨_, hvalues, ?_⟩
    rw [containerJson, hnames, ← List.zip_of_prod rfl rfl, Json.collapseMembers_of_nodup hnodup]

/-! ## From values to documents -/

/-- A value that a document can hold, but for what it holds itself: a scalar other than a function,
an error or a double that is not finite, or a container in the store; the keys of maps are
strings. -/
def Plain (st : Store) : Value → Prop
  | .null | .bool _ | .int _ | .str _ => True
  | .float x => x.isFinite
  | .list a => a < st.lists.size
  | .map a => a < st.maps.size ∧ ∀ e ∈ st.entries a, ∃ t, e.written = .str t
  | .fn _ | .error _ => False

/-- Everything that a value reaches is plain. -/
def PlainWithin (st : Store) (v : Value) : Prop := ∀ w, st.Reaches v w → st.Plain w

theorem PlainWithin.self (h : st.PlainWithin v) : st.Plain v := h v .refl

theorem PlainWithin.of_mem (h : st.PlainWithin v) (hv : v.container? = some c)
    (hw : w ∈ st.contents c) : st.PlainWithin w :=
  fun u hu => h u (.head ((holds_iff hv).2 hw) hu)

/-- A plain value that contains itself nowhere has a document. -/
theorem PlainWithin.exists_hasJson (h : st.PlainWithin v)
    (hself : ∀ w, st.Reaches v w → ¬ st.ContainsItself w) : ∃ j, st.HasJson v j := by
  obtain ⟨t, hdrawn, -, -⟩ := exists_drawn_within List.nodup_nil (List.nil_subset _)
    (Nat.lt_succ_self st.containerCount) v
  have hunfolds := hdrawn.unfolds nofun hself
  obtain ⟨j, hj⟩ := hunfolds.exists_json_iff.2 fun w hw f hf => by
    subst hf
    exact (h _ hw).elim
  exact ⟨j, t, hunfolds, hj⟩

/-- The name of a member is the key of its entry. -/
theorem Plain.key_eq (hhashed : st.KeysHashed) {a : Nat} (h : st.Plain (.map a)) {e : Entry}
    (he : e ∈ st.entries a) : e.key = .str (st.memberName e.written) := by
  obtain ⟨t, ht⟩ := h.2 e he
  have hkey := hhashed.mapKey_written he
  rw [ht] at hkey ⊢
  exact (Except.ok.inj hkey).symm

theorem Plain.nodup_memberNames (hkeys : st.Keyed) {a : Nat} (h : st.Plain (.map a)) :
    ((st.entries a).map fun e => st.memberName e.written).Nodup := by
  have hnames : ((st.entries a).map fun e => st.memberName e.written).map MapKey.str =
      (st.entries a).map Entry.key := by
    rw [List.map_map]
    exact List.map_congr_left fun e he => (h.key_eq hkeys.hashed he).symm
  refine List.Nodup.of_map MapKey.str ?_
  rw [hnames]
  exact hkeys.distinct.entries a

/-- Every entry gives a member, before members of one name are taken together. -/
theorem HasJson.rows {a : Nat} (h : st.HasJson (.map a) j) :
    ∃ rows, j = .obj (Json.collapseMembers rows) ∧ (st.entries a).Forall₂
      (fun e m => st.memberName e.written = m.1 ∧ st.HasJson e.value m.2) rows := by
  obtain ⟨js, hjs, rfl⟩ := (hasJson_container_iff (c := .map a) rfl).1 h
  have hvalues : (st.entries a).Forall₂ (fun e j => st.HasJson e.value j) js :=
    List.forall₂_map_left_iff.1 hjs
  have hnames : (st.entries a).Forall₂ (fun e name => st.memberName e.written = name)
      ((st.entries a).map fun e => st.memberName e.written) :=
    List.forall₂_map_right_iff.2 (List.forall₂_same.2 fun e _ => rfl)
  exact ⟨_, rfl, forall₂_zip_right hnames hvalues⟩

/-- The members of a plain map's document are its entries, under different names. -/
theorem HasJson.members (hkeys : st.Keyed) {a : Nat} (h : st.Plain (.map a))
    (hjson : st.HasJson (.map a) j) : ∃ members, j = .obj members ∧ (members.map (·.1)).Nodup ∧
      (st.entries a).Forall₂ (fun e m => e.key = .str m.1 ∧ st.HasJson e.value m.2) members := by
  obtain ⟨rows, rfl, hrows⟩ := hjson.rows
  have hnodup : (rows.map (·.1)).Nodup := by
    rw [← map_eq_map_of_forall₂ hrows fun e m hem => hem.1]
    exact h.nodup_memberNames hkeys
  refine ⟨rows, by rw [Json.collapseMembers_of_nodup hnodup], hnodup, ?_⟩
  refine forall₂_imp_of_mem hrows fun e he m _ hem => ⟨?_, hem.2⟩
  rw [h.key_eq hkeys.hashed he, hem.1]

/-- The documents of plain values are exact. -/
theorem HasJson.exact (hkeys : st.Keyed) (h : st.HasJson v j) (hplain : st.PlainWithin v) :
    j.Exact := by
  obtain ⟨t, ht, hj⟩ := h
  replace hj : st.HasJson v j := ⟨t, ht, hj⟩
  induction ht generalizing j with
  | @leaf v hv =>
    rw [hasJson_leaf_iff hv] at hj
    have hself := hplain.self
    cases v with
    | null => exact Except.ok.inj hj ▸ .null
    | bool b => exact Except.ok.inj hj ▸ .bool b
    | int n => exact Except.ok.inj hj ▸ .int n.le_toInt (Int.le_of_lt_add_one n.toInt_lt)
    | float x =>
      have hfinite : x.isFinite = true := hself
      rw [leafJson, if_pos hfinite] at hj
      exact Except.ok.inj hj ▸ .float hfinite
    | str t => exact Except.ok.inj hj ▸ .str _
    | error e => exact hself.elim
    | fn f => exact hself.elim
    | list a => cases hv
    | map a => cases hv
  | @opened v c draw hv _ ih =>
    have hwithin : ∀ w ∈ st.contents c, ∀ j, st.HasJson w j → j.Exact := fun w hw j hj =>
      ih w hw (hplain.of_mem hv hw) hj
    obtain rfl := Value.container?_eq_some_iff.1 hv
    cases c with
    | list a =>
      obtain ⟨js, hjs, rfl⟩ := (hasJson_container_iff hv).1 hj
      have hitems : js.Forall₂ (fun j w => j.Exact ∧ st.HasJson w j) (st.items a) :=
        (forall₂_imp_of_mem hjs fun w hw j _ hwj => ⟨hwithin w hw j hwj, hwj⟩).flip
      exact .arr ((List.forall₂_and_left _ _).1 hitems).1
    | map a =>
      obtain ⟨members, rfl, hnodup, hmembers⟩ := hj.members hkeys hplain.self
      have hvalues : members.Forall₂ (fun m e => m.2.Exact ∧ st.HasJson e.value m.2)
          (st.entries a) :=
        (forall₂_imp_of_mem hmembers fun e he m _ hem =>
          ⟨hwithin e.value (List.mem_map_of_mem he) m.2 hem.2, hem.2⟩).flip
      exact .obj hnodup ((List.forall₂_and_left _ _).1 hvalues).1

/-! ## There and back -/

theorem Keyed.newMap (h : st.Keyed) {es : List Entry} (hdistinct : (es.map Entry.key).Nodup)
    (hhashed : ∀ e ∈ es, e.written.mapKey = .ok e.key) : (st.newMap es).2.Keyed := by
  constructor
  · exact Array.forall_mem_push.2 ⟨hdistinct, h.distinct⟩
  · exact Array.forall_mem_push.2 ⟨hhashed, h.hashed⟩

/-- The key of an entry is the name of its member. -/
theorem mapKey_ofJsonMembers (st : Store) (members : List (String × Json)) :
    ∀ e ∈ (st.ofJsonMembers members).1, e.written.mapKey = .ok e.key := by
  induction members generalizing st with
  | nil => exact List.forall_mem_nil _
  | cons m rest ih =>
    rw [ofJsonMembers]
    exact List.forall_mem_cons.2 ⟨Value.mapKey_ofString m.1, ih _⟩

mutual

/-- The maps made of a document are keyed, if none of its objects has a key twice. -/
theorem Keyed.ofJson (st : Store) (h : st.Keyed) (j : Json) (hdistinct : j.Distinct) :
    (st.ofJson j).2.Keyed := by
  cases j with
  | arr items =>
    have hkeyed := Keyed.ofJsonItems st h items hdistinct.items
    rw [Store.ofJson]
    exact ⟨hkeyed.distinct, hkeyed.hashed⟩
  | obj members =>
    have hkeys : (st.ofJsonMembers members).1.map Entry.key = (members.map (·.1)).map .str := by
      rw [List.map_map]
      exact map_eq_map_of_forall₂ (made_ofJsonMembers st members).forall₂ fun e m hem => hem.1
    have hkeyed := Keyed.ofJsonMembers st h members hdistinct.members
    rw [Store.ofJson]
    refine hkeyed.newMap ?_ (mapKey_ofJsonMembers st members)
    rw [hkeys]
    exact hdistinct.nodup.map fun _ _ => MapKey.str.inj
  | _ =>
    rw [Store.ofJson]
    exact h

theorem Keyed.ofJsonItems (st : Store) (h : st.Keyed) (items : List Json)
    (hdistinct : ∀ j ∈ items, j.Distinct) : (st.ofJsonItems items).2.Keyed := by
  cases items with
  | nil => exact h
  | cons j rest =>
    obtain ⟨hj, hrest⟩ := List.forall_mem_cons.1 hdistinct
    rw [Store.ofJsonItems]
    exact Keyed.ofJsonItems _ (Keyed.ofJson st h j hj) rest hrest

theorem Keyed.ofJsonMembers (st : Store) (h : st.Keyed) (members : List (String × Json))
    (hdistinct : ∀ m ∈ members, m.2.Distinct) : (st.ofJsonMembers members).2.Keyed := by
  cases members with
  | nil => exact h
  | cons m rest =>
    obtain ⟨hj, hrest⟩ := List.forall_mem_cons.1 hdistinct
    rw [Store.ofJsonMembers]
    exact Keyed.ofJsonMembers _ (Keyed.ofJson st h m.2 hj) rest hrest

end

/-- A value made of the document that a plain value had before. -/
def Remade (st st' : Store) (v w : Value) : Prop :=
  ∃ j, Made st st' j v ∧ st.HasJson w j ∧ st.PlainWithin w

theorem Remade.sameScalar (h : Remade st st' v w) (hw : w.container? = none) :
    SameScalar v w := by
  obtain ⟨j, hmade, hjson, hplain⟩ := h
  have hself := hplain.self
  rw [hasJson_leaf_iff hw] at hjson
  cases w with
  | null =>
    cases hjson
    rw [Made] at hmade
    exact hmade ▸ .null
  | bool b =>
    cases hjson
    rw [Made] at hmade
    exact hmade ▸ .bool b
  | int n =>
    cases hjson
    have hfits := valueOfInt_eq n.le_toInt (Int.le_of_lt_add_one n.toInt_lt)
    rw [Made, hfits, Int64.ofInt_toInt] at hmade
    exact hmade ▸ .int n
  | float x =>
    have hfinite : x.isFinite = true := hself
    rw [leafJson, if_pos hfinite] at hjson
    cases hjson
    rw [Made] at hmade
    exact hmade ▸ .float (Double.sameNumber_self (Double.not_isNaN hfinite))
  | str t =>
    cases hjson
    rw [Made] at hmade
    exact hmade ▸ .str (RichText.plain_ofString t.plain)
  | error e => exact hself.elim
  | fn f => exact hself.elim
  | list a => cases hw
  | map a => cases hw

theorem Remade.items {a : Nat} (hgrows : Grows st st') (h : Remade st st' v (.list a)) :
    ∃ b, v = .list b ∧ (st'.items b).Forall₂ (Remade st st') (st'.items a) := by
  obtain ⟨j, hmade, hjson, hplain⟩ := h
  obtain ⟨js, hjs, rfl⟩ := (hasJson_container_iff (c := .list a) rfl).1 hjson
  rw [containerJson, Made] at hmade
  obtain ⟨b, rfl, -, -, hitems⟩ := hmade
  have ha : a < st.lists.size := hplain.self
  refine ⟨b, rfl, ?_⟩
  rw [hgrows.items ha]
  refine forall₂_imp_of_mem (forall₂_of_common hitems.forall₂ hjs) fun u _ w hw huw => ?_
  obtain ⟨j, hmade, hjson⟩ := huw
  exact ⟨j, hmade, hjson, hplain.of_mem (c := .list a) rfl hw⟩

/-- Entries in a row with the same keys are the entries of the same key. -/
theorem rel_of_key_eq {R : Entry → Entry → Prop} {es fs : List Entry}
    (h : es.Forall₂ (fun e f => e.key = f.key ∧ R e f) fs) (hnodup : (fs.map Entry.key).Nodup)
    {e f : Entry} (he : e ∈ es) (hf : f ∈ fs) (hkey : e.key = f.key) : R e f := by
  obtain ⟨hlength, hget⟩ := List.forall₂_iff_get.1 h
  obtain ⟨n, hn, rfl⟩ := List.getElem_of_mem he
  obtain ⟨hkey', hR⟩ := hget n hn (hlength ▸ hn)
  rwa [List.inj_on_of_nodup_map hnodup hf (List.get_mem fs _) (hkey.symm.trans hkey')]

theorem Remade.entries {a : Nat} (hkeys : st.Keyed) (hgrows : Grows st st')
    (h : Remade st st' v (.map a)) :
    ∃ b, v = .map b ∧ ((st'.entries a).map Entry.key).Nodup ∧ (st'.entries b).Forall₂
      (fun e f => e.key = f.key ∧ Remade st st' e.value f.value) (st'.entries a) := by
  obtain ⟨j, hmade, hjson, hplain⟩ := h
  obtain ⟨members, rfl, -, hmembers⟩ := hjson.members hkeys hplain.self
  rw [Made] at hmade
  obtain ⟨b, rfl, -, -, hentries⟩ := hmade
  rw [hgrows.entries hplain.self.1]
  refine ⟨b, rfl, hkeys.distinct.entries a, ?_⟩
  refine forall₂_imp_of_mem (forall₂_of_common hentries.forall₂ hmembers) fun e _ f hf hef => ?_
  obtain ⟨m, ⟨hkey, -, hmade⟩, hkey', hjson⟩ := hef
  refine ⟨hkey.trans hkey'.symm, m.2, hmade, hjson, ?_⟩
  exact hplain.of_mem (c := .map a) rfl (List.mem_map_of_mem hf)

/-- **What is made of a plain value's document is bisimilar to the value.** -/
theorem isBisimulation_remade (hkeys : st.Keyed) (hgrows : Grows st st') :
    st'.IsBisimulation (Remade st st') := by
  intro v w h
  cases hw : w.container? with
  | none => exact .scalar (h.sameScalar hw)
  | some c =>
    obtain rfl := Value.container?_eq_some_iff.1 hw
    cases c with
    | list a =>
      obtain ⟨b, rfl, hitems⟩ := h.items hgrows
      exact .list hitems
    | map a =>
      obtain ⟨b, rfl, hnodup, hentries⟩ := h.entries hkeys hgrows
      have hsame : (st'.entries b).map Entry.key = (st'.entries a).map Entry.key :=
        map_eq_map_of_forall₂ hentries fun e f hef => hef.1
      exact .map (fun k => by rw [hsame]) fun e he f hf => rel_of_key_eq hentries hnodup he hf

/-- **Values and documents.** A document that a value can hold exactly becomes a value that contains
itself nowhere, and this value becomes the document again, with the order of members and with
integers and doubles told apart. A value that contains itself nowhere and is built of null,
booleans, integers, finite doubles, strings, lists and maps whose keys are strings becomes a
document, and what this document becomes is equal to the value. -/
theorem document_round_trip (st : Store) :
    (∀ (j : Json) (v : Value) (st' : Store), j.Exact → st.ofJson j = (v, st') →
      (∀ w, st'.Reaches v w → ¬ st'.ContainsItself w) ∧ st'.toJson v = .ok j) ∧
    (st.Keyed → ∀ v, (∀ w, st.Reaches v w → st.Plain w ∧ ¬ st.ContainsItself w) →
      ∃ j u st', st.toJson v = .ok j ∧ st.ofJson j = (u, st') ∧ st'.equal u v = true) := by
  refine ⟨fun j v st' hexact hof => ?_, fun hkeys v hv => ?_⟩
  · have hmade := made_ofJson st j
    rw [hof] at hmade
    have hjson := hmade.hasJson hexact
    exact ⟨fun w => hjson.not_containsItself, hasJson_iff.1 hjson⟩
  · have hplain : st.PlainWithin v := fun w hw => (hv w hw).1
    obtain ⟨j, hj⟩ := hplain.exists_hasJson fun w hw => (hv w hw).2
    have hremade : Remade st (st.ofJson j).2 (st.ofJson j).1 v :=
      ⟨j, made_ofJson st j, hj, hplain⟩
    refine ⟨j, _, _, hasJson_iff.1 hj, rfl, ?_⟩
    refine (compared_equal _ _ _).eq_true ?_ ⟨_, ?_, hremade⟩
    · exact (hkeys.ofJson st j (hj.exact hkeys hplain).distinct).distinct
    · exact isBisimulation_remade hkeys (grows_ofJson st j)

/-- A map that holds one list twice, with an integer and a double in it. -/
def numbered : Store where
  lists := #[[.int 1, .float ⟨0x3ff0000000000000⟩]]
  maps := #[[⟨.str "b", .ofString "b", .list 0⟩, ⟨.str "a", .ofString "a", .list 0⟩]]

theorem document_round_trip_numbered :
    (∃ v st', numbered.ofJson (.obj [("b", .arr [.int 1]), ("a", .null)]) = (v, st') ∧
      st'.toJson v = .ok (.obj [("b", .arr [.int 1]), ("a", .null)])) ∧
    ∃ j u st', numbered.toJson (.map 0) = .ok j ∧ numbered.ofJson j = (u, st') ∧
      st'.equal u (.map 0) = true := by
  have hexact : Json.Exact (.obj [("b", .arr [.int 1]), ("a", .null)]) := by
    have hone : Json.Exact (.int 1) := .int (by decide) (by decide)
    refine .obj (by simp) (List.forall_mem_cons.2 ⟨.arr ?_, ?_⟩)
    · simpa using hone
    · simpa using Json.Exact.null
  have hkeys : numbered.Keyed := by
    constructor <;> simp [KeysDistinct, KeysHashed, numbered, Value.ofString, Value.mapKey]
  have hreaches : ∀ w, numbered.Reaches (.map 0) w →
      w ∈ [.map 0, .list 0, .int 1, .float ⟨0x3ff0000000000000⟩] := by
    intro w hw
    induction hw with
    | refl => exact List.mem_cons_self
    | tail _ hheld ih =>
      obtain ⟨c, hc, hmem⟩ := hheld
      obtain rfl := Value.container?_eq_some_iff.1 hc
      cases c with
      | list a =>
        obtain rfl : a = 0 := by simpa [Container.value] using ih
        simp [contents, items, numbered] at hmem ⊢
        tauto
      | map a =>
        obtain rfl : a = 0 := by simpa [Container.value] using ih
        simp [contents, entries, numbered] at hmem ⊢
        tauto
  have hself : ∃ j, numbered.HasJson (.map 0) j := ⟨_, hasJson_iff.2 rfl⟩
  obtain ⟨j, hj⟩ := hself
  have hplain : ∀ w, numbered.Reaches (.map 0) w → numbered.Plain w := by
    intro w hw
    have hmem := hreaches w hw
    simp only [List.mem_cons, List.not_mem_nil, or_false] at hmem
    obtain rfl | rfl | rfl | rfl := hmem
    · exact ⟨by decide, by simp [numbered, entries, Value.ofString]⟩
    · exact (by decide : 0 < 1)
    · trivial
    · exact (by decide +kernel : (⟨0x3ff0000000000000⟩ : Double).isFinite = true)
  obtain ⟨hdocument, hvalue⟩ := document_round_trip numbered
  refine ⟨⟨_, _, rfl, (hdocument _ _ _ hexact rfl).2⟩, ?_⟩
  exact hvalue hkeys _ fun w hw => ⟨hplain w hw, hj.not_containsItself hw⟩

end Store
end TableScript
