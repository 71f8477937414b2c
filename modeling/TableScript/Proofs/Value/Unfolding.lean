import Mathlib.Data.List.Perm.Subperm
import Mathlib.Logic.Relation
import TableScript.Proofs.Value.Contents
import TableScript.Value.Document

/-!
# Walks over values that share and contain themselves

Showing a value and turning it into a document are one walk, which remembers the containers it is
inside of and does not go into them again.

1. `Sketch` is the shape the walk takes, and `Drawn` the walk without a bound on its depth. It
   always ends, for the containers it is inside of are all different; the text and the document of a
   value are read off its shape (`exists_drawn_within`);
2. a container is cut off where the path from the root has passed it already, and nowhere else: not
   where it is only shared (`Drawn.mark_at?`);
3. `Unfolds` is the walk that remembers nothing. It ends when no container that is reached contains
   itself (`Drawn.unfolds`, `Unfolds.not_containsItself`), and then both walks take the same shape;
4. `walk_exact` puts these together.
-/

namespace TableScript

/-- The shape of a walk over a value. -/
inductive Sketch where
  /-- A value that is no container. -/
  | leaf (v : Value)
  /-- A container that the walk is inside of already. -/
  | again (c : Container)
  /-- A container with the shapes of what it holds. -/
  | opened (c : Container) (parts : List Sketch)
  deriving Inhabited

namespace Store

/-- The text of a container from the texts of what it holds. -/
def containerText (st : Store) : Container → List String → String
  | .list _, parts => listText parts
  | .map x, parts =>
    mapText (List.zipWith (fun e t => st.leafText true e.written ++ ": " ++ t) (st.entries x) parts)

/-- The document of a container from the documents of what it holds. -/
def containerJson (st : Store) : Container → List Json → Json
  | .list _, parts => .arr parts
  | .map x, parts =>
    .obj (Json.collapseMembers (((st.entries x).map fun e => st.memberName e.written).zip parts))

end Store

namespace Sketch

mutual

/-- The text of a shape: an ellipsis where a container is met again. -/
def text (st : Store) (nested : Bool) : Sketch → String
  | leaf v => st.leafText nested v
  | again (.list _) => "[...]"
  | again (.map _) => "\x7b...\x7d"
  | opened c parts => st.containerText c (texts st parts)

/-- The texts of shapes inside a container. -/
def texts (st : Store) : List Sketch → List String
  | [] => []
  | t :: ts => t.text st true :: texts st ts

end

mutual

/-- The document of a shape: there is none where a container is met again. -/
def json (st : Store) : Sketch → Except Fault Json
  | leaf v => Store.leafJson v
  | again c => Store.leafJson c.value
  | opened c parts => (jsons st parts).map (st.containerJson c)

/-- The documents of shapes inside a container. -/
def jsons (st : Store) : List Sketch → Except Fault (List Json)
  | [] => .ok []
  | t :: ts => do
    let j ← t.json st
    let js ← jsons st ts
    return j :: js

end

/-- The part of a shape at a position: which part of the whole, which part of that, and so on. -/
def at? : Sketch → List Nat → Option Sketch
  | t, [] => some t
  | opened _ parts, i :: p => parts[i]?.bind fun t => t.at? p
  | _, _ :: _ => none

/-- What a shape shows where it starts. -/
inductive Mark where
  | leaf (v : Value)
  | again (c : Container)
  | opened (c : Container)

/-- How a shape starts. -/
def mark : Sketch → Mark
  | leaf v => .leaf v
  | again c => .again c
  | opened c _ => .opened c

theorem texts_map {st : Store} {f : Value → String} {draw : Value → Sketch} {ws : List Value}
    (h : ∀ w ∈ ws, f w = (draw w).text st true) : texts st (ws.map draw) = ws.map f := by
  induction ws with
  | nil => rfl
  | cons w ws ih =>
    obtain ⟨hw, hws⟩ := List.forall_mem_cons.1 h
    rw [List.map_cons, texts, ih hws, List.map_cons, hw]

theorem jsons_map {st : Store} {f : Value → Except Fault Json} {draw : Value → Sketch}
    {ws : List Value} (h : ∀ w ∈ ws, f w = (draw w).json st) :
    jsons st (ws.map draw) = ws.mapM f := by
  induction ws with
  | nil => rfl
  | cons w ws ih =>
    obtain ⟨hw, hws⟩ := List.forall_mem_cons.1 h
    rw [List.map_cons, jsons, ih hws, List.mapM_cons, hw]

/-- Shapes have documents when each of them has one. -/
theorem exists_jsons_iff {st : Store} {ts : List Sketch} :
    (∃ js, jsons st ts = .ok js) ↔ ∀ t ∈ ts, ∃ j, t.json st = .ok j := by
  induction ts with
  | nil => simp [jsons]
  | cons t ts ih =>
    rw [List.forall_mem_cons, ← ih, jsons]
    cases t.json st with
    | error f => simp [bind, Except.bind]
    | ok j => cases jsons st ts <;> simp [bind, Except.bind, pure, Except.pure]

theorem exists_json_opened_iff {st : Store} {c : Container} {draw : Value → Sketch}
    {ws : List Value} : (∃ j, (opened c (ws.map draw)).json st = .ok j) ↔
      ∀ w ∈ ws, ∃ j, (draw w).json st = .ok j := by
  rw [← List.forall_mem_map (P := fun t => ∃ j, json st t = .ok j), ← exists_jsons_iff, json]
  cases jsons st (ws.map draw) <;> simp [Except.map]

end Sketch

namespace Store

variable {st : Store} {inside : List Container} {v w : Value} {t u : Sketch} {c : Container}

/-! ## One step of the walk -/

theorem textWithin_of_container?_eq_none (h : v.container? = none) (depth : Nat)
    (inside : List Container) (nested : Bool) :
    st.textWithin depth inside nested v = st.leafText nested v := by
  cases depth with
  | zero => rfl
  | succ depth => cases v <;> first | rfl | cases h

theorem textWithin_value (hkeys : st.KeysHashed) (depth : Nat) (inside : List Container)
    (nested : Bool) (c : Container) :
    st.textWithin (depth + 1) inside nested c.value =
      if c ∈ inside then (Sketch.again c).text st nested
      else st.containerText c ((st.contents c).map (st.textWithin depth (c :: inside) true)) := by
  cases c with
  | list x =>
    simp only [Container.value, textWithin, List.contains_eq_mem, decide_eq_true_eq]
    rfl
  | map x =>
    simp only [Container.value, textWithin, List.contains_eq_mem, decide_eq_true_eq]
    congr 1
    simp only [containerText, contents, List.map_map, List.zipWith_map_right, List.zipWith_self]
    congr 1
    refine List.map_congr_left fun e he => ?_
    rw [textWithin_of_container?_eq_none (hkeys.written he)]
    rfl

theorem mapM_members (f : Value → Except Fault Json) (es : List Entry) :
    (es.mapM fun e => do
      let j ← f e.value
      return (st.memberName e.written, j)) =
    ((es.map Entry.value).mapM f).map ((es.map fun e => st.memberName e.written).zip ·) := by
  induction es with
  | nil => rfl
  | cons e es ih =>
    rw [List.mapM_cons, ih, List.map_cons, List.map_cons, List.mapM_cons]
    cases f e.value with
    | error g => rfl
    | ok j => cases (es.map Entry.value).mapM f <;> rfl

theorem toJsonWithin_of_container?_eq_none (h : v.container? = none) (depth : Nat)
    (inside : List Container) : st.toJsonWithin depth inside v = leafJson v := by
  cases depth with
  | zero => rfl
  | succ depth => cases v <;> first | rfl | cases h

theorem toJsonWithin_value (depth : Nat) (inside : List Container) (c : Container) :
    st.toJsonWithin (depth + 1) inside c.value =
      if c ∈ inside then leafJson c.value
      else
        ((st.contents c).mapM (st.toJsonWithin depth (c :: inside))).map (st.containerJson c) := by
  cases c with
  | list x =>
    simp only [Container.value, toJsonWithin, List.contains_eq_mem, decide_eq_true_eq]
    congr 1
  | map x =>
    simp only [Container.value, toJsonWithin, List.contains_eq_mem, decide_eq_true_eq]
    congr 1
    rw [mapM_members]
    simp only [contents]
    cases ((st.entries x).map Entry.value).mapM (st.toJsonWithin depth (.map x :: inside)) <;> rfl

/-! ## The walk without a bound -/

/-- Walking over a value inside the containers `inside` ends, with this shape. -/
inductive Drawn (st : Store) : List Container → Value → Sketch → Prop
  | leaf {inside : List Container} {v : Value} : v.container? = none → Drawn st inside v (.leaf v)
  | again {inside : List Container} {v : Value} {c : Container} : v.container? = some c →
    c ∈ inside → Drawn st inside v (.again c)
  | opened {inside : List Container} {v : Value} {c : Container} (draw : Value → Sketch) :
    v.container? = some c → c ∉ inside →
    (∀ w ∈ st.contents c, Drawn st (c :: inside) w (draw w)) →
    Drawn st inside v (.opened c ((st.contents c).map draw))

/-- A depth that covers the containers not yet met is enough for the walk to end. The document is
that of its shape, and so is the text where keys are no containers. -/
theorem exists_drawn_within {depth : Nat} (hnodup : inside.Nodup)
    (hsub : inside ⊆ st.containers) (hdepth : st.containerCount < depth + inside.length)
    (v : Value) : ∃ t, st.Drawn inside v t ∧
      (st.KeysHashed → ∀ nested, st.textWithin depth inside nested v = t.text st nested) ∧
      st.toJsonWithin depth inside v = t.json st := by
  induction depth generalizing inside v with
  | zero =>
    have hle := (hnodup.subperm hsub).length_le
    rw [length_containers] at hle
    omega
  | succ depth ih =>
    cases hv : v.container? with
    | none =>
      refine ⟨.leaf v, .leaf hv, fun _ nested => ?_, ?_⟩
      · rw [textWithin_of_container?_eq_none hv, Sketch.text]
      · rw [toJsonWithin_of_container?_eq_none hv, Sketch.json]
    | some c =>
      obtain rfl := Value.container?_eq_some_iff.1 hv
      rw [toJsonWithin_value]
      by_cases hc : c ∈ inside
      · refine ⟨.again c, .again hv hc, fun hkeys nested => ?_, ?_⟩
        · rw [textWithin_value hkeys, if_pos hc]
        · rw [if_pos hc, Sketch.json]
      · have hparts : ∀ w ∈ st.contents c, ∃ t, st.Drawn (c :: inside) w t ∧
            (st.KeysHashed →
              ∀ nested, st.textWithin depth (c :: inside) nested w = t.text st nested) ∧
            st.toJsonWithin depth (c :: inside) w = t.json st := by
          intro w hw
          apply ih
          · exact List.nodup_cons.2 ⟨hc, hnodup⟩
          · exact List.cons_subset.2 ⟨mem_containers_of_mem_contents hw, hsub⟩
          · rw [List.length_cons]
            omega
        choose! draw hdraw htext hjson using hparts
        refine ⟨_, .opened draw hv hc hdraw, fun hkeys nested => ?_, ?_⟩
        · rw [textWithin_value hkeys, if_neg hc, Sketch.text,
            Sketch.texts_map fun w hw => htext w hw hkeys true]
        · rw [if_neg hc, Sketch.json, Sketch.jsons_map hjson]

theorem exists_drawn (hkeys : st.KeysHashed) {depth : Nat} (hnodup : inside.Nodup)
    (hsub : inside ⊆ st.containers) (hdepth : st.containerCount < depth + inside.length)
    (v : Value) : ∃ t, st.Drawn inside v t ∧
      (∀ nested, st.textWithin depth inside nested v = t.text st nested) ∧
      st.toJsonWithin depth inside v = t.json st := by
  obtain ⟨t, hdrawn, htext, hjson⟩ := exists_drawn_within hnodup hsub hdepth v
  exact ⟨t, hdrawn, htext hkeys, hjson⟩

/-! ## Where containers are cut off -/

/-- Follows a position from a value through the store: the containers passed, and the value
there. -/
def follow (st : Store) : Value → List Nat → Option (List Container × Value)
  | v, [] => some ([], v)
  | v, i :: p => do
    let c ← v.container?
    let w ← (st.contents c)[i]?
    let (passed, u) ← st.follow w p
    return (c :: passed, u)

/-- What a walk inside the containers `inside` shows of a value at first. -/
def markInside (inside : List Container) (v : Value) : Sketch.Mark :=
  match v.container? with
  | none => .leaf v
  | some c => if c ∈ inside then .again c else .opened c

theorem markInside_congr {inside' : List Container} (h : ∀ c, c ∈ inside ↔ c ∈ inside')
    (v : Value) : markInside inside v = markInside inside' v := by
  unfold markInside
  cases v.container? with
  | none => rfl
  | some c => simp only [h c]

/-- At each position the walk shows what following the position through the store comes to, as long
as no container is passed twice or was passed before. -/
theorem Drawn.mark_at? (h : st.Drawn inside v t) (p : List Nat) :
    (t.at? p).map Sketch.mark = (st.follow v p).bind fun (passed, u) =>
      if passed.Nodup ∧ ∀ c ∈ passed, c ∉ inside then some (markInside (passed ++ inside) u)
      else none := by
  induction h generalizing p with
  | @leaf inside v hv =>
    cases p with
    | nil => simp [Sketch.at?, Sketch.mark, follow, markInside, hv]
    | cons i p => simp [Sketch.at?, follow, hv]
  | @again inside v c hv hc =>
    cases p with
    | nil => simp [Sketch.at?, Sketch.mark, follow, markInside, hv, hc]
    | cons i p =>
      -- any position below passes the container once more
      symm
      simp only [Sketch.at?, follow, hv, Option.map_none, Option.bind_eq_none_iff]
      intro ⟨passed, u⟩ hfollow
      simp only [Option.bind_eq_bind, Option.bind_some, Option.bind_eq_some_iff, Option.pure_def,
        Option.some.injEq, Prod.mk.injEq] at hfollow
      obtain ⟨w, hw, ⟨passed, u⟩, -, rfl, rfl⟩ := hfollow
      exact if_neg fun h => h.2 c List.mem_cons_self hc
  | @opened inside v c draw hv hc hparts ih =>
    cases p with
    | nil => simp [Sketch.at?, Sketch.mark, follow, markInside, hv, hc]
    | cons i p =>
      simp only [Sketch.at?, follow, hv, List.getElem?_map, Option.bind_eq_bind, Option.bind_some]
      cases hw : (st.contents c)[i]? with
      | none => rfl
      | some w =>
        rw [Option.map_some, Option.bind_some, Option.bind_some, ih w (List.mem_of_getElem? hw) p]
        cases st.follow w p with
        | none => rfl
        | some found =>
          obtain ⟨passed, u⟩ := found
          have hcond : (passed.Nodup ∧ ∀ d ∈ passed, d ∉ c :: inside) ↔
              (c :: passed).Nodup ∧ ∀ d ∈ c :: passed, d ∉ inside := by
            simp only [List.nodup_cons, List.mem_cons, not_or]
            grind
          have hmem : ∀ d, d ∈ passed ++ c :: inside ↔ d ∈ c :: passed ++ inside :=
            fun d => List.perm_middle.mem_iff
          simp only [Option.bind_some, Option.pure_def, hcond, markInside_congr hmem]

/-! ## Unfolding -/

/-- A value is a container that holds another value. -/
def Holds (st : Store) (v w : Value) : Prop := ∃ c, v.container? = some c ∧ w ∈ st.contents c

/-- A value is met when going down from another one. -/
def Reaches (st : Store) : Value → Value → Prop := Relation.ReflTransGen st.Holds

/-- A value is met again further down. -/
def ContainsItself (st : Store) (v : Value) : Prop := Relation.TransGen st.Holds v v

/-- Walking over a value ends though nothing is remembered, with this shape. -/
inductive Unfolds (st : Store) : Value → Sketch → Prop
  | leaf {v : Value} : v.container? = none → Unfolds st v (.leaf v)
  | opened {v : Value} {c : Container} (draw : Value → Sketch) : v.container? = some c →
    (∀ w ∈ st.contents c, Unfolds st w (draw w)) →
    Unfolds st v (.opened c ((st.contents c).map draw))

theorem holds_iff (h : v.container? = some c) : st.Holds v w ↔ w ∈ st.contents c := by
  simp [Holds, h]

theorem not_holds (h : v.container? = none) : ¬ st.Holds v w := by
  simp [Holds, h]

theorem Unfolds.unique (h : st.Unfolds v t) (h' : st.Unfolds v u) : t = u := by
  induction h generalizing u with
  | leaf hv =>
    cases h' with
    | leaf => rfl
    | opened _ hv' => exact nomatch hv.symm.trans hv'
  | opened draw hv _ ih =>
    cases h' with
    | leaf hv' => exact nomatch hv.symm.trans hv'
    | opened draw' hv' hparts' =>
      cases hv.symm.trans hv'
      rw [List.map_congr_left fun w hw => ih w hw (hparts' w hw)]

/-- Nothing that is met in a finite unfolding contains itself. -/
theorem Unfolds.not_containsItself (h : st.Unfolds v t) (hw : st.Reaches v w) :
    ¬ st.ContainsItself w := by
  induction h generalizing w with
  | @leaf v hv =>
    rcases hw.cases_head with rfl | ⟨u, hu, _⟩
    · intro hself
      obtain ⟨u, hu, _⟩ := Relation.TransGen.head'_iff.1 hself
      exact not_holds hv hu
    · exact absurd hu (not_holds hv)
  | @opened v c draw hv _ ih =>
    rcases hw.cases_head with rfl | ⟨u, hu, huw⟩
    · intro hself
      obtain ⟨u, hu, huv⟩ := Relation.TransGen.head'_iff.1 hself
      exact ih u ((holds_iff hv).1 hu) huv hself
    · exact ih u ((holds_iff hv).1 hu) huw

/-- Where no container that is reached contains itself, the walk remembers in vain. -/
theorem Drawn.unfolds (h : st.Drawn inside v t)
    (hinside : ∀ c ∈ inside, Relation.TransGen st.Holds c.value v)
    (hself : ∀ w, st.Reaches v w → ¬ st.ContainsItself w) : st.Unfolds v t := by
  induction h with
  | leaf hv => exact .leaf hv
  | again hv hc =>
    have habove := hinside _ hc
    rw [← Value.container?_eq_some_iff.1 hv] at habove
    exact absurd habove (hself _ .refl)
  | @opened inside v c draw hv _ _ ih =>
    refine .opened draw hv fun w hw => ih w hw ?_ ?_
    · have hvw : st.Holds v w := (holds_iff hv).2 hw
      intro d hd
      rcases List.mem_cons.1 hd with rfl | hd
      · rw [← Value.container?_eq_some_iff.1 hv]
        exact .single hvw
      · exact (hinside d hd).tail hvw
    · exact fun u hu => hself u (.head ((holds_iff hv).2 hw) hu)

/-! ## Documents -/

theorem leafJson_value (c : Container) (j : Json) : leafJson c.value ≠ .ok j := by
  cases c <;> exact nofun

theorem exists_leafJson_iff (h : v.container? = none) :
    (∃ j, leafJson v = .ok j) ↔ ∀ f, v ≠ .fn f := by
  cases v <;> simp_all [leafJson, Value.container?]

/-- A shape that has a document is an unfolding. -/
theorem Drawn.unfolds_of_json (h : st.Drawn inside v t) (hj : ∃ j, t.json st = .ok j) :
    st.Unfolds v t := by
  induction h with
  | leaf hv => exact .leaf hv
  | again =>
    obtain ⟨j, hj⟩ := hj
    rw [Sketch.json] at hj
    exact absurd hj (leafJson_value _ j)
  | opened draw hv _ _ ih =>
    exact .opened draw hv fun w hw => ih w hw (Sketch.exists_json_opened_iff.1 hj w hw)

/-- An unfolding has a document when it meets no function. -/
theorem Unfolds.exists_json_iff (h : st.Unfolds v t) :
    (∃ j, t.json st = .ok j) ↔ ∀ w, st.Reaches v w → ∀ f, w ≠ .fn f := by
  induction h with
  | @leaf v hv =>
    rw [Sketch.json, exists_leafJson_iff hv]
    refine ⟨fun h w hw => ?_, fun h => h v .refl⟩
    rcases hw.cases_head with rfl | ⟨u, hu, _⟩
    · exact h
    · exact absurd hu (not_holds hv)
  | @opened v c draw hv _ ih =>
    rw [Sketch.exists_json_opened_iff]
    constructor
    · intro h w hw
      rcases hw.cases_head with rfl | ⟨u, hu, huw⟩
      · rintro f rfl
        cases hv
      · have hu := (holds_iff hv).1 hu
        exact (ih u hu).1 (h u hu) w huw
    · intro h w hw
      exact (ih w hw).2 fun u hu => h u (.head ((holds_iff hv).2 hw) hu)

/-- **Exact walks.** With any sharing and any cycles, showing a value and turning it into a document
end. They take one shape, in which a container is cut off exactly where the path to it from the root
has passed it. There is a document exactly when no function and no container that contains itself is
reached, and then it is that of the unfolding. Of what is kept of maps (`Keyed`) this takes that
keys are what they were written as. -/
theorem walk_exact (st : Store) (hkeys : st.KeysHashed) (v : Value) :
    (∃ t, st.Drawn [] v t ∧ st.text v = t.text st false ∧ st.toJson v = t.json st ∧
      ∀ p, (t.at? p).map Sketch.mark = (st.follow v p).bind fun (passed, u) =>
        if passed.Nodup then some (markInside passed u) else none) ∧
    ((∃ j, st.toJson v = .ok j) ↔
      ∀ w, st.Reaches v w → (∀ f, w ≠ .fn f) ∧ ¬ st.ContainsItself w) ∧
    (∀ j, st.toJson v = .ok j →
      ∃ t, st.Unfolds v t ∧ (∀ u, st.Unfolds v u → u = t) ∧ t.json st = .ok j) := by
  obtain ⟨t, hdrawn, htext, hjson⟩ := exists_drawn hkeys List.nodup_nil (List.nil_subset _)
    (Nat.lt_succ_self st.containerCount) v
  have hjson : st.toJson v = t.json st := hjson
  refine ⟨⟨t, hdrawn, htext false, hjson, fun p => ?_⟩, ?_, fun j hj => ?_⟩
  · simpa using hdrawn.mark_at? p
  · rw [hjson]
    constructor
    · intro hj w hw
      have hunfolds := hdrawn.unfolds_of_json hj
      exact ⟨hunfolds.exists_json_iff.1 hj w hw, hunfolds.not_containsItself hw⟩
    · intro h
      have hunfolds := hdrawn.unfolds nofun fun w hw => (h w hw).2
      exact hunfolds.exists_json_iff.2 fun w hw => (h w hw).1
  · have hunfolds := hdrawn.unfolds_of_json ⟨j, hjson ▸ hj⟩
    exact ⟨t, hunfolds, fun u hu => hu.unique hunfolds, hjson ▸ hj⟩

/-- A list that is held twice by a map, and a list that holds itself beside it. -/
def shared : Store where
  lists := #[[.int 1], [.list 1, .list 0, .list 0]]
  maps := #[[⟨.str "a", .ofString "a", .list 0⟩, ⟨.int 7, .int 7, .list 0⟩]]

theorem walk_exact_shared : shared.KeysHashed ∧ shared.text (.list 1) = "[[...], [1], [1]]" ∧
    (∃ t, shared.Unfolds (.map 0) t) ∧
    ¬ ∀ w, shared.Reaches (.list 1) w → (∀ f, w ≠ .fn f) ∧ ¬ shared.ContainsItself w := by
  have hkeys : shared.KeysHashed := by
    have hplain : (RichText.ofString "a").plain = "a" := by decide +kernel
    simp [KeysHashed, shared, Value.ofString, Value.mapKey, hplain]
  have hdocument : ∃ j, shared.toJson (.map 0) = .ok j := ⟨_, rfl⟩
  have hnone : ¬ ∃ j, shared.toJson (.list 1) = .ok j := by
    rintro ⟨j, hj⟩
    cases hj
  obtain ⟨j, hj⟩ := hdocument
  obtain ⟨t, ht, _⟩ := (walk_exact shared hkeys (.map 0)).2.2 j hj
  refine ⟨hkeys, by decide +kernel, ⟨t, ht⟩, ?_⟩
  rwa [← (walk_exact shared hkeys (.list 1)).2.1]

end Store
end TableScript
