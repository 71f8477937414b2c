import Mathlib.Data.List.Perm.Subperm
import Mathlib.Data.List.ProdSigma
import TableScript.Proofs.Number.Comparison
import TableScript.Proofs.Value.Contents

/-!
# Equality of values is bisimilarity

Containers can be shared and can contain themselves, so what two of them hold may have no finite
unfolding. They are equal when no finite walk into them finds a difference.

1. `Bisimilar` is the largest relation under which related scalars are equal, related lists are
   related item by item and related maps have the same keys and related values under them;
2. `Compared` is the comparison without a bound on its depth. It always ends, because the pairs of
   containers it is inside of are all different (`compared_equal`);
3. the pairs a comparison assumes equal are justified by what is found below them, so an answer of
   true relates the values by a bisimulation (`bisimilar_of_compared`), and bisimilar values never
   make it answer false (`Compared.eq_true`);
4. `equal_bisimilar` puts these together.
-/

namespace TableScript

/-- Whether a value is the double that is no number. -/
def Value.isNaN : Value → Bool
  | .float x => x.isNaN
  | _ => false

namespace Store

variable {st : Store} {a b v w : Value} {p q : Container}

/-! ## Bisimilarity -/

/-- The rules by which two scalars are equal. -/
inductive SameScalar : Value → Value → Prop
  | int (n : Int64) : SameScalar (.int n) (.int n)
  | float {x y : Double} : x.sameNumber y = true → SameScalar (.float x) (.float y)
  | intFloat {n : Int64} {x : Double} :
    (Value.doubleOfInt n).sameNumber x = true → SameScalar (.int n) (.float x)
  | floatInt {n : Int64} {x : Double} :
    x.sameNumber (Value.doubleOfInt n) = true → SameScalar (.float x) (.int n)
  | str {t u : RichText} : t.plain = u.plain → SameScalar (.str t) (.str u)
  | bool (b : Bool) : SameScalar (.bool b) (.bool b)
  | fn (f : Callable) : SameScalar (.fn f) (.fn f)
  | error (e : ErrorValue) : SameScalar (.error e) (.error e)
  | null : SameScalar .null .null

/-- What it takes for two values to be related by `R`. -/
inductive Matches (st : Store) (R : Value → Value → Prop) : Value → Value → Prop
  | scalar {a b : Value} : SameScalar a b → Matches st R a b
  | list {x y : Nat} : (st.items x).Forall₂ R (st.items y) → Matches st R (.list x) (.list y)
  | map {x y : Nat} :
    (∀ k, k ∈ (st.entries x).map Entry.key ↔ k ∈ (st.entries y).map Entry.key) →
    (∀ e ∈ st.entries x, ∀ f ∈ st.entries y, e.key = f.key → R e.value f.value) →
    Matches st R (.map x) (.map y)

/-- A relation that holds only where it has reason to. -/
def IsBisimulation (st : Store) (R : Value → Value → Prop) : Prop :=
  ∀ ⦃a b⦄, R a b → st.Matches R a b

/-- The largest bisimulation. -/
def Bisimilar (st : Store) (a b : Value) : Prop := ∃ R, st.IsBisimulation R ∧ R a b

theorem Matches.mono {R S : Value → Value → Prop} (hRS : ∀ a b, R a b → S a b)
    (h : st.Matches R a b) : st.Matches S a b := by
  cases h with
  | scalar h => exact .scalar h
  | list h => exact .list (h.imp hRS)
  | map hkeys h => exact .map hkeys fun e he f hf hef => hRS _ _ (h e he f hf hef)

theorem isBisimulation_bisimilar : st.IsBisimulation st.Bisimilar := by
  rintro a b ⟨R, hR, hab⟩
  exact (hR hab).mono fun _ _ h => ⟨R, hR, h⟩

theorem SameScalar.symm (h : SameScalar a b) : SameScalar b a := by
  cases h with
  | int n => exact .int n
  | float h => exact .float (Double.sameNumber_comm _ _ ▸ h)
  | intFloat h => exact .floatInt (Double.sameNumber_comm _ _ ▸ h)
  | floatInt h => exact .intFloat (Double.sameNumber_comm _ _ ▸ h)
  | str h => exact .str h.symm
  | bool b => exact .bool b
  | fn f => exact .fn f
  | error e => exact .error e
  | null => exact .null

/-- Read from right to left, a bisimulation is one as well. -/
theorem Bisimilar.symm (h : st.Bisimilar a b) : st.Bisimilar b a := by
  obtain ⟨R, hR, hab⟩ := h
  refine ⟨flip R, ?_, hab⟩
  intro v w hwv
  cases hR hwv with
  | scalar h => exact .scalar h.symm
  | list h => exact .list h.flip
  | map hkeys h =>
    exact .map (fun k => (hkeys k).symm) fun e he f hf hef => h f hf e he hef.symm

/-! ## One step of the comparison -/

/-- The containers of two lists or of two maps. -/
def pair? : Value → Value → Option (Container × Container)
  | .list x, .list y => some (.list x, .list y)
  | .map x, .map y => some (.map x, .map y)
  | _, _ => none

/-- How much a container holds. -/
def size (st : Store) (c : Container) : Nat := (st.contents c).length

/-- What two containers of one kind hold in the same place: a value of the first, with that of the
second if there is one. -/
def parts (st : Store) : Container → Container → List (Value × Option Value)
  | .list x, .list y => ((st.items x).zip (st.items y)).map fun (v, w) => (v, some w)
  | .map x, .map y => (st.entries x).map fun e =>
    (e.value, Entry.value <$> findEntry? e.key (st.entries y))
  | _, _ => []

theorem equalWithin_succ (st : Store) (depth : Nat) (assumed : List (Container × Container))
    (a b : Value) : st.equalWithin (depth + 1) assumed a b =
      match pair? a b with
      | none => leafEqual a b
      | some (p, q) =>
        decide (p = q) || decide ((p, q) ∈ assumed) || decide (st.size p = st.size q) &&
          (st.parts p q).all fun (v, w) =>
            w.any (st.equalWithin depth ((p, q) :: assumed) v) := by
  cases a <;> cases b <;> try rfl
  case list.list x y =>
    simp only [equalWithin, pair?, size, contents, parts, List.all_map, Function.comp_def,
      Option.any_some, Container.list.injEq, List.contains_eq_mem]
    split
    · simp [*]
    · split
      · simp [*]
      · simp only [*, decide_false, Bool.false_or]
        rfl
  case map.map x y =>
    simp only [equalWithin, pair?, size, contents, List.length_map, parts, List.all_map,
      Function.comp_def, Container.map.injEq, List.contains_eq_mem]
    split
    · simp [*]
    · split
      · simp [*]
      · simp only [*, decide_false, Bool.false_or]
        congr 2
        funext e
        cases findEntry? e.key (st.entries y) <;> rfl

theorem leafEqual_iff (h : pair? a b = none) : leafEqual a b = true ↔ SameScalar a b := by
  constructor
  · intro hab
    cases a <;> cases b <;> simp only [leafEqual, pair?, decide_eq_true_eq,
      Bool.false_eq_true] at hab h
    case int.int => exact hab ▸ .int _
    case int.float => exact .intFloat hab
    case float.int => exact .floatInt (Double.sameNumber_comm _ _ ▸ hab)
    case float.float => exact .float hab
    case str.str => exact .str hab
    case bool.bool => exact hab ▸ .bool _
    case fn.fn => exact hab ▸ .fn _
    case error.error => exact hab ▸ .error _
    case null.null => exact .null
  · rintro (_ | hab | hab | hab | hab | _ | _ | _ | _)
    · exact decide_eq_true rfl
    · exact hab
    · exact hab
    · exact (Double.sameNumber_comm _ _).trans hab
    · exact decide_eq_true hab
    · exact decide_eq_true rfl
    · exact decide_eq_true rfl
    · exact decide_eq_true rfl
    · rfl

theorem SameScalar.pair?_eq_none (h : SameScalar a b) : pair? a b = none := by
  cases h <;> rfl

/-- Two containers hold equally much, and related values in the same places. -/
def Agree (st : Store) (R : Value → Value → Prop) (p q : Container) : Prop :=
  st.size p = st.size q ∧ ∀ part ∈ st.parts p q, ∃ w, part.2 = some w ∧ R part.1 w

theorem Agree.imp {R S : Value → Value → Prop} (h : st.Agree R p q)
    (hRS : ∀ part ∈ st.parts p q, ∀ w, part.2 = some w → R part.1 w → S part.1 w) :
    st.Agree S p q := by
  refine ⟨h.1, fun part hpart => ?_⟩
  obtain ⟨w, hw, hR⟩ := h.2 part hpart
  exact ⟨w, hw, hRS part hpart w hw hR⟩

theorem agree_iff_all (answer : Value → Value → Bool) :
    st.Agree (fun v w => answer v w = true) p q ↔ (decide (st.size p = st.size q) &&
      (st.parts p q).all fun part => part.2.any (answer part.1)) = true := by
  simp only [Agree, Bool.and_eq_true, decide_eq_true_eq, List.all_eq_true]
  refine and_congr_right fun _ => forall₂_congr fun part _ => ?_
  cases part.2 <;> simp

theorem agree_list_iff {R : Value → Value → Prop} {x y : Nat} :
    st.Agree R (.list x) (.list y) ↔ (st.items x).Forall₂ R (st.items y) := by
  rw [List.forall₂_iff_zip]
  refine and_congr_right fun _ => ⟨fun h v w hvw => ?_, fun h part hpart => ?_⟩
  · obtain ⟨w', hw', hR⟩ := h (v, some w) (List.mem_map.2 ⟨(v, w), hvw, rfl⟩)
    cases hw'
    exact hR
  · obtain ⟨⟨v, w⟩, hvw, rfl⟩ := List.mem_map.1 hpart
    exact ⟨w, rfl, h hvw⟩

theorem agree_map_iff (h : st.KeysDistinct) {R : Value → Value → Prop} {x y : Nat} :
    st.Agree R (.map x) (.map y) ↔
      (∀ k, k ∈ (st.entries x).map Entry.key ↔ k ∈ (st.entries y).map Entry.key) ∧
      ∀ e ∈ st.entries x, ∀ f ∈ st.entries y, e.key = f.key → R e.value f.value := by
  have hx := h.entries x
  have hy := h.entries y
  have hparts : (∀ part ∈ st.parts (.map x) (.map y), ∃ w, part.2 = some w ∧ R part.1 w) ↔
      ∀ e ∈ st.entries x, ∃ f ∈ st.entries y, f.key = e.key ∧ R e.value f.value := by
    simp [parts, findEntry?_eq_some_iff hy, and_assoc]
  rw [Agree, hparts]
  constructor
  · rintro ⟨hsize, hfound⟩
    have hsub : (st.entries x).map Entry.key ⊆ (st.entries y).map Entry.key := by
      intro k hk
      obtain ⟨e, he, rfl⟩ := List.mem_map.1 hk
      obtain ⟨f, hf, hkey, _⟩ := hfound e he
      exact hkey ▸ List.mem_map_of_mem hf
    -- as many keys on both sides, so the right side has no more than the left
    have hperm := (hx.subperm hsub).perm_of_length_le (by simpa [size, contents] using hsize.ge)
    refine ⟨fun k => hperm.mem_iff, fun e he f hf hkey => ?_⟩
    obtain ⟨f', hf', hkey', hR⟩ := hfound e he
    rwa [List.inj_on_of_nodup_map hy hf hf' (hkey.symm.trans hkey'.symm)]
  · rintro ⟨hkeys, hvalues⟩
    have hperm := (List.perm_ext_iff_of_nodup hx hy).2 hkeys
    refine ⟨by simpa [size, contents] using hperm.length_eq, fun e he => ?_⟩
    obtain ⟨f, hf, hkey⟩ := List.mem_map.1 ((hkeys e.key).1 (List.mem_map_of_mem he))
    exact ⟨f, hf, hkey, hvalues e he f hf hkey.symm⟩

/-- Scalars match by their rules and containers when their contents agree. -/
theorem matches_iff (h : st.KeysDistinct) {R : Value → Value → Prop} :
    st.Matches R a b ↔ SameScalar a b ∨ ∃ p q, pair? a b = some (p, q) ∧ st.Agree R p q := by
  constructor
  · rintro (hab | hab | ⟨hkeys, hvalues⟩)
    · exact .inl hab
    · exact .inr ⟨_, _, rfl, agree_list_iff.2 hab⟩
    · exact .inr ⟨_, _, rfl, (agree_map_iff h).2 ⟨hkeys, hvalues⟩⟩
  · rintro (hab | ⟨p, q, hpair, hpq⟩)
    · exact .scalar hab
    · cases a <;> cases b <;> cases hpair
      · exact .list (agree_list_iff.1 hpq)
      · obtain ⟨hkeys, hvalues⟩ := (agree_map_iff h).1 hpq
        exact .map hkeys hvalues

/-! ## The comparison without a bound -/

/-- Comparing two values inside the pairs of containers `assumed` ends with this answer. -/
inductive Compared (st : Store) : List (Container × Container) → Value → Value → Bool → Prop
  | leaf {assumed : List (Container × Container)} {a b : Value} : pair? a b = none →
    Compared st assumed a b (leafEqual a b)
  | same {assumed : List (Container × Container)} {a b : Value} {p : Container} :
    pair? a b = some (p, p) → Compared st assumed a b true
  | met {assumed : List (Container × Container)} {a b : Value} {p q : Container} :
    pair? a b = some (p, q) → (p, q) ∈ assumed → Compared st assumed a b true
  /-- Two containers not met before: `answer` is what comparing their contents ends with. -/
  | opened {assumed : List (Container × Container)} {a b : Value} {p q : Container}
    (answer : Value → Value → Bool) :
    pair? a b = some (p, q) → p ≠ q → (p, q) ∉ assumed →
    (∀ part ∈ st.parts p q, ∀ w, part.2 = some w →
      Compared st ((p, q) :: assumed) part.1 w (answer part.1 w)) →
    Compared st assumed a b (decide (st.size p = st.size q) &&
      (st.parts p q).all fun part => part.2.any (answer part.1))

/-- The pairs of two lists and of two maps that there are. -/
def containerPairs (st : Store) : List (Container × Container) :=
  (List.range st.lists.size ×ˢ List.range st.lists.size).map (fun (x, y) => (.list x, .list y)) ++
    (List.range st.maps.size ×ˢ List.range st.maps.size).map (fun (x, y) => (.map x, .map y))

theorem length_containerPairs : st.containerPairs.length =
    st.lists.size * st.lists.size + st.maps.size * st.maps.size := by
  simp [containerPairs, List.length_product]

theorem mem_contents_of_mem_parts {part : Value × Option Value} (h : part ∈ st.parts p q)
    (hw : part.2 = some w) : part.1 ∈ st.contents p ∧ w ∈ st.contents q := by
  cases p <;> cases q <;> simp only [parts, List.not_mem_nil] at h
  case list.list x y =>
    obtain ⟨⟨v, w⟩, hvw, rfl⟩ := List.mem_map.1 h
    cases hw
    exact List.of_mem_zip hvw
  case map.map x y =>
    obtain ⟨e, he, rfl⟩ := List.mem_map.1 h
    obtain ⟨f, hf, rfl⟩ := Option.map_eq_some_iff.1 hw
    exact ⟨List.mem_map_of_mem he, List.mem_map_of_mem (List.mem_of_find?_eq_some hf)⟩

/-- Containers that hold something in the same place are there. -/
theorem mem_containerPairs {part : Value × Option Value} (h : part ∈ st.parts p q)
    (hw : part.2 = some w) : (p, q) ∈ st.containerPairs := by
  obtain ⟨hp, hq⟩ := mem_contents_of_mem_parts h hw
  have hp := mem_containers_of_mem_contents hp
  have hq := mem_containers_of_mem_contents hq
  cases p <;> cases q <;> simp_all [containers, containerPairs, parts]

/-- A depth that covers the pairs not yet met is enough for the comparison to end. -/
theorem compared_equalWithin {depth : Nat} {assumed : List (Container × Container)}
    (hnodup : assumed.Nodup) (hsub : assumed ⊆ st.containerPairs)
    (hdepth : st.containerPairs.length < depth + assumed.length) (a b : Value) :
    st.Compared assumed a b (st.equalWithin depth assumed a b) := by
  induction depth generalizing assumed a b with
  | zero =>
    have hle := (hnodup.subperm hsub).length_le
    omega
  | succ depth ih =>
    rw [equalWithin_succ]
    cases hpair : pair? a b with
    | none => exact .leaf hpair
    | some pq =>
      obtain ⟨p, q⟩ := pq
      dsimp only
      by_cases hpq : p = q
      · subst hpq
        simpa using Compared.same hpair
      by_cases hmet : (p, q) ∈ assumed
      · simpa [hmet] using Compared.met hpair hmet
      simp only [hpq, hmet, decide_false, Bool.false_or]
      refine .opened (st.equalWithin depth ((p, q) :: assumed)) hpair hpq hmet ?_
      intro part hpart w hw
      apply ih
      · exact List.nodup_cons.2 ⟨hmet, hnodup⟩
      · exact List.cons_subset.2 ⟨mem_containerPairs hpart hw, hsub⟩
      · rw [List.length_cons]
        omega

/-- The comparison of two values ends, whatever the store. -/
theorem compared_equal (st : Store) (a b : Value) : st.Compared [] a b (st.equal a b) := by
  apply compared_equalWithin List.nodup_nil (List.nil_subset _)
  rw [length_containerPairs]
  exact Nat.lt_succ_self _

/-! ## What the answers say -/

/-- Each pair that a comparison is inside of has contents that compare as equal inside it. -/
def Justified (st : Store) : List (Container × Container) → Prop
  | [] => True
  | (p, q) :: assumed =>
    st.Agree (fun v w => st.Compared ((p, q) :: assumed) v w true) p q ∧ st.Justified assumed

theorem Justified.agree {assumed : List (Container × Container)} (h : st.Justified assumed)
    (hpq : (p, q) ∈ assumed) :
    st.Agree (fun v w => ∃ inside, st.Justified inside ∧ st.Compared inside v w true) p q := by
  induction assumed with
  | nil => cases hpq
  | cons r assumed ih =>
    rcases List.mem_cons.1 hpq with rfl | hpq
    · exact h.1.imp fun part _ w _ hcompared => ⟨_, h, hcompared⟩
    · exact ih h.2 hpq

/-- No value that a container holds is NaN. -/
def NaNFree (st : Store) : Prop := ∀ c ∈ st.containers, ∀ v ∈ st.contents c, v.isNaN = false

theorem NaNFree.of_mem (h : st.NaNFree) (hv : v ∈ st.contents p) : v.isNaN = false :=
  h p (mem_containers_of_mem_contents hv) v hv

/-- Without NaN every value matches itself. -/
theorem matches_self (hkeys : st.KeysDistinct) (hnan : st.NaNFree) {R : Value → Value → Prop}
    (hR : ∀ v, v.isNaN = false → R v v) (ha : a.isNaN = false) : st.Matches R a a := by
  cases a with
  | int n => exact .scalar (.int n)
  | float x => exact .scalar (.float (Double.sameNumber_self ha))
  | str t => exact .scalar (.str rfl)
  | bool b => exact .scalar (.bool b)
  | fn f => exact .scalar (.fn f)
  | error e => exact .scalar (.error e)
  | null => exact .scalar .null
  | list x =>
    refine .list (List.forall₂_same.2 fun v hv => ?_)
    exact hR v (hnan.of_mem (p := .list x) hv)
  | map x =>
    refine .map (fun _ => Iff.rfl) fun e he f hf hkey => ?_
    rw [List.inj_on_of_nodup_map (hkeys.entries x) he hf hkey]
    exact hR _ (hnan.of_mem (p := .map x) (List.mem_map_of_mem hf))

theorem eq_of_pair?_eq (h : pair? a b = some (p, p)) : a = b ∧ a.isNaN = false := by
  cases a <;> cases b <;> cases h <;> exact ⟨rfl, rfl⟩

/-- The values that a justified comparison finds equal, and those that are the same value, are
related by a bisimulation. -/
theorem bisimilar_of_compared (hkeys : st.KeysDistinct) (hnan : st.NaNFree)
    {assumed : List (Container × Container)} (hjust : st.Justified assumed)
    (h : st.Compared assumed a b true) : st.Bisimilar a b := by
  let found v w := ∃ inside, st.Justified inside ∧ st.Compared inside v w true
  let R v w := v = w ∧ v.isNaN = false ∨ found v w
  refine ⟨R, ?_, .inr ⟨assumed, hjust, h⟩⟩
  have hself : ∀ v, v.isNaN = false → R v v := fun v hv => .inl ⟨rfl, hv⟩
  have hmatches {v w p q} (hpair : pair? v w = some (p, q)) (hpq : st.Agree found p q) :
      st.Matches R v w :=
    (matches_iff hkeys).2 (.inr ⟨p, q, hpair, hpq.imp fun _ _ _ _ h => .inr h⟩)
  rintro v w (⟨rfl, hv⟩ | ⟨inside, hinside, hcompared⟩)
  · exact matches_self hkeys hnan hself hv
  generalize hanswer : true = answer at hcompared
  cases hcompared with
  | leaf hpair => exact .scalar ((leafEqual_iff hpair).1 hanswer.symm)
  | same hpair =>
    obtain ⟨rfl, hv⟩ := eq_of_pair?_eq hpair
    exact matches_self hkeys hnan hself hv
  | met hpair hmet => exact hmatches hpair (hinside.agree hmet)
  | @opened _ _ _ p q answer hpair _ _ hparts =>
    -- the pair just opened is justified by its own contents
    have hcontents : st.Agree (fun v w => st.Compared ((p, q) :: inside) v w true) p q :=
      ((agree_iff_all answer).2 hanswer.symm).imp fun part hpart w hw htrue =>
        htrue ▸ hparts part hpart w hw
    have hopened : st.Justified ((p, q) :: inside) := ⟨hcontents, hinside⟩
    exact hmatches hpair (hopened.agree List.mem_cons_self)

/-- Bisimilar values compare as equal, whatever is assumed. -/
theorem Compared.eq_true (hkeys : st.KeysDistinct) {assumed : List (Container × Container)}
    {answer : Bool} (h : st.Compared assumed a b answer) (hab : st.Bisimilar a b) :
    answer = true := by
  induction h with
  | leaf hpair =>
    rcases (matches_iff hkeys).1 (isBisimulation_bisimilar hab) with hscalar | ⟨p, q, hpq, _⟩
    · exact (leafEqual_iff hpair).2 hscalar
    · exact nomatch hpair.symm.trans hpq
  | same => rfl
  | met => rfl
  | opened answer hpair _ _ _ ih =>
    rcases (matches_iff hkeys).1 (isBisimulation_bisimilar hab) with hscalar | ⟨p, q, hpq, hagree⟩
    · exact nomatch hscalar.pair?_eq_none.symm.trans hpair
    · cases hpair.symm.trans hpq
      exact (agree_iff_all answer).1 (hagree.imp ih)

theorem equal_eq_true_iff (hkeys : st.KeysDistinct) (hnan : st.NaNFree) (a b : Value) :
    st.equal a b = true ↔ st.Bisimilar a b := by
  constructor
  · intro h
    have hnone : st.Justified [] := trivial
    exact bisimilar_of_compared hkeys hnan hnone (h ▸ compared_equal st a b)
  · intro h
    exact (compared_equal st a b).eq_true hkeys h

theorem bisimilar_self (hkeys : st.KeysDistinct) (hnan : st.NaNFree) (ha : a.isNaN = false) :
    st.Bisimilar a a := by
  refine ⟨fun v w => v = w ∧ v.isNaN = false, ?_, rfl, ha⟩
  rintro v w ⟨rfl, hv⟩
  exact matches_self hkeys hnan (fun _ h => ⟨rfl, h⟩) hv

/-- **Equality.** In a store without NaN, with any sharing and any cycles, comparing two values ends
and answers true exactly when they are bisimilar. So equality is symmetric, and every value but NaN
equals itself. Of what is kept of maps (`Keyed`) this takes that their keys are distinct. -/
theorem equal_bisimilar (st : Store) (hkeys : st.KeysDistinct) (hnan : st.NaNFree) (a b : Value) :
    st.Compared [] a b (st.equal a b) ∧ (st.equal a b = true ↔ st.Bisimilar a b) ∧
      st.equal a b = st.equal b a ∧ (a.isNaN = false → st.equal a a = true) := by
  have hiff := equal_eq_true_iff hkeys hnan
  refine ⟨compared_equal st a b, hiff a b, ?_, fun ha => ?_⟩
  · rw [Bool.eq_iff_iff, hiff, hiff]
    exact ⟨Bisimilar.symm, Bisimilar.symm⟩
  · exact (hiff a a).2 (bisimilar_self hkeys hnan ha)

/-- A list that holds itself beside two lists that hold each other, each through a map. -/
def knot : Store where
  lists := #[[.int 1, .map 0], [.float ⟨0x3ff0000000000000⟩, .map 1], [.int 1, .map 2],
    [.int 2, .map 0]]
  maps := #[[⟨.str "next", .ofString "next", .list 0⟩], [⟨.str "next", .ofString "next", .list 2⟩],
    [⟨.str "next", .ofString "next", .list 1⟩]]

theorem equal_bisimilar_knot : knot.KeysDistinct ∧ knot.NaNFree ∧
    knot.Bisimilar (.list 0) (.list 1) ∧ knot.equal (.list 2) (.list 0) = true ∧
    ¬ knot.Bisimilar (.list 0) (.list 3) := by
  have hkeys : knot.KeysDistinct := by
    unfold KeysDistinct
    decide
  have hnan : knot.NaNFree := by
    unfold NaNFree
    decide +kernel
  have hequal := equal_bisimilar knot hkeys hnan
  refine ⟨hkeys, hnan, (hequal _ _).2.1.1 (by decide +kernel), ?_, fun h => ?_⟩
  · decide +kernel
  · have h := (hequal _ _).2.1.2 h
    revert h
    decide +kernel

end Store
end TableScript
