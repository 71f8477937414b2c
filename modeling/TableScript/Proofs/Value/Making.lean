import TableScript.Proofs.Value.Twins

/-!
# Values made of documents

A document becomes a value by making a new container for every array and every object. `Made` says
what the value is, read off the document and the store; `made_ofJson` that this is what comes of a
document. Making containers leaves those alone that there are (`Grows`), and a value stays what it
was made as while further containers are made (`Made.grow`).
-/

namespace TableScript.Store

/-! ## Stores that grow -/

/-- Containers may have been added; those there were hold what they held, and no function has
changed. -/
structure Grows (st st' : Store) : Prop where
  lists : st.lists.size ≤ st'.lists.size
  maps : st.maps.size ≤ st'.maps.size
  items {a : Nat} : a < st.lists.size → st'.items a = st.items a
  entries {a : Nat} : a < st.maps.size → st'.entries a = st.entries a
  closures : st'.closures = st.closures

variable {st st' st'' old older : Store}

theorem Grows.refl (st : Store) : Grows st st := ⟨le_rfl, le_rfl, fun _ => rfl, fun _ => rfl, rfl⟩

theorem Grows.trans (h : Grows st st') (h' : Grows st' st'') : Grows st st'' where
  lists := h.lists.trans h'.lists
  maps := h.maps.trans h'.maps
  items ha := (h'.items (Nat.lt_of_lt_of_le ha h.lists)).trans (h.items ha)
  entries ha := (h'.entries (Nat.lt_of_lt_of_le ha h.maps)).trans (h.entries ha)
  closures := h'.closures.trans h.closures

theorem grows_newList (st : Store) (xs : List Value) : Grows st (st.newList xs).2 where
  lists := by simp [newList]
  maps := le_rfl
  items {a} ha := (st.adds_newList xs).items a fun h => Nat.ne_of_lt ha (Container.list.inj h)
  entries _ := rfl
  closures := rfl

theorem grows_newMap (st : Store) (es : List Entry) : Grows st (st.newMap es).2 where
  lists := le_rfl
  maps := by simp [newMap]
  items _ := rfl
  entries {a} ha := (st.adds_newMap es).entries a fun h => Nat.ne_of_lt ha (Container.map.inj h)
  closures := rfl

mutual

theorem grows_ofJson (st : Store) (j : Json) : Grows st (st.ofJson j).2 := by
  cases j with
  | arr items =>
    rw [ofJson]
    exact (grows_ofJsonItems st items).trans (grows_newList _ _)
  | obj members =>
    rw [ofJson]
    exact (grows_ofJsonMembers st members).trans (grows_newMap _ _)
  | _ =>
    rw [ofJson]
    exact .refl st

theorem grows_ofJsonItems (st : Store) (items : List Json) : Grows st (st.ofJsonItems items).2 := by
  cases items with
  | nil => exact .refl st
  | cons j rest =>
    rw [ofJsonItems]
    exact (grows_ofJson st j).trans (grows_ofJsonItems _ rest)

theorem grows_ofJsonMembers (st : Store) (members : List (String × Json)) :
    Grows st (st.ofJsonMembers members).2 := by
  cases members with
  | nil => exact .refl st
  | cons member rest =>
    rw [ofJsonMembers]
    exact (grows_ofJson st member.2).trans (grows_ofJsonMembers _ rest)

end

/-! ## What a document becomes -/

mutual

/-- A value is what a document becomes, with containers that were made after `old`. -/
def Made (old st : Store) : Json → Value → Prop
  | .null, v => v = .null
  | .bool b, v => v = .bool b
  | .int n, v => v = valueOfInt n
  | .float x, v => v = .float x
  | .str s, v => v = .ofString s
  | .arr items, v => ∃ a, v = .list a ∧ old.lists.size ≤ a ∧ a < st.lists.size ∧
    MadeItems old st items (st.items a)
  | .obj members, v => ∃ a, v = .map a ∧ old.maps.size ≤ a ∧ a < st.maps.size ∧
    MadeMembers old st members (st.entries a)

/-- Values are what documents become, one after the other. -/
def MadeItems (old st : Store) : List Json → List Value → Prop
  | [], vs => vs = []
  | j :: rest, vs => ∃ v ws, vs = v :: ws ∧ Made old st j v ∧ MadeItems old st rest ws

/-- Entries are what members become, with their names as keys. -/
def MadeMembers (old st : Store) : List (String × Json) → List Entry → Prop
  | [], es => es = []
  | (k, j) :: rest, es => ∃ v fs, es = ⟨.str k, .ofString k, v⟩ :: fs ∧ Made old st j v ∧
    MadeMembers old st rest fs

end

theorem MadeItems.forall₂ {items : List Json} {vs : List Value} (h : MadeItems old st items vs) :
    vs.Forall₂ (fun v j => Made old st j v) items := by
  induction items generalizing vs with
  | nil =>
    rw [MadeItems] at h
    rw [h]
    exact .nil
  | cons j rest ih =>
    rw [MadeItems] at h
    obtain ⟨v, ws, rfl, hv, hws⟩ := h
    exact .cons hv (ih hws)

theorem MadeMembers.forall₂ {members : List (String × Json)} {es : List Entry}
    (h : MadeMembers old st members es) :
    es.Forall₂ (fun e m => e.key = .str m.1 ∧ e.written = .ofString m.1 ∧ Made old st m.2 e.value)
      members := by
  induction members generalizing es with
  | nil =>
    rw [MadeMembers] at h
    rw [h]
    exact .nil
  | cons m rest ih =>
    rw [MadeMembers] at h
    obtain ⟨v, fs, rfl, hv, hfs⟩ := h
    exact .cons ⟨rfl, rfl, hv⟩ (ih hfs)

mutual

/-- A value stays what it was made as, and was made after what came before `old`, too. -/
theorem Made.grow (hold : Grows older old) (h : Grows st st') (j : Json) (v : Value)
    (hv : Made old st j v) : Made older st' j v := by
  cases j with
  | arr items =>
    rw [Made] at hv ⊢
    obtain ⟨a, rfl, hnew, ha, hitems⟩ := hv
    refine ⟨a, rfl, hold.lists.trans hnew, Nat.lt_of_lt_of_le ha h.lists, ?_⟩
    rw [h.items ha]
    exact MadeItems.grow hold h items _ hitems
  | obj members =>
    rw [Made] at hv ⊢
    obtain ⟨a, rfl, hnew, ha, hmembers⟩ := hv
    refine ⟨a, rfl, hold.maps.trans hnew, Nat.lt_of_lt_of_le ha h.maps, ?_⟩
    rw [h.entries ha]
    exact MadeMembers.grow hold h members _ hmembers
  | _ =>
    rw [Made] at hv ⊢
    exact hv

theorem MadeItems.grow (hold : Grows older old) (h : Grows st st') (items : List Json)
    (vs : List Value) (hvs : MadeItems old st items vs) : MadeItems older st' items vs := by
  cases items with
  | nil => exact hvs
  | cons j rest =>
    rw [MadeItems] at hvs ⊢
    obtain ⟨v, ws, rfl, hv, hws⟩ := hvs
    exact ⟨v, ws, rfl, Made.grow hold h j v hv, MadeItems.grow hold h rest ws hws⟩

theorem MadeMembers.grow (hold : Grows older old) (h : Grows st st')
    (members : List (String × Json)) (es : List Entry) (hes : MadeMembers old st members es) :
    MadeMembers older st' members es := by
  cases members with
  | nil => exact hes
  | cons member rest =>
    rw [MadeMembers] at hes ⊢
    obtain ⟨v, fs, rfl, hv, hfs⟩ := hes
    exact ⟨v, fs, rfl, Made.grow hold h member.2 v hv, MadeMembers.grow hold h rest fs hfs⟩

end

mutual

/-- **A document becomes its value.** -/
theorem made_ofJson (st : Store) (j : Json) : Made st (st.ofJson j).2 j (st.ofJson j).1 := by
  cases j with
  | arr items =>
    have hgrows := grows_ofJsonItems st items
    rw [ofJson, Made]
    refine ⟨_, rfl, hgrows.lists, by simp [newList], ?_⟩
    rw [items_newList_size]
    exact (made_ofJsonItems st items).grow (.refl st) (grows_newList _ _)
  | obj members =>
    have hgrows := grows_ofJsonMembers st members
    rw [ofJson, Made]
    refine ⟨_, rfl, hgrows.maps, by simp [newMap], ?_⟩
    rw [entries_newMap_size]
    exact (made_ofJsonMembers st members).grow (.refl st) (grows_newMap _ _)
  | _ =>
    rw [ofJson, Made]

theorem made_ofJsonItems (st : Store) (items : List Json) :
    MadeItems st (st.ofJsonItems items).2 items (st.ofJsonItems items).1 := by
  cases items with
  | nil => rfl
  | cons j rest =>
    rw [ofJsonItems, MadeItems]
    refine ⟨_, _, rfl, ?_, ?_⟩
    · exact (made_ofJson st j).grow (.refl st) (grows_ofJsonItems _ rest)
    · exact (made_ofJsonItems _ rest).grow (grows_ofJson st j) (.refl _)

theorem made_ofJsonMembers (st : Store) (members : List (String × Json)) :
    MadeMembers st (st.ofJsonMembers members).2 members (st.ofJsonMembers members).1 := by
  cases members with
  | nil => rfl
  | cons member rest =>
    rw [ofJsonMembers, MadeMembers]
    refine ⟨_, _, rfl, ?_, ?_⟩
    · exact (made_ofJson st member.2).grow (.refl st) (grows_ofJsonMembers _ rest)
    · exact (made_ofJsonMembers _ rest).grow (grows_ofJson st member.2) (.refl _)

end

end TableScript.Store
