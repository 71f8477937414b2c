import TableScript.Proofs.Json.Numeral
import TableScript.Proofs.Json.Reading

/-!
# Reading what was written

`Draft.parse?_compact`: the text of a document reads as the document again, each double as its own
text reads, as long as the document is not nested too deep and its integers are integers that a
document can hold.

The reader's fuel bounds its recursion, so the proof goes by induction on the fuel: `Scans fuel`
says that values, items and members are taken off the head of a text whenever the fuel exceeds the
length of what is taken.
-/

namespace TableScript.Json

variable {rest : List Char}

/-! ## Strings -/

theorem hexValue?_hexDigit : ∀ n < 16, hexValue? (hexDigit n) = some n := by decide

theorem takeEscape?_control {c : Char} (hc : c.toNat < 0x20) :
    takeEscape? ('u' :: '0' :: '0' :: hexDigit (c.toNat / 16) :: hexDigit (c.toNat % 16) :: rest) =
      some (some c, rest) := by
  have hhigh := hexValue?_hexDigit (c.toNat / 16) (by omega)
  have hlow := hexValue?_hexDigit (c.toNat % 16) (by omega)
  have hzero : hexValue? '0' = some 0 := by decide
  have hunit : c.toNat / 16 * 16 + c.toNat % 16 = c.toNat := by omega
  have hlone : ¬(0xDC00 ≤ c.toNat ∧ c.toNat ≤ 0xDFFF) := by omega
  have hpaired : ¬(0xD800 ≤ c.toNat ∧ c.toNat ≤ 0xDBFF) := by omega
  simp only [takeEscape?, takeUnicode?, takeHex4?, hzero, hhigh, hlow, Option.bind_eq_bind,
    Option.bind_some, Nat.zero_mul, Nat.zero_add, hunit, hlone, hpaired, if_false, Char.ofNat_toNat]

/-- A character of a string is read back, whichever way it is written. -/
theorem takeString?_escapeChar (c : Char) (acc : List Char) (fuel : Nat) :
    takeString? (some acc) (escapeChar c ++ rest) (fuel + 1) =
      takeString? (some (c :: acc)) rest fuel := by
  unfold escapeChar
  split_ifs with h1 h2 h3 h4 h5 h6 h7 hcontrol
  · subst h1; rfl
  · subst h2; rfl
  · subst h3; rfl
  · subst h4; rfl
  · subst h5; rfl
  · subst h6; rfl
  · subst h7; rfl
  · simp [takeString?, takeEscape?_control hcontrol]
  · rw [List.singleton_append, takeString?, if_neg hcontrol]
    · rfl
    · simpa using h1
    · simpa using h2

theorem takeString?_quote {cs acc : List Char} {fuel : Nat} (hfuel : cs.length < fuel) :
    takeString? (some acc) (cs.flatMap escapeChar ++ '"' :: rest) fuel =
      some (some (String.ofList (acc.reverse ++ cs)), rest) := by
  induction cs generalizing acc fuel with
  | nil =>
    obtain _ | fuel := fuel
    · simp at hfuel
    · simp [takeString?]
  | cons c cs ih =>
    obtain _ | fuel := fuel
    · simp at hfuel
    · rw [List.flatMap_cons, List.append_assoc, takeString?_escapeChar, ih (by simpa using hfuel)]
      simp

theorem length_le_length_escaped (cs : List Char) : cs.length ≤ (cs.flatMap escapeChar).length := by
  induction cs with
  | nil => exact Nat.le_refl 0
  | cons c cs ih =>
    have hc : 1 ≤ (escapeChar c).length := by
      unfold escapeChar
      split_ifs <;> simp
    simp only [List.flatMap_cons, List.length_append, List.length_cons]
    omega

theorem toList_quote (s : String) :
    (quote s).toList = '"' :: (s.toList.flatMap escapeChar ++ ['"']) := by
  simp [quote]

/-- A string is read back after its opening quote. -/
theorem takeString?_toList (s : String) (rest : List Char) :
    takeString? (some []) (s.toList.flatMap escapeChar ++ '"' :: rest)
      ((s.toList.flatMap escapeChar ++ '"' :: rest).length + 1) = some (some s, rest) := by
  have hlength := length_le_length_escaped s.toList
  rw [takeString?_quote (by simp only [List.length_append]; omega)]
  simp

/-! ## Numbers -/

/-- A value starts with a character that is no blank and closes nothing. -/
def Opens (cs : List Char) : Prop :=
  ∃ c tail, cs = c :: tail ∧ isBlank c = false ∧ c ≠ ']' ∧ c ≠ '}'

theorem Opens.append {cs : List Char} (h : Opens cs) (rest : List Char) : Opens (cs ++ rest) := by
  obtain ⟨c, tail, rfl, hc⟩ := h
  exact ⟨c, tail ++ rest, rfl, hc⟩

theorem Opens.skipBlanks {cs : List Char} (h : Opens cs) : skipBlanks cs = cs := by
  obtain ⟨c, tail, rfl, hc, -⟩ := h
  simp [Json.skipBlanks, hc]

namespace Number

/-- The draft of a literal. -/
def Literal.draft (l : Literal) : Draft := (l.toJson?.map Draft.ofJson).getD .unreadable

theorem Literal.Valid.text_eq_cons {l : Literal} (hl : l.Valid) :
    ∃ c tail, l.text = c :: tail ∧ (c = '-' ∨ c.isDigit) := by
  obtain ⟨c, tail, hwhole⟩ := List.exists_cons_of_ne_nil hl.whole.ne_nil
  have hc := hl.whole.digit c (hwhole ▸ List.mem_cons_self ..)
  unfold Literal.text Literal.signText
  split
  · exact ⟨'-', _, rfl, .inl rfl⟩
  · exact ⟨c, _, by rw [hwhole]; rfl, .inr hc⟩

theorem ne_of_starts {c k : Char} (hc : c = '-' ∨ c.isDigit) (hk : k ≠ '-' ∧ k.isDigit = false) :
    c ≠ k := by
  rintro rfl
  obtain rfl | hdigit := hc
  · exact hk.1 rfl
  · simp [hk.2] at hdigit

theorem Literal.Valid.opens {l : Literal} (hl : l.Valid) : Opens l.text := by
  obtain ⟨c, tail, htext, hc⟩ := hl.text_eq_cons
  have hblank : isBlank c = false := by
    simp [isBlank, ne_of_starts hc]
  exact ⟨c, tail, htext, hblank, ne_of_starts hc (by decide), ne_of_starts hc (by decide)⟩

theorem takeValue?_text {l : Literal} (hl : l.Valid) {rest : List Char} (hrest : Closes rest)
    (depth fuel : Nat) :
    takeValue? depth (l.text ++ rest) (fuel + 1) = some (l.draft, rest) := by
  have htake := take?_text hl hrest
  have hskip := (hl.opens.append rest).skipBlanks
  obtain ⟨c, tail, htext, hc⟩ := hl.text_eq_cons
  rw [takeValue?, hskip]
  rw [htext, List.cons_append] at htake ⊢
  have hother {k : Char} {cs : List Char} (hk : k ≠ '-' ∧ k.isDigit = false) :
      c :: (tail ++ rest) ≠ k :: cs :=
    fun heq => ne_of_starts hc hk (List.cons.inj heq).1
  split
  · cases ‹_ :: _ = []›
  · exact absurd ‹_› (hother (by decide))
  · exact absurd ‹_› (hother (by decide))
  · exact absurd ‹_› (hother (by decide))
  · exact absurd ‹_› (hother (by decide))
  · exact absurd ‹_› (hother (by decide))
  · exact absurd ‹_› (hother (by decide))
  · rw [htake]
    rfl

end Number

open Number

/-- The text of a double reads as the draft of its literal. -/
theorem reread_eq {x : Double} (hx : x.isFinite) : reread x = (doubleLiteral x).draft := by
  have hvalue := takeValue?_text (valid_doubleLiteral x) closes_nil depthLimit
    (doubleLiteral x).text.length
  rw [List.append_nil, text_doubleLiteral hx] at hvalue
  rw [reread, Draft.parse?, compact, hvalue]
  rfl

theorem reread_of_not_finite {x : Double} (hx : x.isFinite = false) : reread x = .null := by
  rw [reread, compact, floatText, if_neg (by simp [hx])]
  rfl

/-! ## Values -/

/-- The integers of the document are such that a document can hold them. -/
def Fits (j : Json) : Prop := ∀ n, .int n ∈ j.leaves → -2 ^ 63 ≤ n ∧ n < 2 ^ 64

theorem fits_arr {items : List Json} : Fits (.arr items) ↔ ∀ j ∈ items, Fits j := by
  simp only [Fits, leaves, leavesOfItems_eq_flatMap, List.mem_flatMap]
  constructor
  · intro h j hj n hn
    exact h n ⟨j, hj, hn⟩
  · rintro h n ⟨j, hj, hn⟩
    exact h j hj n hn

theorem fits_obj {members : List (String × Json)} :
    Fits (.obj members) ↔ ∀ m ∈ members, Fits m.2 := by
  simp only [Fits, leaves, leavesOfMembers_eq_flatMap, List.mem_flatMap]
  constructor
  · intro h m hm n hn
    exact h n ⟨m, hm, hn⟩
  · rintro h n ⟨m, hm, hn⟩
    exact h m hm n hn

theorem toList_compact_arr (items : List Json) :
    (compact (.arr items)).toList = '[' :: ((compactItems items).toList ++ [']']) := by
  simp [compact]

theorem toList_compact_obj (members : List (String × Json)) :
    (compact (.obj members)).toList = '{' :: ((compactMembers members).toList ++ ['}']) := by
  simp [compact]

theorem opens_compact (j : Json) : Opens (compact j).toList := by
  cases j with
  | null => exact ⟨'n', _, rfl, by decide⟩
  | bool b =>
    cases b
    · exact ⟨'f', _, rfl, by decide⟩
    · exact ⟨'t', _, rfl, by decide⟩
  | int n =>
    rw [compact, ← text_intLiteral]
    exact (valid_intLiteral n).opens
  | float x =>
    by_cases hx : x.isFinite
    · rw [compact, ← text_doubleLiteral hx]
      exact (valid_doubleLiteral x).opens
    · rw [compact, floatText, if_neg hx]
      exact ⟨'n', _, rfl, by decide⟩
  | str s =>
    rw [compact, toList_quote]
    exact ⟨'"', _, rfl, by decide⟩
  | arr items => exact ⟨'[', _, toList_compact_arr items, by decide⟩
  | obj members => exact ⟨'{', _, toList_compact_obj members, by decide⟩

theorem toList_compactItems_cons_cons (j k : Json) (more : List Json) :
    (compactItems (j :: k :: more)).toList =
      (compact j).toList ++ ',' :: (compactItems (k :: more)).toList := by
  rw [compactItems]
  · simp
  · exact fun h => List.cons_ne_nil _ _ h

theorem opens_compactItems (j : Json) (more : List Json) :
    Opens (compactItems (j :: more)).toList := by
  cases more with
  | nil =>
    rw [compactItems]
    exact opens_compact j
  | cons k more =>
    rw [toList_compactItems_cons_cons]
    exact (opens_compact j).append _

theorem toList_compactMembers_singleton (key : String) (j : Json) :
    (compactMembers [(key, j)]).toList = (quote key).toList ++ ':' :: (compact j).toList := by
  simp [compactMembers]

theorem toList_compactMembers_cons_cons (key : String) (j : Json) (m : String × Json)
    (more : List (String × Json)) :
    (compactMembers ((key, j) :: m :: more)).toList =
      (quote key).toList ++
        ':' :: ((compact j).toList ++ ',' :: (compactMembers (m :: more)).toList) := by
  rw [compactMembers]
  · simp
  · exact fun h => List.cons_ne_nil _ _ h

theorem opens_compactMembers (m : String × Json) (more : List (String × Json)) :
    Opens (compactMembers (m :: more)).toList := by
  obtain ⟨key, j⟩ := m
  have hkey : Opens (quote key).toList := ⟨'"', _, toList_quote key, by decide⟩
  cases more with
  | nil =>
    rw [toList_compactMembers_singleton]
    exact hkey.append _
  | cons k more =>
    rw [toList_compactMembers_cons_cons]
    exact hkey.append _

/-! ## Scanning -/

/-- With this much fuel, whatever is shorter is taken off the head of a text. -/
structure Scans (fuel : Nat) : Prop where
  value {j : Json} {depth : Nat} {rest : List Char} : (compact j).toList.length < fuel → Fits j →
    j.depth ≤ depth → Closes rest →
      takeValue? depth ((compact j).toList ++ rest) fuel = some (rereading j, rest)
  items {items : List Json} {depth : Nat} {rest : List Char} : items ≠ [] →
    (compactItems items).toList.length + 1 < fuel → Fits (.arr items) → depthOfItems items ≤ depth →
      takeItems? depth ((compactItems items).toList ++ ']' :: rest) fuel =
        some (rereadItems items, rest)
  members {members : List (String × Json)} {depth : Nat} {rest : List Char} : members ≠ [] →
    (compactMembers members).toList.length + 1 < fuel → Fits (.obj members) →
    depthOfMembers members ≤ depth →
      takeMembers? depth ((compactMembers members).toList ++ '}' :: rest) fuel =
        some (rereadMembers members, rest)

variable {fuel : Nat}

theorem nested_of_pos {depth : Nat} (h : 0 < depth) (d : Draft) : nested depth d = d :=
  if_neg (Nat.ne_of_gt h)

theorem takeValue?_str (s : String) (depth fuel : Nat) :
    takeValue? depth ((quote s).toList ++ rest) (fuel + 1) = some (.str s, rest) := by
  have hstring := takeString?_toList s rest
  rw [toList_quote, List.cons_append, List.append_assoc, List.singleton_append]
  change (takeString? _ _ _ >>= _) = _
  rw [hstring]
  rfl

theorem takeValue?_arr {cs : List Char} (h : Opens cs) (depth fuel : Nat) :
    takeValue? depth ('[' :: cs) (fuel + 1) =
      (takeItems? (depth - 1) cs fuel).map fun p => (nested depth (.arr p.1), p.2) := by
  have hopening : skipBlanks ('[' :: cs) = '[' :: cs := rfl
  simp only [takeValue?, hopening, h.skipBlanks]
  obtain ⟨c, tail, rfl, -, hc, -⟩ := h
  split
  · exact absurd (List.cons.inj ‹_›).1 hc
  · cases takeItems? (depth - 1) (c :: tail) fuel <;> rfl

theorem takeValue?_obj {cs : List Char} (h : Opens cs) (depth fuel : Nat) :
    takeValue? depth ('{' :: cs) (fuel + 1) =
      (takeMembers? (depth - 1) cs fuel).map fun p => (nested depth (.obj p.1), p.2) := by
  have hopening : skipBlanks ('{' :: cs) = '{' :: cs := rfl
  simp only [takeValue?, hopening, h.skipBlanks]
  obtain ⟨c, tail, rfl, -, -, hc⟩ := h
  split
  · exact absurd (List.cons.inj ‹_›).1 hc
  · cases takeMembers? (depth - 1) (c :: tail) fuel <;> rfl

theorem scans_value (ih : Scans fuel) {j : Json} {depth : Nat} {rest : List Char}
    (hfuel : (compact j).toList.length < fuel + 1) (hfits : Fits j) (hdepth : j.depth ≤ depth)
    (hrest : Closes rest) :
    takeValue? depth ((compact j).toList ++ rest) (fuel + 1) = some (rereading j, rest) := by
  cases j with
  | null => rfl
  | bool b => cases b <;> rfl
  | int n =>
    have hn := hfits n (List.mem_singleton.2 rfl)
    rw [compact, ← text_intLiteral, takeValue?_text (valid_intLiteral n) hrest, rereading,
      Literal.draft, toJson?_intLiteral hn.1 hn.2]
    rfl
  | float x =>
    by_cases hx : x.isFinite
    · rw [compact, ← text_doubleLiteral hx, takeValue?_text (valid_doubleLiteral x) hrest,
        rereading, reread_eq hx]
    · rw [compact, floatText, if_neg hx, rereading, reread_of_not_finite (by simpa using hx)]
      rfl
  | str s => rw [compact, takeValue?_str, rereading]
  | arr items =>
    have hopen : 0 < depth := Nat.lt_of_lt_of_le (Nat.succ_pos _) hdepth
    rw [toList_compact_arr] at hfuel ⊢
    rw [List.cons_append, List.append_assoc, List.singleton_append, rereading]
    cases items with
    | nil =>
      change some (nested depth _, _) = _
      rw [nested_of_pos hopen]
      rfl
    | cons j more =>
      rw [takeValue?_arr ((opens_compactItems j more).append _),
        ih.items (List.cons_ne_nil j more) (by simpa using hfuel) hfits
          (Nat.le_sub_one_of_lt hdepth)]
      exact congrArg some (congrArg (·, rest) (nested_of_pos hopen _))
  | obj members =>
    have hopen : 0 < depth := Nat.lt_of_lt_of_le (Nat.succ_pos _) hdepth
    rw [toList_compact_obj] at hfuel ⊢
    rw [List.cons_append, List.append_assoc, List.singleton_append, rereading]
    cases members with
    | nil =>
      change some (nested depth _, _) = _
      rw [nested_of_pos hopen]
      rfl
    | cons m more =>
      rw [takeValue?_obj ((opens_compactMembers m more).append _),
        ih.members (List.cons_ne_nil m more) (by simpa using hfuel) hfits
          (Nat.le_sub_one_of_lt hdepth)]
      exact congrArg some (congrArg (·, rest) (nested_of_pos hopen _))

theorem scans_items (ih : Scans fuel) {items : List Json} {depth : Nat} {rest : List Char}
    (hitems : items ≠ []) (hfuel : (compactItems items).toList.length + 1 < fuel + 1)
    (hfits : Fits (.arr items)) (hdepth : depthOfItems items ≤ depth) :
    takeItems? depth ((compactItems items).toList ++ ']' :: rest) (fuel + 1) =
      some (rereadItems items, rest) := by
  obtain _ | ⟨j, more⟩ := items
  · exact absurd rfl hitems
  have hj : Fits j := fits_arr.1 hfits j (List.mem_cons_self ..)
  have hjdepth : j.depth ≤ depth := Nat.le_trans (Nat.le_max_left _ _) hdepth
  obtain _ | ⟨k, more⟩ := more
  · rw [compactItems] at hfuel ⊢
    rw [takeItems?, ih.value (Nat.lt_of_succ_lt_succ hfuel) hj hjdepth (closes_cons (by simp))]
    rfl
  · have hmore : Fits (.arr (k :: more)) :=
      fits_arr.2 fun i hi => fits_arr.1 hfits i (List.mem_cons_of_mem j hi)
    have hmoredepth : depthOfItems (k :: more) ≤ depth := Nat.le_trans (Nat.le_max_right _ _) hdepth
    simp only [toList_compactItems_cons_cons, List.length_append, List.length_cons,
      List.append_assoc, List.cons_append] at hfuel ⊢
    rw [takeItems?, ih.value (by omega) hj hjdepth (closes_cons (by simp))]
    change (takeItems? depth ((compactItems (k :: more)).toList ++ ']' :: rest) fuel >>= _) = _
    rw [ih.items (List.cons_ne_nil _ _) (by omega) hmore hmoredepth]
    rfl

theorem takeMembers?_cons (key : String) (after : List Char) (depth fuel : Nat) :
    takeMembers? depth ((quote key).toList ++ ':' :: after) (fuel + 1) =
      (takeValue? depth after fuel >>= fun p => match skipBlanks p.2 with
        | '}' :: rest => some ([(some key, p.1)], rest)
        | ',' :: rest => do
          let (members, rest) ← takeMembers? depth rest fuel
          some ((some key, p.1) :: members, rest)
        | _ => none) := by
  have hstring := takeString?_toList key (':' :: after)
  rw [toList_quote, List.cons_append, List.append_assoc, List.singleton_append]
  change (takeString? _ _ _ >>= _) = _
  rw [hstring]
  rfl

theorem scans_members (ih : Scans fuel) {members : List (String × Json)} {depth : Nat}
    {rest : List Char} (hmembers : members ≠ [])
    (hfuel : (compactMembers members).toList.length + 1 < fuel + 1) (hfits : Fits (.obj members))
    (hdepth : depthOfMembers members ≤ depth) :
    takeMembers? depth ((compactMembers members).toList ++ '}' :: rest) (fuel + 1) =
      some (rereadMembers members, rest) := by
  obtain _ | ⟨⟨key, j⟩, more⟩ := members
  · exact absurd rfl hmembers
  have hj : Fits j := fits_obj.1 hfits _ (List.mem_cons_self ..)
  have hjdepth : j.depth ≤ depth := Nat.le_trans (Nat.le_max_left _ _) hdepth
  obtain _ | ⟨k, more⟩ := more
  · simp only [toList_compactMembers_singleton, List.length_append, List.length_cons,
      List.append_assoc, List.cons_append] at hfuel ⊢
    rw [takeMembers?_cons, ih.value (by omega) hj hjdepth (closes_cons (by simp))]
    rfl
  · have hmore : Fits (.obj (k :: more)) :=
      fits_obj.2 fun i hi => fits_obj.1 hfits i (List.mem_cons_of_mem _ hi)
    have hmoredepth : depthOfMembers (k :: more) ≤ depth :=
      Nat.le_trans (Nat.le_max_right _ _) hdepth
    simp only [toList_compactMembers_cons_cons, List.length_append, List.length_cons,
      List.append_assoc, List.cons_append] at hfuel ⊢
    rw [takeMembers?_cons, ih.value (by omega) hj hjdepth (closes_cons (by simp))]
    change (takeMembers? depth ((compactMembers (k :: more)).toList ++ '}' :: rest) fuel >>= _) = _
    rw [ih.members (List.cons_ne_nil _ _) (by omega) hmore hmoredepth]
    rfl

theorem scans (fuel : Nat) : Scans fuel := by
  induction fuel with
  | zero => exact ⟨nofun, nofun, nofun⟩
  | succ fuel ih => exact ⟨scans_value ih, scans_items ih, scans_members ih⟩

/-- The text of a document reads as the document, each double as its own text reads. -/
theorem Draft.parse?_compact {j : Json} {limit : Nat} (hfits : Fits j) (hdepth : j.depth ≤ limit) :
    Draft.parse? (compact j) limit = some (rereading j) := by
  have hvalue := (scans ((compact j).toList.length + 1)).value (Nat.lt_succ_self _) hfits hdepth
    closes_nil
  rw [List.append_nil] at hvalue
  rw [Draft.parse?, hvalue]
  rfl

end TableScript.Json
