import Mathlib.Data.List.TakeWhile
import TableScript.Proofs.Text.Characters
import TableScript.Text.Ansi
import TableScript.Text.Blank

/-!
# What a terminal shows

A terminal obeys the escape sequences in a text and shows the rest. `visible` takes out the two
kinds of sequences that looks are written with: changes of style (`ESC [ … m`) and the ends of links
(`ESC ] 8 ; ; … ESC \`).

1. `Shows` says what is seen of a text wherever it stands. Sequences show nothing
   (`EscapeKind.shows_sequence`), a text without escape characters shows itself (`shows_self`), and
   what one text after the other shows is put together (`Shows.append`).
2. So a rich text shows its plain text, with colour or without (`RichText.shows_render`).
3. White space at the end belongs to no sequence (`visibleFrom_append_blank`): it can be trimmed
   before or after the sequences are taken out (`trimEnd_visible_trimEnd`).
-/

namespace TableScript

/-! ## Escape sequences -/

/-- A kind of escape sequences: how they open and close, and what may stand in between. -/
structure EscapeKind where
  opening : List Char
  inner : Char → Bool
  closing : List Char
  opens : opening.head? = some '\x1b'
  closes : ∃ c cs, closing = c :: cs ∧ inner c = false
  solid : (opening ++ closing).any isBlank = false

namespace EscapeKind

/-- Changes of style: numbers between semicolons. -/
def style : EscapeKind where
  opening := ['\x1b', '[']
  inner c := c.isDigit || c = ';'
  closing := ['m']
  opens := rfl
  closes := ⟨'m', [], rfl, by decide⟩
  solid := by decide

/-- Where a link starts or stops: an address. -/
def link : EscapeKind where
  opening := ['\x1b', ']', '8', ';', ';']
  inner c := c ≠ '\x1b'
  closing := ['\x1b', '\\']
  opens := rfl
  closes := ⟨'\x1b', ['\\'], rfl, by decide⟩
  solid := by decide

/-- What follows the inner part of a sequence. -/
def rest (k : EscapeKind) (cs : List Char) : List Char :=
  (cs.drop k.opening.length).dropWhile k.inner

/-- How many characters at the start of a text are a sequence of this kind. -/
def length (k : EscapeKind) (cs : List Char) : Nat :=
  if k.opening <+: cs ∧ k.closing <+: k.rest cs then
    cs.length - (k.rest cs).length + k.closing.length
  else 0

end EscapeKind

/-- How many characters at the start of a text are an escape sequence. -/
def escapeLength (cs : List Char) : Nat :=
  max (EscapeKind.style.length cs) (EscapeKind.link.length cs)

/-- What is seen of a text; the first `skip` characters belong to a sequence. -/
def visibleFrom : (skip : Nat) → List Char → List Char
  | _, [] => []
  | skip + 1, _ :: cs => visibleFrom skip cs
  | 0, c :: cs =>
    match escapeLength (c :: cs) with
    | 0 => c :: visibleFrom 0 cs
    | skip + 1 => visibleFrom skip cs

/-- What is seen of a text. -/
def visible (s : String) : String := String.ofList (visibleFrom 0 s.toList)

example : visible "\x1b[38;5;1m\x1b[1mred\x1b[0m \x1b[x" = "red \x1b[x" := by decide

namespace EscapeKind

variable {k : EscapeKind} {c : Char} {cs body : List Char}

/-- A sequence starts with an escape character. -/
theorem length_eq_zero (hc : c ≠ '\x1b') : k.length (c :: cs) = 0 := by
  refine if_neg fun h => hc ?_
  have hhead := k.opens
  obtain ⟨tail, htail⟩ := h.1
  cases hopening : k.opening with
  | nil => simp [hopening] at hhead
  | cons d ds =>
    rw [hopening] at htail hhead
    exact (List.cons.inj htail).1.symm.trans (Option.some.inj hhead)

theorem length_rest_le (k : EscapeKind) (cs : List Char) : (k.rest cs).length ≤ cs.length := by
  have hdrop := List.length_dropWhile_le k.inner (cs.drop k.opening.length)
  rw [List.length_drop] at hdrop
  exact Nat.le_trans hdrop (Nat.sub_le ..)

theorem length_le (k : EscapeKind) (cs : List Char) : k.length cs ≤ cs.length := by
  by_cases h : k.opening <+: cs ∧ k.closing <+: k.rest cs
  · have hclosing := h.2.length_le
    have hrest := k.length_rest_le cs
    rw [length, if_pos h]
    omega
  · rw [length, if_neg h]
    exact Nat.zero_le _

/-- A whole sequence is taken for one, whatever follows. -/
theorem length_sequence (hbody : ∀ c ∈ body, k.inner c = true) (after : List Char) :
    k.length (k.opening ++ body ++ k.closing ++ after) =
      (k.opening ++ body ++ k.closing).length := by
  obtain ⟨d, ds, hclosing, hd⟩ := k.closes
  have hrest : k.rest (k.opening ++ body ++ k.closing ++ after) = k.closing ++ after := by
    rw [rest, List.append_assoc, List.append_assoc, List.drop_left,
      List.dropWhile_append_of_pos hbody, hclosing, List.cons_append,
      List.dropWhile_cons_of_neg (by simp [hd])]
  have hopening : k.opening <+: k.opening ++ body ++ k.closing ++ after :=
    ⟨body ++ k.closing ++ after, by simp only [List.append_assoc]⟩
  rw [length, hrest, if_pos ⟨hopening, List.prefix_append ..⟩]
  simp only [List.length_append]
  omega

end EscapeKind

theorem escapeLength_le (cs : List Char) : escapeLength cs ≤ cs.length :=
  Nat.max_le.2 ⟨EscapeKind.length_le _ cs, EscapeKind.length_le _ cs⟩

theorem escapeLength_eq_zero {c : Char} (hc : c ≠ '\x1b') (cs : List Char) :
    escapeLength (c :: cs) = 0 := by
  rw [escapeLength, EscapeKind.length_eq_zero hc, EscapeKind.length_eq_zero hc]
  rfl

/-- What starts with one kind of sequence does not start with the other. -/
theorem escapeLength_sequence {k : EscapeKind} (hk : k = .style ∨ k = .link) {body : List Char}
    (hbody : ∀ c ∈ body, k.inner c = true) (after : List Char) :
    escapeLength (k.opening ++ body ++ k.closing ++ after) =
      (k.opening ++ body ++ k.closing).length := by
  have hwhole := EscapeKind.length_sequence hbody after
  rcases hk with rfl | rfl
  · have hother : EscapeKind.link.length (EscapeKind.style.opening ++ body ++
        EscapeKind.style.closing ++ after) = 0 :=
      if_neg fun h => by simp [EscapeKind.link, EscapeKind.style] at h
    rw [escapeLength, hwhole, hother, Nat.max_zero]
  · have hother : EscapeKind.style.length (EscapeKind.link.opening ++ body ++
        EscapeKind.link.closing ++ after) = 0 :=
      if_neg fun h => by simp [EscapeKind.link, EscapeKind.style] at h
    rw [escapeLength, hwhole, hother, Nat.zero_max]

/-! ## What is seen -/

theorem visibleFrom_eq (skip : Nat) (cs : List Char) :
    visibleFrom skip cs = visibleFrom 0 (cs.drop skip) := by
  induction skip generalizing cs with
  | zero => rfl
  | succ skip ih =>
    cases cs with
    | nil => rfl
    | cons c cs => exact ih cs

theorem visibleFrom_escape {cs : List Char} (h : escapeLength cs ≠ 0) :
    visibleFrom 0 cs = visibleFrom 0 (cs.drop (escapeLength cs)) := by
  cases cs with
  | nil => rw [List.drop_nil]
  | cons c cs =>
    obtain ⟨n, hn⟩ := Nat.exists_eq_add_one_of_ne_zero h
    rw [visibleFrom, hn]
    exact visibleFrom_eq n cs

theorem visibleFrom_cons {c : Char} {cs : List Char} (h : escapeLength (c :: cs) = 0) :
    visibleFrom 0 (c :: cs) = c :: visibleFrom 0 cs := by
  rw [visibleFrom, h]

/-- What is seen of a text, whatever follows it. -/
def Shows (s seen : String) : Prop :=
  ∀ after : List Char, visibleFrom 0 (s.toList ++ after) = seen.toList ++ visibleFrom 0 after

variable {s s' seen seen' : String}

theorem Shows.visible_eq (h : Shows s seen) : visible s = seen := by
  have hall := h []
  rw [List.append_nil, visibleFrom, List.append_nil] at hall
  rw [visible, hall, String.ofList_toList]

theorem Shows.append (h : Shows s seen) (h' : Shows s' seen') :
    Shows (s ++ s') (seen ++ seen') := by
  intro after
  rw [String.toList_append, String.toList_append, List.append_assoc, List.append_assoc, h, h']

theorem Shows.join {α : Type} {xs : List α} {f g : α → String} (h : ∀ x ∈ xs, Shows (f x) (g x)) :
    Shows (String.join (xs.map f)) (String.join (xs.map g)) := by
  intro after
  rw [String.toList_join, String.toList_join]
  induction xs with
  | nil => rfl
  | cons x xs ih =>
    obtain ⟨hx, hxs⟩ := List.forall_mem_cons.1 h
    rw [List.map_cons, List.map_cons, List.flatMap_cons, List.flatMap_cons, List.append_assoc, hx,
      ih hxs, List.append_assoc]

/-- Without escape characters all of a text is seen. -/
theorem shows_self (h : '\x1b' ∉ s.toList) : Shows s s := by
  intro after
  generalize s.toList = cs at h
  induction cs with
  | nil => rfl
  | cons c cs ih =>
    rw [List.mem_cons, not_or] at h
    rw [List.cons_append, visibleFrom_cons (escapeLength_eq_zero (Ne.symm h.1) _), ih h.2]
    rfl

theorem EscapeKind.shows_sequence {k : EscapeKind} (hk : k = .style ∨ k = .link)
    (body : List Char) (hs : s.toList = k.opening ++ body ++ k.closing)
    (hbody : ∀ c ∈ body, k.inner c = true) : Shows s "" := by
  intro after
  have hlength := escapeLength_sequence hk hbody after
  have hpos : (k.opening ++ body ++ k.closing).length ≠ 0 := by
    obtain ⟨d, ds, hclosing, -⟩ := k.closes
    rw [hclosing]
    simp
  rw [hs, visibleFrom_escape (hlength ▸ hpos), hlength, List.drop_left]
  rfl

/-! ## Looks and rich texts -/

/-- A change of style by its numbers. -/
theorem shows_style (numbers : String) (hs : s = "\x1b[" ++ numbers ++ "m")
    (hnumbers : numbers.toList.all EscapeKind.style.inner = true) : Shows s "" := by
  refine EscapeKind.shows_sequence (.inl rfl) numbers.toList ?_ (List.all_eq_true.1 hnumbers)
  rw [hs, String.toList_append, String.toList_append]
  rfl

/-- The start or, without an address, the end of a link. -/
theorem shows_link (address : String) (hs : s = "\x1b]8;;" ++ address ++ "\x1b\\")
    (haddress : '\x1b' ∉ address.toList) : Shows s "" := by
  refine EscapeKind.shows_sequence (.inr rfl) address.toList ?_ fun c hc =>
    decide_eq_true fun e => haddress (e ▸ hc)
  rw [hs, String.toList_append, String.toList_append]
  rfl

/-- The number of a byte may stand in a change of style. -/
theorem inner_toString (n : UInt8) :
    (toString n).toList.all EscapeKind.style.inner = true := by
  refine List.all_eq_true.2 fun c hc => ?_
  change c ∈ (Nat.repr n.toNat).toList at hc
  rw [Nat.toList_repr] at hc
  have hdigit := Nat.isDigit_of_mem_toDigits (by decide) (by decide) hc
  simp [EscapeKind.style, hdigit]

/-- Numbers may stand one after the other. -/
theorem inner_append (s s' : String) (h : s.toList.all EscapeKind.style.inner = true)
    (h' : s'.toList.all EscapeKind.style.inner = true) :
    (s ++ s').toList.all EscapeKind.style.inner = true := by
  rw [String.toList_append, List.all_append, h, h']
  rfl

theorem TerminalColour.shows_sequence (colour : TerminalColour) : Shows colour.sequence "" := by
  cases colour with
  | indexed n =>
    refine shows_style ("38;5;" ++ toString n) ?_
      (inner_append "38;5;" _ (by decide) (inner_toString n))
    rw [sequence, ← String.append_assoc]
    rfl
  | rgb c =>
    refine shows_style ("38;2;" ++ toString c.red ++ ";" ++ toString c.green ++ ";" ++
      toString c.blue) ?_ ?_
    · simp only [sequence, ← String.append_assoc]
      rfl
    · have hred := inner_append "38;2;" _ (by decide) (inner_toString c.red)
      have hgreen := inner_append _ _ (inner_append _ ";" hred (by decide)) (inner_toString c.green)
      exact inner_append _ _ (inner_append _ ";" hgreen (by decide)) (inner_toString c.blue)
  | default => exact shows_style "39" rfl (by decide)

theorem Look.shows_weights (l : Look) : Shows l.weights "" := by
  have hif : ∀ (p : Prop) [Decidable p] {a : String}, Shows a "" →
      Shows (if p then a else "") "" := by
    intro p _ a ha
    split
    · exact ha
    · exact shows_self (by simp)
  have hbold : Shows "\x1b[1m" "" := shows_style "1" rfl (by decide)
  have hitalic : Shows "\x1b[3m" "" := shows_style "3" rfl (by decide)
  have hunderline : Shows "\x1b[4m" "" := shows_style "4" rfl (by decide)
  exact ((hif _ hbold).append (hif _ hitalic)).append (hif _ hunderline)

theorem Look.shows_reset (l : Look) : Shows l.reset "" := by
  unfold reset
  split
  · exact shows_style "0" rfl (by decide)
  · split
    · exact shows_style "39" rfl (by decide)
    · exact shows_self (by simp)

/-- Whatever its look, a text is seen as it is. -/
theorem Look.shows_wrap (l : Look) (hs : '\x1b' ∉ s.toList)
    (hlink : ∀ address ∈ l.link, '\x1b' ∉ address.toList) : Shows (l.wrap s) s := by
  have hcolour : Shows ((l.colour?.map TerminalColour.sequence).getD "") "" := by
    cases l.colour? with
    | none => exact shows_self (by simp)
    | some c => exact c.shows_sequence
  unfold wrap
  extract_lets styled
  have hstyled : Shows styled s := by
    have h := ((hcolour.append l.shows_weights).append (shows_self hs)).append l.shows_reset
    simpa only [String.append_empty, String.empty_append] using h
  clear_value styled
  cases hl : l.link with
  | none => exact hstyled
  | some address =>
    have hopen := shows_link address rfl (hlink address hl)
    have hclose : Shows "\x1b]8;;\x1b\\" "" := shows_link "" rfl (by simp)
    have hall := (hopen.append hstyled).append hclose
    simpa only [String.append_empty, String.empty_append, String.append_assoc] using hall

/-- With or without colour, a rich text is seen as its plain text. -/
theorem RichText.shows_render {t : RichText} (hplain : '\x1b' ∉ t.plain.toList)
    (hlinks : ∀ s ∈ t.segments, ∀ address ∈ s.look.link, '\x1b' ∉ address.toList)
    (colour : Bool) : Shows (t.render colour) t.plain := by
  unfold render
  split
  · refine Shows.join fun s hs => ?_
    have htext : '\x1b' ∉ s.text.toList := fun h => hplain (by
      rw [plain, String.toList_join, List.flatMap_map]
      exact List.mem_flatMap.2 ⟨s, hs, h⟩)
    split
    · exact s.look.shows_wrap htext (hlinks s hs)
    · exact shows_self htext
  · exact shows_self hplain

/-! ## White space at the end -/

/-- A text without white space starts another one as much as what is left of it without the white
space at the end. -/
theorem prefix_append_blank_iff {start cs blank : List Char}
    (hstart : start.any isBlank = false) (hblank : ∀ c ∈ blank, isBlank c = true) :
    start <+: cs ++ blank ↔ start <+: cs := by
  refine ⟨fun h => ?_, fun h => h.trans (List.prefix_append ..)⟩
  induction start generalizing cs with
  | nil => exact List.nil_prefix
  | cons d start ih =>
    rw [List.any_cons, Bool.or_eq_false_iff] at hstart
    obtain ⟨hd, hstart⟩ := hstart
    cases cs with
    | nil => exact absurd (hblank d (h.subset List.mem_cons_self)) (by simp [hd])
    | cons c cs =>
      rw [List.cons_append, List.cons_prefix_cons] at h
      exact List.cons_prefix_cons.2 ⟨h.1, ih hstart h.2⟩

namespace EscapeKind

variable {k : EscapeKind} {cs blank : List Char}

/-- What is left behind the inner part has the white space at its end, or is part of it. -/
theorem rest_append_blank (h : k.opening <+: cs) (blank : List Char) :
    k.rest (cs ++ blank) = k.rest cs ++ blank ∨
      k.rest cs = [] ∧ k.rest (cs ++ blank) = blank.dropWhile k.inner := by
  have hdrop : (cs ++ blank).drop k.opening.length = cs.drop k.opening.length ++ blank :=
    List.drop_append_of_le_length h.length_le
  unfold rest
  rw [hdrop, List.dropWhile_append]
  split
  · exact .inr ⟨List.isEmpty_iff.1 ‹_›, rfl⟩
  · exact .inl rfl

/-- White space at the end belongs to no sequence. -/
theorem length_append_blank (hblank : ∀ c ∈ blank, isBlank c = true) :
    k.length (cs ++ blank) = k.length cs := by
  have hsolid : k.opening.any isBlank = false ∧ k.closing.any isBlank = false := by
    rw [← Bool.or_eq_false_iff, ← List.any_append]
    exact k.solid
  by_cases hopening : k.opening <+: cs
  · have hopening' := hopening.trans (List.prefix_append cs blank)
    have hclosing : k.closing <+: k.rest (cs ++ blank) ↔ k.closing <+: k.rest cs := by
      rcases rest_append_blank hopening blank with h | ⟨h, h'⟩
      · rw [h, prefix_append_blank_iff hsolid.2 hblank]
      · have hdropped : ∀ c ∈ blank.dropWhile k.inner, isBlank c = true :=
          fun c hc => hblank c ((List.dropWhile_sublist _).subset hc)
        rw [h, h', ← List.nil_append (blank.dropWhile _), prefix_append_blank_iff hsolid.2 hdropped]
    by_cases hclosed : k.closing <+: k.rest cs
    · rw [length, length, if_pos ⟨hopening', hclosing.2 hclosed⟩, if_pos ⟨hopening, hclosed⟩]
      rcases rest_append_blank hopening blank with h | ⟨h, -⟩
      · rw [h, List.length_append, List.length_append, Nat.add_sub_add_right]
      · obtain ⟨d, ds, hd, -⟩ := k.closes
        rw [h, hd] at hclosed
        exact absurd (List.prefix_nil.1 hclosed) (by simp)
    · rw [length, length, if_neg fun h => hclosed (hclosing.1 h.2), if_neg fun h => hclosed h.2]
  · have hopening' := mt (prefix_append_blank_iff hsolid.1 hblank).1 hopening
    rw [length, length, if_neg fun h => hopening' h.1, if_neg fun h => hopening h.1]

end EscapeKind

theorem visibleFrom_append_blank {cs blank : List Char} (hblank : ∀ c ∈ blank, isBlank c = true)
    {skip : Nat} (hskip : skip ≤ cs.length) :
    visibleFrom skip (cs ++ blank) = visibleFrom skip cs ++ blank := by
  induction cs generalizing skip with
  | nil =>
    have hself : '\x1b' ∉ blank := fun h => absurd (hblank _ h) (by decide)
    have hshows := shows_self (s := String.ofList blank) (by rwa [String.toList_ofList]) []
    rw [String.toList_ofList, visibleFrom, List.append_nil] at hshows
    rw [Nat.le_zero.1 hskip, List.nil_append, hshows]
    rfl
  | cons c cs ih =>
    cases skip with
    | succ skip => exact ih (Nat.le_of_succ_le_succ hskip)
    | zero =>
      have hlength : escapeLength (c :: cs ++ blank) = escapeLength (c :: cs) := by
        rw [escapeLength, EscapeKind.length_append_blank hblank,
          EscapeKind.length_append_blank hblank]
        rfl
      have hle := escapeLength_le (c :: cs)
      rw [List.cons_append] at hlength ⊢
      rw [visibleFrom, visibleFrom, hlength]
      cases h : escapeLength (c :: cs) with
      | zero => exact congrArg (c :: ·) (ih (Nat.zero_le _))
      | succ n => exact ih (by rw [h] at hle; simpa using hle)

/-- Trimming takes off white space and nothing else. -/
theorem exists_trimEnd (s : String) :
    ∃ blank, s.toList = (trimEnd s).toList ++ blank ∧ ∀ c ∈ blank, isBlank c = true := by
  refine ⟨(s.toList.reverse.takeWhile isBlank).reverse, ?_, fun c hc => ?_⟩
  · rw [trimEnd, String.toList_ofList, ← List.reverse_append, List.takeWhile_append_dropWhile,
      List.reverse_reverse]
  · exact List.mem_takeWhile_imp (List.mem_reverse.1 hc)

theorem trimEnd_append_blank {cs blank : List Char} (hblank : ∀ c ∈ blank, isBlank c = true) :
    trimEnd (String.ofList (cs ++ blank)) = trimEnd (String.ofList cs) := by
  rw [trimEnd, trimEnd, String.toList_ofList, String.toList_ofList, List.reverse_append,
    List.dropWhile_append_of_pos fun c hc => hblank c (List.mem_reverse.1 hc)]

/-- Up to white space at the end, trimming a text does not change what is seen of it. -/
theorem trimEnd_visible_trimEnd (s : String) :
    trimEnd (visible (trimEnd s)) = trimEnd (visible s) := by
  obtain ⟨blank, hs, hblank⟩ := exists_trimEnd s
  rw [visible, visible, hs, visibleFrom_append_blank hblank (Nat.zero_le _),
    trimEnd_append_blank hblank]

end TableScript
