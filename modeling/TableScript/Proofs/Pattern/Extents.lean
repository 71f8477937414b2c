import TableScript.Pattern.Search
import TableScript.Proofs.Pattern.Placement

/-!
# The extents of matches

The matches of a pattern in a text come from left to right and do not overlap
(`Regex.findAll_inOrder`).

1. Slots are only written with the position a search is at. So while a search goes on from position
   `first`, all slots lie between `first` and where it is (`Slots.Within`).
2. The frame of a program (`Program.Framed`) is passed at both ends: past its start slot zero is
   written, and where the program accepts slot one is written last (`Reached`). `follow`, `advance`
   and `searchFrom` keep this.
3. The next search starts where the last match stopped, or one character further on.
-/

namespace TableScript.Pattern

/-- The extents lie in this order and without overlap between two positions. -/
def InOrder (first last : Nat) : List (Nat × Nat) → Prop
  | [] => first ≤ last
  | (start, stop) :: rest => first ≤ start ∧ start ≤ stop ∧ InOrder stop last rest

theorem InOrder.mono {first first' last : Nat} (h : first ≤ first') :
    ∀ {extents : List (Nat × Nat)}, InOrder first' last extents → InOrder first last extents
  | [], h' => Nat.le_trans h h'
  | _ :: _, ⟨hstart, h'⟩ => ⟨Nat.le_trans h hstart, h'⟩

theorem inOrder_iff {first last : Nat} {extents : List (Nat × Nat)} :
    InOrder first last extents ↔ first ≤ last ∧ extents.Pairwise (fun e e' => e.2 ≤ e'.1) ∧
      ∀ e ∈ extents, first ≤ e.1 ∧ e.1 ≤ e.2 ∧ e.2 ≤ last := by
  induction extents generalizing first with
  | nil => simp [InOrder]
  | cons e rest ih =>
    rw [InOrder, ih, List.pairwise_cons, List.forall_mem_cons]
    constructor
    · rintro ⟨hstart, hstop, hlast, hpairs, hrest⟩
      exact ⟨by omega, ⟨fun e' he' => (hrest e' he').1, hpairs⟩, ⟨hstart, hstop, hlast⟩,
        fun e' he' => ⟨Nat.le_trans (Nat.le_trans hstart hstop) (hrest e' he').1,
          (hrest e' he').2⟩⟩
    · rintro ⟨-, ⟨hbehind, hpairs⟩, ⟨hstart, hstop, hlast⟩, hrest⟩
      exact ⟨hstart, hstop, hlast, hpairs, fun e' he' => ⟨hbehind e' he', (hrest e' he').2⟩⟩

/-! ## Slots -/

variable {p : Program} {first index : Nat} {address : Nat} {slots : Slots}

/-- The positions in the slots lie between two positions; there are slots for the whole match. -/
structure Slots.Within (first index : Nat) (slots : Slots) : Prop where
  size : 1 < slots.size
  bounds : ∀ k v : Nat, slots[k]? = some (some v) → first ≤ v ∧ v ≤ index

theorem Slots.Within.later (h : Slots.Within first index slots) {index' : Nat}
    (hindex : index ≤ index') : Slots.Within first index' slots where
  size := h.size
  bounds k v hk := ⟨(h.bounds k v hk).1, Nat.le_trans (h.bounds k v hk).2 hindex⟩

theorem Slots.Within.save (h : Slots.Within first index slots) (hfirst : first ≤ index)
    (slot : Nat) : Slots.Within first index (slots.setIfInBounds slot (some index)) where
  size := by
    rw [Array.size_setIfInBounds]
    exact h.size
  bounds k v hk := by
    rw [Array.getElem?_setIfInBounds] at hk
    split at hk
    · split at hk <;> cases hk
      exact ⟨hfirst, Nat.le_refl _⟩
    · exact h.bounds k v hk

/-- What slots say at an address: past the start of the program slot zero is written, and where it
accepts slot one is written too, not before it. -/
structure Reached (p : Program) (first index address : Nat) (slots : Slots) : Prop where
  within : Slots.Within first index slots
  opened : address ≠ p.start → ∃ start, slots[0]? = some (some start)
  closed : address = 0 → ∃ start stop, slots[0]? = some (some start) ∧
    slots[1]? = some (some stop) ∧ start ≤ stop

theorem Reached.later (h : Reached p first index address slots) {index' : Nat}
    (hindex : index ≤ index') : Reached p first index' address slots :=
  ⟨h.within.later hindex, h.opened, h.closed⟩

/-- Only the start of the program has nothing in slot zero yet; it writes this slot. -/
theorem ne_start (hp : p.Framed) {i : Instruction} (hi : p.code[address]? = some i)
    (h : ∀ next, i ≠ .save 0 next) : address ≠ p.start := by
  rintro rfl
  obtain ⟨entry, hopen, -⟩ := hp.opens
  exact h entry (Option.some.inj (hi.symm.trans hopen))

/-- An instruction that writes no slot. -/
theorem Reached.target (hp : p.Framed) (h : Reached p first index address slots)
    {i : Instruction} (hi : p.code[address]? = some i) (hsave : ∀ slot next, i ≠ .save slot next)
    {next : Nat} (hnext : next ∈ i.targets) : Reached p first index next slots := by
  have hopened := h.opened (ne_start hp hi (hsave 0))
  have hne : next ≠ 0 := by
    rintro rfl
    rcases hp.cases hi with ⟨-, rfl⟩ | ⟨-, rfl⟩ | ⟨-, -, hinner⟩
    · simp [Instruction.targets] at hnext
    · exact hsave 1 0 rfl
    · exact hinner hnext
  exact ⟨h.within, fun _ => hopened, fun h0 => absurd h0 hne⟩

/-- An instruction that writes a slot. -/
theorem Reached.save (hp : p.Framed) (h : Reached p first index address slots)
    (hfirst : first ≤ index) {slot next : Nat} (hi : p.code[address]? = some (.save slot next)) :
    Reached p first index next (slots.setIfInBounds slot (some index)) := by
  have hsize := h.within.size
  have hopened : ∃ start, (slots.setIfInBounds slot (some index))[0]? = some (some start) ∧
      start ≤ index := by
    rw [Array.getElem?_setIfInBounds]
    by_cases hslot : slot = 0
    · exact ⟨index, by rw [if_pos hslot, if_pos (by omega)], Nat.le_refl _⟩
    · have hstart : address ≠ p.start := ne_start hp hi (by simp [hslot])
      obtain ⟨start, h0⟩ := h.opened hstart
      exact ⟨start, by rw [if_neg hslot, h0], (h.within.bounds 0 start h0).2⟩
  obtain ⟨start, h0, hle⟩ := hopened
  refine ⟨h.within.save hfirst slot, fun _ => ⟨start, h0⟩, fun hnext => ?_⟩
  subst hnext
  rcases hp.cases hi with ⟨-, hi'⟩ | ⟨-, hi'⟩ | ⟨-, hinner⟩
  · cases hi'
  · cases hi'
    exact ⟨start, index, h0, by rw [Array.getElem?_setIfInBounds, if_pos rfl, if_pos hsize], hle⟩
  · exact absurd (by simp [Instruction.targets]) hinner.2

/-! ## Following a way -/

/-- What ways waiting at a position say. -/
def Waiting (p : Program) (first index : Nat) (threads : List Thread) : Prop :=
  ∀ t ∈ threads, Reached p first index t.address t.slots

theorem follow_waiting (hp : p.Framed) {place : Place} (hfirst : first ≤ place.index) {fuel : Nat}
    {f : Frontier} (h : Reached p first place.index address slots)
    (hf : Waiting p first place.index f.threads) :
    Waiting p first place.index (follow p.code place address slots fuel f).threads := by
  fun_induction follow p.code place address slots fuel f with
  | case1 => exact hf
  | case2 => exact hf
  | case3 => exact hf
  | case4 address slots fuel f _ _ next hi ih =>
    exact ih (h.target hp hi (by simp) (by simp [Instruction.targets])) hf
  | case5 address slots fuel f _ _ first' second hi ih ih' =>
    exact ih' (h.target hp hi (by simp) (by simp [Instruction.targets]))
      (ih (h.target hp hi (by simp) (by simp [Instruction.targets])) hf)
  | case6 address slots fuel f _ _ slot next hi ih => exact ih (h.save hp hfirst hi) hf
  | case7 address slots fuel f _ _ a next hi _ ih =>
    exact ih (h.target hp hi (by simp) (by simp [Instruction.targets])) hf
  | case8 => exact hf
  | case9 => exact List.forall_mem_cons.2 ⟨h, hf⟩
  | case10 => exact List.forall_mem_cons.2 ⟨h, hf⟩

/-! ## Searching -/

/-- Slots of a match between two positions. -/
def Matched (first last : Nat) (slots : Slots) : Prop :=
  ∃ start stop, slots[0]? = some (some start) ∧ slots[1]? = some (some stop) ∧
    first ≤ start ∧ start ≤ stop ∧ stop ≤ last

theorem Matched.later {last last' : Nat} (h : Matched first last slots) (hlast : last ≤ last') :
    Matched first last' slots := by
  obtain ⟨start, stop, h0, h1, hstart, hle, hstop⟩ := h
  exact ⟨start, stop, h0, h1, hstart, hle, Nat.le_trans hstop hlast⟩

theorem Reached.matched (hp : p.Framed) (h : Reached p first index address slots)
    (hi : p.code[address]? = some .accept) : Matched first index slots := by
  rcases hp.cases hi with ⟨h0, -⟩ | ⟨-, hi'⟩ | ⟨-, hinner⟩
  · obtain ⟨start, stop, hstart, hstop, hle⟩ := h.closed h0
    exact ⟨start, stop, hstart, hstop, (h.within.bounds 0 start hstart).1, hle,
      (h.within.bounds 1 stop hstop).2⟩
  · cases hi'
  · exact absurd rfl hinner.1

theorem advance_matched (hp : p.Framed) (place : Place) (hfirst : first ≤ index)
    (hplace : index ≤ place.index) {c : Option Char} {threads : List Thread} {f : Frontier}
    {found : Option Slots} (ht : Waiting p first index threads)
    (hf : Waiting p first place.index f.threads) (hfound : ∀ s ∈ found, Matched first index s) :
    Waiting p first place.index (advance p.code c place threads f found).1.threads ∧
      ∀ s ∈ (advance p.code c place threads f found).2, Matched first index s := by
  fun_induction advance p.code c place threads f found with
  | case1 => exact ⟨hf, hfound⟩
  | case2 c t rest f found hi =>
    refine ⟨hf, fun s hs => ?_⟩
    cases hs
    exact (ht t List.mem_cons_self).matched hp hi
  | case3 t rest f found chars next hi c f' ih =>
    obtain ⟨hthread, hrest⟩ := List.forall_mem_cons.1 ht
    refine ih hrest ?_ hfound
    have hnext : Reached p first place.index next t.slots :=
      (hthread.later hplace).target hp hi (by simp) (by simp [Instruction.targets])
    unfold f'
    split
    · exact follow_waiting hp (Nat.le_trans hfirst hplace) hnext hf
    · exact hf
  | case4 t rest f found chars next hi ih => exact ih (List.forall_mem_cons.1 ht).2 hf hfound
  | case5 c t rest f found _ _ ih => exact ih (List.forall_mem_cons.1 ht).2 hf hfound

/-- A way that starts at a position has no slot written. -/
theorem reached_start (hp : p.Framed) (first index : Nat) :
    Reached p first index p.start (Array.replicate (2 * p.groupCount + 2) none) := by
  refine ⟨⟨by simp, fun k v hk => ?_⟩, fun h => absurd rfl h, fun h => ?_⟩
  · rw [Array.getElem?_replicate] at hk
    split at hk <;> cases hk
  · obtain ⟨entry, hopen, -⟩ := hp.opens
    cases (h ▸ hopen).symm.trans hp.accepts

theorem waiting_nil : Waiting p first index [] := by
  intro t h
  cases h

/-- The ways under way at a position, and a new one if nothing has matched. -/
theorem started_waiting (hp : p.Framed) (place : Place) (hfirst : first ≤ place.index)
    {threads : List Thread} (ht : Waiting p first place.index threads) (seen : Array Bool)
    (found : Bool) :
    Waiting p first place.index (if found then threads else threads ++
      (follow p.code place p.start (Array.replicate (2 * p.groupCount + 2) none)
        (p.code.size + 1) { visited := seen }).threads.reverse) := by
  split
  · exact ht
  · refine List.forall_mem_append.2 ⟨ht, fun t h => ?_⟩
    exact follow_waiting hp hfirst (reached_start hp first _) waiting_nil t
      (List.mem_reverse.1 h)

theorem searchFrom_matched (hp : p.Framed) {before : Option Char} {threads : List Thread}
    {found : Option Slots} {cs : List Char} (hfirst : first ≤ index)
    (ht : Waiting p first index threads) (hfound : ∀ s ∈ found, Matched first index s) :
    ∀ s ∈ searchFrom p index before threads found cs, Matched first (index + cs.length) s := by
  fun_induction searchFrom p index before threads found cs with
  | case1 index before threads found place threads' =>
    exact (advance_matched hp place hfirst (Nat.le_refl index)
      (started_waiting hp place hfirst ht _ _) waiting_nil hfound).2
  | case2 index before threads found c rest =>
    exact fun s hs => (hfound s hs).later (Nat.le_add_right ..)
  | case3 index before threads found c rest following f found' place threads' _ hadvance ih =>
    have hstep : Waiting p first (index + 1)
          (advance p.code (some c) following threads' (.empty p.code) found).1.threads ∧
        ∀ s ∈ (advance p.code (some c) following threads' (.empty p.code) found).2,
          Matched first index s :=
      advance_matched hp following hfirst (Nat.le_add_right index 1)
        (started_waiting hp place hfirst ht _ _) waiting_nil hfound
    rw [hadvance] at hstep
    have hrest := ih (Nat.le_succ_of_le hfirst) (fun t h => hstep.1 t (List.mem_reverse.1 h))
      fun s hs => (hstep.2 s hs).later (Nat.le_succ index)
    rwa [List.length_cons, Nat.add_comm rest.length, ← Nat.add_assoc]

/-! ## All matches -/

/-- The extent of a match. -/
def Match.extent (m : Match) : Nat × Nat := (m.start, m.stop)

theorem findFrom?_bounds (hp : p.Framed) {c : Cursor} {m : Match} (h : findFrom? p c = some m) :
    c.index ≤ m.start ∧ m.start ≤ m.stop ∧ m.stop ≤ c.index + c.rest.length := by
  obtain ⟨slots, hslots, rfl⟩ := Option.map_eq_some_iff.1 h
  obtain ⟨start, stop, h0, h1, hbounds⟩ := searchFrom_matched hp (Nat.le_refl c.index) waiting_nil
    (by simp) slots hslots
  have hstart : Match.start ⟨slots⟩ = start := by
    rw [Match.start, Array.getD_eq_getD_getElem?, h0]
    rfl
  have hstop : Match.stop ⟨slots⟩ = stop := by
    rw [Match.stop, Array.getD_eq_getD_getElem?, h1]
    rfl
  rwa [hstart, hstop]

/-- Moving a cursor keeps the end of the text where it is. -/
theorem Cursor.move_end (c : Cursor) (n : Nat) :
    (c.move n).index + (c.move n).rest.length = c.index + c.rest.length := by
  fun_induction Cursor.move c n with
  | case1 => rfl
  | case2 => rfl
  | case3 c n d rest h ih =>
    rw [ih, h, List.length_cons]
    exact Nat.add_right_comm c.index 1 rest.length

theorem Cursor.move_index {c : Cursor} {n : Nat} (h : n ≤ c.rest.length) :
    (c.move n).index = c.index + n := by
  fun_induction Cursor.move c n with
  | case1 => rfl
  | case2 c n hrest =>
    rw [hrest] at h
    exact absurd h (Nat.not_succ_le_zero n)
  | case3 c n d rest hrest ih =>
    rw [hrest, List.length_cons] at h
    rw [ih (Nat.le_of_succ_le_succ h)]
    exact Nat.add_right_comm c.index 1 n

theorem findAllFrom_inOrder (hp : p.Framed) (c : Cursor) (lastStop : Option Nat) (fuel : Nat) :
    InOrder c.index (c.index + c.rest.length)
      ((findAllFrom p c lastStop fuel).map Match.extent) := by
  fun_induction findAllFrom p c lastStop fuel with
  | case1 => exact Nat.le_add_right ..
  | case2 => exact Nat.le_add_right ..
  | case3 => exact Nat.le_add_right ..
  | case4 c lastStop fuel m hm hempty hrest ih =>
    rw [Cursor.move_end, Cursor.move_index] at ih
    · exact ih.mono (Nat.le_add_right ..)
    · exact List.length_pos_iff.2 hrest
  | case5 c lastStop fuel m hm hempty ih =>
    obtain ⟨hstart, hle, hstop⟩ := findFrom?_bounds hp hm
    rw [Cursor.move_end, Cursor.move_index (by omega),
      Nat.add_sub_cancel' (Nat.le_trans hstart hle)] at ih
    exact ⟨hstart, hle, ih⟩

/-- The matches of a compiled pattern in a text are in order and do not overlap. -/
theorem Regex.findAll_inOrder {text : String} {r : Regex} (h : Regex.compile text = .ok r)
    (s : List Char) : InOrder 0 s.length ((r.findAll s).map Match.extent) := by
  have hp : r.program.Framed := by
    unfold compile at h
    split at h
    · cases h
    · split at h
      · cases h
      · split at h
        · cases h
          exact Node.program_framed ..
        · cases h
  have hall := findAllFrom_inOrder hp ⟨0, none, s⟩ none (2 * s.length + 2)
  rwa [Nat.zero_add] at hall

end TableScript.Pattern
