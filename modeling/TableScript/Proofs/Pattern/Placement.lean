import TableScript.Pattern.Program

/-!
# Where a match can end

The program of a pattern is a frame around the instructions of the pattern (`Node.program_framed`):
it starts by remembering where the match starts, and it accepts at one address, which is reached
from one other, where the end of the match is remembered.

Placing a part adds instructions behind those there are, and none of them accepts or goes on at
address zero (`Code.place_inserts`), so between the two ends of the frame a part cannot leave it.
-/

namespace TableScript.Pattern

/-- Where an instruction goes on. -/
def Instruction.targets : Instruction → List Nat
  | .take _ next | .save _ next | .assertion _ next | .jump next => [next]
  | .fork first second => [first, second]
  | .accept => []

/-- An instruction that neither accepts nor goes on where a program accepts. -/
def Instruction.IsInner (i : Instruction) : Prop := i ≠ .accept ∧ 0 ∉ i.targets

/-- An instruction that goes on at one address, not where a program accepts. -/
theorem Instruction.isInner_of_target {i : Instruction} {next : Nat} (h : i.targets = [next])
    (hnext : next ≠ 0) : i.IsInner := by
  constructor
  · rintro rfl
    cases h
  · rw [h, List.mem_singleton]
    exact hnext.symm

namespace Code

variable {code code' code'' : Code} {i : Instruction} {next : Nat}
  {place : Nat → Code → Nat × Code}

/-- The second code has the instructions of the first, and behind them none that leaves the
frame. -/
structure Extends (code code' : Code) : Prop where
  size_le : code.size ≤ code'.size
  kept : ∀ a < code.size, code'[a]? = code[a]?
  inner : ∀ a i, code.size ≤ a → code'[a]? = some i → i.IsInner

theorem Extends.refl (code : Code) : Extends code code where
  size_le := Nat.le_refl _
  kept _ _ := rfl
  inner a i ha h := by
    rw [Array.getElem?_eq_none ha] at h
    cases h

theorem Extends.trans (h : Extends code code') (h' : Extends code' code'') :
    Extends code code'' where
  size_le := Nat.le_trans h.size_le h'.size_le
  kept a ha := (h'.kept a (Nat.lt_of_lt_of_le ha h.size_le)).trans (h.kept a ha)
  inner a i ha hi := by
    rcases Nat.lt_or_ge a code'.size with hlt | hge
    · exact h.inner a i ha (h'.kept a hlt ▸ hi)
    · exact h'.inner a i hge hi

theorem Extends.push (h : Extends code code') (hi : i.IsInner) : Extends code (code'.push i) where
  size_le := by
    rw [Array.size_push]
    exact Nat.le_succ_of_le h.size_le
  kept a ha := by
    rw [Array.getElem?_push, if_neg (by have := h.size_le; omega)]
    exact h.kept a ha
  inner a j ha hj := by
    rw [Array.getElem?_push] at hj
    split at hj
    · cases hj
      exact hi
    · exact h.inner a j ha hj

theorem Extends.set (h : Extends code code') (hi : i.IsInner) {b : Nat} (hb : code.size ≤ b) :
    Extends code (code'.setIfInBounds b i) where
  size_le := by
    rw [Array.size_setIfInBounds]
    exact h.size_le
  kept a ha := by
    rw [Array.getElem?_setIfInBounds, if_neg (by omega)]
    exact h.kept a ha
  inner a j ha hj := by
    rw [Array.getElem?_setIfInBounds] at hj
    split at hj
    · split at hj <;> cases hj
      exact hi
    · exact h.inner a j ha hj

/-- A way to place instructions that stays in the frame: asked to go on elsewhere than at address
zero, it adds inner instructions and starts elsewhere too. -/
def Inserts (place : Nat → Code → Nat × Code) : Prop :=
  ∀ next code, next ≠ 0 → code.size ≠ 0 →
    (place next code).1 ≠ 0 ∧ Extends code (place next code).2

theorem Inserts.size_ne (h : Inserts place) (hnext : next ≠ 0) (hcode : code.size ≠ 0) :
    (place next code).2.size ≠ 0 := by
  have := (h next code hnext hcode).2.size_le
  omega

theorem branch_isInner (greedy : Bool) {entry exit : Nat} (hentry : entry ≠ 0)
    (hexit : exit ≠ 0) : (branch greedy entry exit).IsInner := by
  unfold branch
  split <;> exact ⟨by simp, by simp [Instruction.targets]; omega⟩

/-! ## Repetition -/

theorem placeTimes_inserts (h : Inserts place) (n : Nat) : Inserts (placeTimes place n) := by
  induction n with
  | zero => exact fun next code hnext _ => ⟨hnext, .refl code⟩
  | succ n ih =>
    intro next code hnext hcode
    obtain ⟨hentry, hext⟩ := h next code hnext hcode
    obtain ⟨hstart, hrest⟩ := ih _ _ hentry (h.size_ne hnext hcode)
    exact ⟨hstart, hext.trans hrest⟩

theorem placeOptional_inserts (greedy : Bool) (h : Inserts place) {exit : Nat} (hexit : exit ≠ 0)
    (n : Nat) : Inserts (placeOptional greedy place exit n) := by
  induction n with
  | zero => exact fun next code hnext _ => ⟨hnext, .refl code⟩
  | succ n ih =>
    intro next code hnext hcode
    obtain ⟨hentry, hext⟩ := h next code hnext hcode
    have hsize := h.size_ne hnext hcode
    have hfork := hext.push (branch_isInner greedy hentry hexit)
    obtain ⟨hstart, hrest⟩ := ih _ ((place next code).2.push _) hsize (by simp)
    exact ⟨hstart, hfork.trans hrest⟩

theorem placeLoop_inserts (greedy : Bool) (h : Inserts place) :
    Inserts (placeLoop greedy place) := by
  intro next code hnext hcode
  have hjump := (Extends.refl code).push (i := .jump next)
    (Instruction.isInner_of_target rfl hnext)
  obtain ⟨hentry, hext⟩ := h code.size (code.push (.jump next)) hcode (by simp)
  exact ⟨hentry, (hjump.trans hext).set (branch_isInner greedy hentry hnext) (Nat.le_refl _)⟩

theorem placeChar_foldr_inserts (text : List Char) :
    Inserts fun next code => text.foldr placeChar (next, code) := by
  induction text with
  | nil => exact fun next code hnext _ => ⟨hnext, .refl code⟩
  | cons c rest ih =>
    intro next code hnext hcode
    obtain ⟨hentry, hext⟩ := ih next code hnext hcode
    exact ⟨ih.size_ne hnext hcode, hext.push (Instruction.isInner_of_target rfl hentry)⟩

/-! ## Patterns -/

/-- One instruction that goes on where it is told to. -/
theorem push_inserts (instruction : Nat → Instruction)
    (h : ∀ next, next ≠ 0 → (instruction next).IsInner) :
    Inserts fun next code => (code.size, code.push (instruction next)) :=
  fun next code hnext hcode => ⟨hcode, (Extends.refl code).push (h next hnext)⟩

/-- A group remembers where it stops, and in front of its body where it starts. -/
theorem group_inserts (h : Inserts place) (index : Nat) :
    Inserts fun next code =>
      let (entry, code') := place code.size (code.push (.save (2 * index + 1) next))
      (code'.size, code'.push (.save (2 * index) entry)) := by
  intro next code hnext hcode
  have hclose := (Extends.refl code).push (i := .save (2 * index + 1) next)
    (Instruction.isInner_of_target rfl hnext)
  have hpushed : (code.push (.save (2 * index + 1) next)).size ≠ 0 := by simp
  obtain ⟨hentry, hext⟩ := h code.size _ hcode hpushed
  exact ⟨h.size_ne hcode hpushed, (hclose.trans hext).push
    (Instruction.isInner_of_target rfl hentry)⟩

mutual

theorem place_inserts : ∀ n : Node, Inserts (Code.place n)
  | .empty => by
    intro next code hnext hcode
    rw [Code.place]
    exact ⟨hnext, .refl code⟩
  | .literal text => by
    intro next code hnext hcode
    rw [Code.place]
    exact placeChar_foldr_inserts text next code hnext hcode
  | .set s => by
    intro next code hnext hcode
    rw [Code.place]
    exact push_inserts (.take s) (fun _ => Instruction.isInner_of_target rfl) next code hnext hcode
  | .assertion a => by
    intro next code hnext hcode
    rw [Code.place]
    exact push_inserts (.assertion a) (fun _ => Instruction.isInner_of_target rfl) next code hnext
      hcode
  | .concat parts => by
    intro next code hnext hcode
    rw [Code.place]
    exact placeAll_inserts parts next code hnext hcode
  | .alternate bs => by
    intro next code hnext hcode
    rw [Code.place]
    exact placeAny_inserts bs next code hnext hcode
  | .group index body => by
    intro next code hnext hcode
    rw [Code.place]
    exact group_inserts (place_inserts body) index next code hnext hcode
  | .rep least (some most) greedy body => by
    intro next code hnext hcode
    have hbody := place_inserts body
    have hoptional := placeOptional_inserts greedy hbody hnext (most - least)
    obtain ⟨hentry, hext⟩ := hoptional next code hnext hcode
    obtain ⟨hstart, htimes⟩ := placeTimes_inserts hbody least _ _ hentry
      (hoptional.size_ne hnext hcode)
    rw [Code.place]
    exact ⟨hstart, hext.trans htimes⟩
  | .rep 0 none greedy body => by
    intro next code hnext hcode
    have hbody := place_inserts body
    rw [Code.place]
    split
    · have hjump := (Extends.refl code).push (i := .jump next)
        (Instruction.isInner_of_target rfl hnext)
      obtain ⟨hentry, hext⟩ := hbody code.size (code.push (.jump next)) hcode (by simp)
      exact ⟨hcode, (hjump.trans hext).set (branch_isInner greedy hentry hnext) (Nat.le_refl _)⟩
    · have hloop := placeLoop_inserts greedy hbody
      obtain ⟨hentry, hext⟩ := hloop next code hnext hcode
      exact ⟨hloop.size_ne hnext hcode, hext.push (branch_isInner greedy hentry hnext)⟩
  | .rep (least + 1) none greedy body => by
    intro next code hnext hcode
    have hbody := place_inserts body
    have hloop := placeLoop_inserts greedy hbody
    obtain ⟨hentry, hext⟩ := hloop next code hnext hcode
    obtain ⟨hstart, htimes⟩ := placeTimes_inserts hbody least _ _ hentry
      (hloop.size_ne hnext hcode)
    rw [Code.place]
    exact ⟨hstart, hext.trans htimes⟩

theorem placeAll_inserts : ∀ parts : List Node, Inserts (Code.placeAll parts)
  | [] => by
    intro next code hnext hcode
    rw [Code.placeAll]
    exact ⟨hnext, .refl code⟩
  | n :: rest => by
    intro next code hnext hcode
    have hrest := placeAll_inserts rest
    obtain ⟨hentry, hext⟩ := hrest next code hnext hcode
    obtain ⟨hstart, hfirst⟩ := place_inserts n _ _ hentry (hrest.size_ne hnext hcode)
    rw [Code.placeAll]
    exact ⟨hstart, hext.trans hfirst⟩

theorem placeAny_inserts : ∀ branches : List Node, Inserts (Code.placeAny branches)
  | [] => by
    intro next code hnext hcode
    rw [Code.placeAny]
    exact ⟨hnext, .refl code⟩
  | [n] => by
    intro next code hnext hcode
    rw [Code.placeAny]
    exact place_inserts n next code hnext hcode
  | n :: m :: rest => by
    intro next code hnext hcode
    have hn := place_inserts n
    have hrest := placeAny_inserts (m :: rest)
    obtain ⟨hfirst, hext⟩ := hn next code hnext hcode
    have hsize := hn.size_ne hnext hcode
    obtain ⟨hsecond, hext'⟩ := hrest next _ hnext hsize
    rw [Code.placeAny]
    · exact ⟨hrest.size_ne hnext hsize, (hext.trans hext').push
        ⟨by simp, by simp [Instruction.targets]; omega⟩⟩
    · simp

end

end Code

/-! ## The whole program -/

/-- The frame around the instructions of a pattern. -/
structure Program.Framed (p : Program) : Prop where
  /-- It starts by remembering where a match starts, in slot zero. -/
  opens : ∃ entry, p.code[p.start]? = some (.save 0 entry) ∧ entry ≠ 0
  accepts : p.code[0]? = some .accept
  /-- In front of the address that accepts it remembers where a match ends, in slot one. -/
  closes : p.code[1]? = some (.save 1 0)
  /-- Nothing else accepts or goes on at the address that does. -/
  inner : ∀ a i, 1 < a → p.code[a]? = some i → i.IsInner

theorem Node.program_framed (n : Node) (groupCount : Nat) (groupNames : List (String × Nat)) :
    (n.program groupCount groupNames).Framed := by
  have hbody := Code.place_inserts n
  obtain ⟨hentry, hext⟩ := hbody 1 #[.accept, .save 1 0] (by simp) (by simp)
  have hopen := hext.push (i := .save 0 (Code.place n 1 #[.accept, .save 1 0]).1)
    (Instruction.isInner_of_target rfl hentry)
  have hprogram : n.program groupCount groupNames =
      ⟨(Code.place n 1 #[.accept, .save 1 0]).2.push
        (.save 0 (Code.place n 1 #[.accept, .save 1 0]).1),
        (Code.place n 1 #[.accept, .save 1 0]).2.size, groupCount, groupNames⟩ := by
    unfold Node.program
    rw [Code.place]
    rfl
  rw [hprogram]
  exact ⟨⟨_, Array.getElem?_push_size, hentry⟩, hopen.kept 0 (by simp), hopen.kept 1 (by simp),
    fun a i ha => hopen.inner a i ha⟩

theorem Program.Framed.cases {p : Program} (hp : p.Framed) {a : Nat} {i : Instruction}
    (hi : p.code[a]? = some i) :
    a = 0 ∧ i = .accept ∨ a = 1 ∧ i = .save 1 0 ∨ 1 < a ∧ i.IsInner := by
  match a, hi with
  | 0, hi => exact .inl ⟨rfl, Option.some.inj (hi.symm.trans hp.accepts)⟩
  | 1, hi => exact .inr (.inl ⟨rfl, Option.some.inj (hi.symm.trans hp.closes)⟩)
  | a + 2, hi => exact .inr (.inr ⟨by omega, hp.inner _ i (by omega) hi⟩)

end TableScript.Pattern
