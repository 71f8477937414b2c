import Mathlib.Data.List.TakeDrop
import TableScript.Json.Number
import TableScript.Json.Printer
import TableScript.Proofs.Number.Shortest

/-!
# Number literals as they are written

A literal has a text, and where the text stands before something that no number goes on with, the
scanner takes exactly that literal off. The texts of integers and of finite doubles are such texts.
-/

namespace TableScript.Json

/-- What can follow a value inside a document, or nothing. -/
def Closes (rest : List Char) : Prop := ∀ c ∈ rest.head?, c = ',' ∨ c = ']' ∨ c = '}'

theorem closes_nil : Closes [] := nofun

theorem closes_cons {c : Char} {rest : List Char} (h : c = ',' ∨ c = ']' ∨ c = '}') :
    Closes (c :: rest) := by
  rintro _ ⟨⟩
  exact h

namespace Number

/-- A run of digits. -/
structure IsDigits (cs : List Char) : Prop where
  ne_nil : cs ≠ []
  digit : ∀ c ∈ cs, c.isDigit

/-- A text that does not go on with a digit. -/
def EndsDigits (rest : List Char) : Prop := ∀ c ∈ rest.head?, c.isDigit = false

theorem spanDigits_append {cs rest : List Char} (h : ∀ c ∈ cs, c.isDigit)
    (hrest : EndsDigits rest) : NumberText.spanDigits (cs ++ rest) = (cs, rest) := by
  have hstop : rest.takeWhile Char.isDigit = [] ∧ rest.dropWhile Char.isDigit = rest := by
    cases rest with
    | nil => exact ⟨rfl, rfl⟩
    | cons c tail => simp [hrest c rfl]
  rw [NumberText.spanDigits, List.span_eq_takeWhile_dropWhile, List.takeWhile_append_of_pos h,
    List.dropWhile_append_of_pos h, hstop.1, hstop.2, List.append_nil]

namespace IsDigits

variable {cs : List Char}

theorem take (h : IsDigits cs) {n : Nat} (hn : 0 < n) : IsDigits (cs.take n) :=
  ⟨by simp [h.ne_nil, Nat.ne_of_gt hn], fun c hc => h.digit c (List.mem_of_mem_take hc)⟩

theorem drop (h : IsDigits cs) {n : Nat} (hn : n < cs.length) : IsDigits (cs.drop n) :=
  ⟨by simpa using hn, fun c hc => h.digit c (List.mem_of_mem_drop hc)⟩

theorem append_zeros (h : IsDigits cs) (n : Nat) : IsDigits (cs ++ List.replicate n '0') := by
  refine ⟨by simp [h.ne_nil], fun c hc => ?_⟩
  obtain hc | hc := List.mem_append.1 hc
  · exact h.digit c hc
  · exact (List.mem_replicate.1 hc).2 ▸ rfl

theorem zeros_append (h : IsDigits cs) (n : Nat) : IsDigits (List.replicate n '0' ++ cs) := by
  refine ⟨by simp [h.ne_nil], fun c hc => ?_⟩
  obtain hc | hc := List.mem_append.1 hc
  · exact (List.mem_replicate.1 hc).2 ▸ rfl
  · exact h.digit c hc

end IsDigits

theorem isDigits_zero : IsDigits ['0'] := ⟨by simp, by simp⟩

namespace Literal

/-- The sign of a negative number. -/
def signText (negative : Bool) : List Char := if negative then ['-'] else []

/-- The exponent of a literal, with its mark. -/
def exponentText : Option (Bool × List Char) → List Char
  | none => []
  | some (negative, digits) => 'e' :: (signText negative ++ digits)

/-- The places of a literal, with the point. -/
def placesText : Option (List Char) → List Char
  | none => []
  | some digits => '.' :: digits

/-- A literal as it is written. -/
def text (l : Literal) : List Char :=
  signText l.negative ++ (l.whole ++ (placesText l.places ++ exponentText l.exponent))

/-- A literal that can be written: no part is without digits, and a leading zero stands alone. -/
structure Valid (l : Literal) : Prop where
  whole : IsDigits l.whole
  leading : ∀ {rest}, l.whole = '0' :: rest → rest = []
  places : ∀ ds ∈ l.places, IsDigits ds
  exponent : ∀ e ∈ l.exponent, IsDigits e.2

end Literal

open Literal

variable {l : Literal} {rest : List Char}

theorem endsDigits_of_closes (h : Closes rest) : EndsDigits rest := by
  intro c hc
  rcases h c hc with rfl | rfl | rfl <;> rfl

theorem takeSign_text {digits : List Char} (h : IsDigits digits) (negative : Bool)
    (rest : List Char) :
    NumberText.takeSign (signText negative ++ (digits ++ rest)) = (negative, digits ++ rest) := by
  cases negative with
  | true => rfl
  | false =>
    obtain _ | ⟨c, cs⟩ := digits
    · exact absurd rfl h.ne_nil
    have hc := h.digit c (List.mem_cons_self ..)
    change NumberText.takeSign (c :: (cs ++ rest)) = _
    unfold NumberText.takeSign
    split
    · simp_all
    · simp_all
    · rfl

theorem takeMinus_text {digits : List Char} (h : IsDigits digits) (negative : Bool)
    (rest : List Char) :
    takeMinus (signText negative ++ (digits ++ rest)) = (negative, digits ++ rest) := by
  cases negative with
  | true => rfl
  | false =>
    obtain _ | ⟨c, cs⟩ := digits
    · exact absurd rfl h.ne_nil
    have hc := h.digit c (List.mem_cons_self ..)
    change takeMinus (c :: (cs ++ rest)) = _
    unfold takeMinus
    split
    · simp_all
    · rfl

theorem takeExponent?_text {e : Option (Bool × List Char)} (he : ∀ p ∈ e, IsDigits p.2)
    (hrest : Closes rest) : takeExponent? (exponentText e ++ rest) = some (e, rest) := by
  cases e with
  | none =>
    cases rest with
    | nil => rfl
    | cons c tail => rcases hrest c rfl with rfl | rfl | rfl <;> rfl
  | some p =>
    obtain ⟨negative, digits⟩ := p
    have hdigits := he _ rfl
    have hspan := spanDigits_append hdigits.digit (endsDigits_of_closes hrest)
    simp [exponentText, takeExponent?, takeSign_text hdigits, hspan, hdigits.ne_nil]

/-- After the digits of a number comes its exponent, or what closes it. -/
theorem head?_exponentText (e : Option (Bool × List Char)) (hrest : Closes rest) :
    ∀ c ∈ (exponentText e ++ rest).head?, c.isDigit = false ∧ c ≠ '.' := by
  cases e with
  | some p =>
    rintro _ ⟨⟩
    decide
  | none =>
    intro c hc
    rcases hrest c hc with rfl | rfl | rfl <;> decide

theorem takePlaces?_text {places : Option (List Char)} {after : List Char}
    (hplaces : ∀ ds ∈ places, IsDigits ds)
    (hafter : ∀ c ∈ after.head?, c.isDigit = false ∧ c ≠ '.') :
    takePlaces? (placesText places ++ after) = some (places, after) := by
  cases places with
  | none =>
    change takePlaces? after = _
    unfold takePlaces?
    split
    · exact absurd rfl (hafter _ rfl).2
    · rfl
  | some digits =>
    have hdigits := hplaces _ rfl
    have hspan := spanDigits_append hdigits.digit fun c hc => (hafter c hc).1
    simp [placesText, takePlaces?, hspan, hdigits.ne_nil]

theorem endsDigits_placesText (places : Option (List Char)) {after : List Char}
    (hafter : ∀ c ∈ after.head?, c.isDigit = false ∧ c ≠ '.') :
    EndsDigits (placesText places ++ after) := by
  cases places with
  | none => exact fun c hc => (hafter c hc).1
  | some digits =>
    rintro _ ⟨⟩
    rfl

/-- The scanner takes a literal off the head of a text that goes on with something else. -/
theorem take?_text (hl : l.Valid) (hrest : Closes rest) :
    take? (l.text ++ rest) = some (l, rest) := by
  have hafter := head?_exponentText l.exponent hrest
  have hminus := takeMinus_text hl.whole l.negative
    (placesText l.places ++ (exponentText l.exponent ++ rest))
  have hwhole := spanDigits_append hl.whole.digit (endsDigits_placesText l.places hafter)
  have hplaces := takePlaces?_text hl.places hafter
  have hexponent := takeExponent?_text hl.exponent hrest
  simp only [take?, text, List.append_assoc, hminus, hwhole]
  split
  · exact absurd ‹_› hl.whole.ne_nil
  · exact absurd (hl.leading ‹_›) (List.cons_ne_nil _ _)
  · simp [hplaces, hexponent]

/-! ## Digits of naturals -/

theorem isDigits_toDigits (n : Nat) : IsDigits (Nat.toDigits 10 n) :=
  ⟨Nat.toDigits_ne_nil, fun _ hc => Nat.isDigit_of_mem_toDigits (by decide) (by decide) hc⟩

theorem head?_toDigits_ne_zero {n : Nat} (h : n ≠ 0) : (Nat.toDigits 10 n).head? ≠ some '0' := by
  induction n using Nat.strongRecOn with
  | _ n ih =>
    rw [Nat.toDigits_eq_if (by decide)]
    split
    · simpa using h
    · have htens := ih (n / 10) (by omega) (by omega)
      rwa [List.head?_append, Option.or_of_isSome (by simp)]

theorem toList_toString_int (n : Int) :
    (toString n).toList = signText (n < 0) ++ Nat.toDigits 10 n.natAbs := by
  rw [Int.toString_eq_repr, Int.repr_eq_if]
  by_cases hn : 0 ≤ n
  · have hnat : n.toNat = n.natAbs := by omega
    rw [if_pos hn, Nat.toList_repr, hnat, signText, if_neg (by simpa using hn), List.nil_append]
  · have hnat : (-n).toNat = n.natAbs := by omega
    rw [if_neg hn, String.toList_append, Nat.toList_repr, hnat, signText,
      if_pos (by simpa using hn)]
    rfl

theorem leading_of_head? {cs rest : List Char} (h : cs.head? ≠ some '0') (hcs : cs = '0' :: rest) :
    rest = [] := by
  simp [hcs] at h

/-! ## Integers -/

/-- The literal of an integer. -/
def intLiteral (n : Int) : Literal where
  negative := n < 0
  whole := Nat.toDigits 10 n.natAbs
  places := none
  exponent := none

theorem text_intLiteral (n : Int) : (intLiteral n).text = (toString n).toList := by
  rw [toList_toString_int]
  simp [intLiteral, text, placesText, exponentText]

theorem valid_intLiteral (n : Int) : (intLiteral n).Valid where
  whole := isDigits_toDigits _
  leading h := by
    by_cases hn : n.natAbs = 0
    · simpa [intLiteral, hn] using h.symm
    · exact leading_of_head? (head?_toDigits_ne_zero hn) h
  places := nofun
  exponent := nofun

/-- Further digits never make a number smaller. -/
theorem le_ofDigitChars (cs : List Char) (w : Nat) : w ≤ Nat.ofDigitChars 10 cs w := by
  rw [Nat.ofDigitChars_eq_ofDigitChars_zero]
  have := Nat.le_mul_of_pos_left w (Nat.pow_pos (n := cs.length) (by decide : 0 < 10))
  omega

theorem mul_ten_add_digitValue (w : Nat) (c : Char) :
    w * 10 + NumberText.digitValue c = 10 * w + (c.toNat - '0'.toNat) := by
  rw [NumberText.digitValue, Nat.mul_comm]

/-- Digits whose number fits the word are all gathered. -/
theorem gatherWhole_eq {cs : List Char} {w : Nat} (h : Nat.ofDigitChars 10 cs w ≤ maxWord) :
    gatherWhole { word := w } cs = { word := Nat.ofDigitChars 10 cs w } := by
  induction cs generalizing w with
  | nil => rfl
  | cons c cs ih =>
    rw [Nat.ofDigitChars_cons] at h ⊢
    have hfits : ¬maxWord < 10 * w + (c.toNat - '0'.toNat) :=
      Nat.not_lt_of_le (Nat.le_trans (le_ofDigitChars cs _) h)
    rw [gatherWhole]
    simp only [mul_ten_add_digitValue]
    rw [if_neg hfits]
    exact ih h

/-- An integer that a document can hold is read back. -/
theorem toJson?_intLiteral {n : Int} (hlow : -2 ^ 63 ≤ n) (hhigh : n < 2 ^ 64) :
    (intLiteral n).toJson? = some (.int n) := by
  have hgathered : gatherWhole {} (Nat.toDigits 10 n.natAbs) = { word := n.natAbs } := by
    have hword : Nat.ofDigitChars 10 (Nat.toDigits 10 n.natAbs) 0 = n.natAbs :=
      Nat.ofDigitChars_ten_toDigits
    rw [gatherWhole_eq (by simp only [hword, maxWord, Nat.pow_eq]; omega), hword]
  unfold Literal.toJson? intLiteral
  simp only [hgathered, Int.lt_irrefl, if_false]
  by_cases hn : n < 0
  · have hneg : -(n.natAbs : Int) = n := by omega
    have hword : ¬(n.natAbs = 0 ∨ Nat.pow 2 63 < n.natAbs) := by
      rw [Nat.pow_eq]
      omega
    rw [decide_eq_true hn, if_neg (by decide), if_neg hword, hneg]
  · have hpos : (n.natAbs : Int) = n := by omega
    rw [decide_eq_false hn, if_pos (by decide), hpos]

/-! ## Decimals -/

/-- The literal of a decimal without an exponent. -/
def positionalLiteral (negative : Bool) (d : Decimal) : Literal :=
  let digits := Nat.toDigits 10 d.digits
  let places := (-d.exponent).toNat
  if 0 ≤ d.exponent then
    ⟨negative, digits ++ List.replicate d.exponent.toNat '0', some ['0'], none⟩
  else if places < digits.length then
    ⟨negative, digits.take (digits.length - places),
      some (digits.drop (digits.length - places)), none⟩
  else ⟨negative, ['0'], some (List.replicate (places - digits.length) '0' ++ digits), none⟩

/-- The literal of a decimal with an exponent. -/
def scientificLiteral (negative : Bool) (d : Decimal) : Literal :=
  let digits := Nat.toDigits 10 d.digits
  let exponent := d.exponent + (digits.length - 1 : Nat)
  ⟨negative, digits.take 1, if digits.length = 1 then none else some (digits.drop 1),
    some (exponent < 0, Nat.toDigits 10 exponent.natAbs)⟩

theorem text_positionalLiteral (negative : Bool) (d : Decimal) :
    (positionalLiteral negative d).text = signText negative ++ (NumberText.withPoint d).toList := by
  unfold positionalLiteral
  simp only [NumberText.withPoint, Decimal.positional]
  split_ifs <;> simp [text, placesText, exponentText]

theorem text_scientificLiteral (negative : Bool) (d : Decimal) :
    (scientificLiteral negative d).text = signText negative ++ d.scientific.toList := by
  obtain ⟨c, cs, hdigits⟩ := List.exists_cons_of_ne_nil (isDigits_toDigits d.digits).ne_nil
  simp only [scientificLiteral, Decimal.scientific, String.toList_append, toList_toString_int,
    hdigits]
  cases cs <;> simp [text, placesText, exponentText]

theorem valid_positionalLiteral {d : Decimal} (negative : Bool)
    (h : d.digits = 0 → d.exponent = 0) : (positionalLiteral negative d).Valid := by
  have hdigits := isDigits_toDigits d.digits
  unfold positionalLiteral
  simp only
  split_ifs with hwhole hplaces
  · refine ⟨hdigits.append_zeros _, fun hzero => ?_, ?_, nofun⟩
    · by_cases hd : d.digits = 0
      · simpa [hd, h hd] using hzero.symm
      · exact leading_of_head? (by simp [head?_toDigits_ne_zero hd]) hzero
    · rintro _ ⟨⟩
      exact isDigits_zero
  · have hd : d.digits ≠ 0 := fun hd => hwhole (h hd ▸ Int.le_refl 0)
    refine ⟨hdigits.take (by omega), leading_of_head? ?_, ?_, nofun⟩
    · rw [List.head?_take, if_neg (by omega)]
      exact head?_toDigits_ne_zero hd
    · rintro _ ⟨⟩
      exact hdigits.drop (by omega)
  · refine ⟨isDigits_zero, fun hzero => (List.cons.inj hzero).2.symm, ?_, nofun⟩
    rintro _ ⟨⟩
    exact hdigits.zeros_append _

theorem valid_scientificLiteral {d : Decimal} (negative : Bool) (hd : d.digits ≠ 0) :
    (scientificLiteral negative d).Valid := by
  have hdigits := isDigits_toDigits d.digits
  have hlength : 0 < (Nat.toDigits 10 d.digits).length := Nat.length_toDigits_pos
  refine ⟨hdigits.take Nat.one_pos, leading_of_head? ?_, fun ds hds => ?_, ?_⟩
  · rw [scientificLiteral, List.head?_take, if_neg Nat.one_ne_zero]
    exact head?_toDigits_ne_zero hd
  · simp only [scientificLiteral, Option.mem_def, Option.ite_none_left_eq_some] at hds
    obtain ⟨hone, heq⟩ := hds
    obtain rfl := Option.some.inj heq
    exact hdigits.drop (by omega)
  · rintro _ ⟨⟩
    exact isDigits_toDigits _

/-! ## Doubles -/

/-- The literal of a finite double. -/
def doubleLiteral (x : Double) : Literal :=
  let d := Decimal.shortest x
  if d.digits = 0 ∨ -5 < NumberText.pointPosition d ∧ NumberText.pointPosition d ≤ 16 then
    positionalLiteral x.isNegative d
  else scientificLiteral x.isNegative d

/-- No shortest decimal has an exponent but no digits. -/
theorem exponent_shortest {x : Double} (h : (Decimal.shortest x).digits = 0) :
    (Decimal.shortest x).exponent = 0 := by
  by_cases hx : x.magnitude = 0
  · rw [Decimal.shortest, if_pos hx]
  · exact absurd h (Nat.ne_of_gt (Decimal.digits_shortest_pos hx))

theorem valid_doubleLiteral (x : Double) : (doubleLiteral x).Valid := by
  unfold doubleLiteral
  simp only
  split_ifs with hpositional
  · exact valid_positionalLiteral _ exponent_shortest
  · exact valid_scientificLiteral _ fun hd => hpositional (.inl hd)

theorem text_doubleLiteral {x : Double} (hx : x.isFinite) :
    (doubleLiteral x).text = (floatText x).toList := by
  have hnan : x.isNaN = false := by simp_all [Double.isFinite, Double.isNaN]
  have hinfinite : x.isInfinite = false := by simp_all [Double.isFinite, Double.isInfinite]
  have hsign : signText x.isNegative = (if x.isNegative then "-" else "").toList := by
    cases x.isNegative <;> rfl
  rw [floatText, if_pos hx, NumberText.documentText, NumberText.signed]
  simp only [hnan, hinfinite, Bool.false_eq_true, if_false, String.toList_append, doubleLiteral]
  rw [← hsign]
  by_cases hpositional : (Decimal.shortest x).digits = 0 ∨
      -5 < NumberText.pointPosition (Decimal.shortest x) ∧
        NumberText.pointPosition (Decimal.shortest x) ≤ 16
  · rw [if_pos hpositional, if_pos hpositional, text_positionalLiteral]
  · rw [if_neg hpositional, if_neg hpositional, text_scientificLiteral]

end Number

end TableScript.Json
