import TableScript.Proofs.Json.Doubles
import TableScript.Proofs.Tree.RoundTrip

/-!
# Scripts survive as text

`script_survives_text`: a script written as a document and read again from the text of it is the
same script exactly when each of its doubles is read back from its own text; every double whose
shortest decimal is scaled in one rounding is. There are doubles that are not: the text of the
greatest double below one reads as one.
-/

namespace TableScript.Tree

open Json (Draft)

theorem readText_eq_some_iff {s : Script} (hfits : Json.Fits (writeScript s))
    (hdepth : (writeScript s).depth ≤ Json.depthLimit) :
    (Draft.parse? (Json.compact (writeScript s))).bind readScript? = some s ↔
      Json.Kept (writeScript s) := by
  rw [Json.Draft.parse?_compact hfits hdepth, Option.bind_some]
  exact givesBack_script s

/-- A script is read back from its text exactly when its doubles are, which all doubles are that
only the last step of reading rounds. No text is read beyond the depth limit; the words of a script
always fit, so `Fits` asks only of the offsets of its spans that they are 64-bit words too. -/
theorem script_survives_text (s : Script) (hfits : Json.Fits (writeScript s))
    (hdepth : (writeScript s).depth ≤ Json.depthLimit) :
    ((Draft.parse? (Json.compact (writeScript s))).bind readScript? = some s ↔
        ∀ x, .float x ∈ (writeScript s).leaves → (Json.reread x).double? = some x) ∧
      ((∀ x, .float x ∈ (writeScript s).leaves →
          x.isFinite ∧ Json.Number.OneRounding (Decimal.shortest x)) →
        (Draft.parse? (Json.compact (writeScript s))).bind readScript? = some s) := by
  have hexact := readText_eq_some_iff hfits hdepth
  refine ⟨hexact, fun hdoubles => hexact.2 fun x hx => ?_⟩
  obtain ⟨hfinite, hrounding⟩ := hdoubles x hx
  exact Json.reread_of_oneRounding hfinite hrounding

/-- A script that assigns `2.5`, with the text it was read from and the span of the value. -/
def assigned : Script where
  source := some "half = 2.5"
  stmts := [.mk (.assign [.mk "half" []]
    [.mk (.literal (.float ⟨0x4004000000000000⟩)) (some ⟨7, 10⟩)]) none]

theorem assigned_survives_text :
    Json.Fits (writeScript assigned) ∧ (writeScript assigned).depth ≤ Json.depthLimit ∧
      (Draft.parse? (Json.compact (writeScript assigned))).bind readScript? = some assigned := by
  have hleaves : (writeScript assigned).leaves =
      [.str "half = 2.5", .str "half", .float ⟨0x4004000000000000⟩, .int 7, .int 10] := rfl
  have hfits : Json.Fits (writeScript assigned) := by
    intro n hn
    simp only [hleaves, List.mem_cons, reduceCtorEq, Json.int.injEq, List.not_mem_nil, false_or,
      or_false] at hn
    omega
  have hdepth : (writeScript assigned).depth ≤ Json.depthLimit := by decide
  refine ⟨hfits, hdepth, (script_survives_text assigned hfits hdepth).2 fun x hx => ?_⟩
  simp only [hleaves, List.mem_cons, reduceCtorEq, Json.float.injEq, List.not_mem_nil, false_or,
    or_false] at hx
  subst hx
  have hshortest : Decimal.shortest ⟨0x4004000000000000⟩ = ⟨25, -1⟩ := by decide +kernel
  rw [hshortest]
  exact ⟨by decide, by decide, by decide⟩

/-- A script that is the greatest double below one. -/
def belowOne : Script where
  source := none
  stmts := [.mk (.expr (.mk (.literal (.float ⟨0x3fefffffffffffff⟩)) none)) none]

/-- All its doubles are finite and it is not nested too deep, but its text reads as a script that is
one. -/
theorem belowOne_rounded_up :
    Json.Fits (writeScript belowOne) ∧ (writeScript belowOne).depth ≤ Json.depthLimit ∧
      (∀ x, .float x ∈ (writeScript belowOne).leaves → x.isFinite) ∧
      (Draft.parse? (Json.compact (writeScript belowOne))).bind readScript? ≠ some belowOne := by
  have hleaves : (writeScript belowOne).leaves = [.float ⟨0x3fefffffffffffff⟩] := rfl
  have hfits : Json.Fits (writeScript belowOne) := by
    intro n hn
    simp [hleaves] at hn
  have hdepth : (writeScript belowOne).depth ≤ Json.depthLimit := by decide
  have hfinite : (⟨0x3fefffffffffffff⟩ : Double).isFinite := by decide
  have hreread : (Json.reread ⟨0x3fefffffffffffff⟩).double? = some ⟨0x3ff0000000000000⟩ := by
    rw [Json.reread_eq hfinite]
    decide +kernel
  refine ⟨hfits, hdepth, fun x hx => ?_, fun hread => ?_⟩
  · simp only [hleaves, List.mem_singleton, Json.float.injEq] at hx
    subst hx
    exact hfinite
  · have hmem : .float ⟨0x3fefffffffffffff⟩ ∈ (writeScript belowOne).leaves := by simp [hleaves]
    have hkept := (readText_eq_some_iff hfits hdepth).1 hread _ hmem
    exact absurd (hreread.symm.trans hkept) (by decide)

end TableScript.Tree
