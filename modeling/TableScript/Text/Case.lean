import TableScript.Text.CaseTable

/-!
# Upper and lower case

Case mappings of whole texts by the full Unicode rules. A character may become several, and a
capital sigma becomes the final small sigma at the end of a word: when a cased letter stands before
it and none after it, looking past characters that are ignored for case.
-/

namespace TableScript

/-- A character in upper case. -/
def upperChar (c : Char) : List Char :=
  match upperExpansions.lookup c.toNat with
  | some ns => ns.map .ofNat
  | none => [((CaseRun.find? upperRuns c.toNat).map .ofNat).getD c]

/-- A character in lower case, out of context. -/
def lowerChar (c : Char) : List Char :=
  match lowerExpansions.lookup c.toNat with
  | some ns => ns.map .ofNat
  | none => [((CaseRun.find? lowerRuns c.toNat).map .ofNat).getD c]

/-- Whether the first character that is not ignored for case is cased. -/
def startsCased (cs : List Char) : Bool :=
  match cs.dropWhile CharSet.caseIgnorable.contains with
  | c :: _ => CharSet.cased.contains c
  | [] => false

/-- Lower case of the rest of a text; `before` is what precedes it, last character first. -/
def lowerChars (before : List Char) : List Char → List Char
  | [] => []
  | c :: rest =>
    (if c = 'Σ' then if startsCased before && !startsCased rest then ['ς'] else ['σ']
      else lowerChar c) ++ lowerChars (c :: before) rest

/-- A text in upper case. -/
def upper (s : String) : String := String.ofList (s.toList.flatMap upperChar)

/-- A text in lower case. -/
def lower (s : String) : String := String.ofList (lowerChars [] s.toList)

end TableScript
