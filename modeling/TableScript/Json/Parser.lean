import TableScript.Json.Draft
import TableScript.Json.Number

/-!
# Reading documents

`Draft.parse?` reads a whole text: one document with blanks around it. What the text may hold
without standing for a document is marked unreadable: a number beyond all doubles, half of a
surrogate pair, brackets nested deeper than `limit` levels. `Json.parse?` refuses such a text.
Members keep their order and their repetitions; `Json.document?` is the reading that collapses them.

The recursion is on a fuel that starts above the length of the text and is never used up, because
each step takes at least one character.
-/

namespace TableScript.Json

/-- The blanks between tokens. -/
def isBlank (c : Char) : Bool := c = ' ' || c = '\n' || c = '\t' || c = '\r'

/-- Drops leading blanks. -/
def skipBlanks (cs : List Char) : List Char := cs.dropWhile isBlank

/-- The value of a hexadecimal digit. -/
def hexValue? (c : Char) : Option Nat :=
  if '0' ≤ c ∧ c ≤ '9' then some (c.toNat - '0'.toNat)
  else if 'a' ≤ c ∧ c ≤ 'f' then some (c.toNat - 'a'.toNat + 10)
  else if 'A' ≤ c ∧ c ≤ 'F' then some (c.toNat - 'A'.toNat + 10)
  else none

/-- The value of exactly four hexadecimal digits, and the rest. -/
def takeHex4? : List Char → Option (Nat × List Char)
  | a :: b :: c :: d :: rest => do
    let a ← hexValue? a
    let b ← hexValue? b
    let c ← hexValue? c
    let d ← hexValue? d
    some (((a * 16 + b) * 16 + c) * 16 + d, rest)
  | _ => none

/-- The character after `\u`: one unit, or two units of a pair. A unit of a pair that stands alone
is unreadable. -/
def takeUnicode? (cs : List Char) : Option (Option Char × List Char) := do
  let (high, rest) ← takeHex4? cs
  if 0xDC00 ≤ high ∧ high ≤ 0xDFFF then some (none, rest)
  else if 0xD800 ≤ high ∧ high ≤ 0xDBFF then
    match rest with
    | '\\' :: 'u' :: after =>
      let (low, afterPair) ← takeHex4? after
      if 0xDC00 ≤ low ∧ low ≤ 0xDFFF then
        some (some (.ofNat (0x10000 + (high - 0xD800) * 0x400 + (low - 0xDC00))), afterPair)
      else some (none, rest)
    | _ => some (none, rest)
  else some (some (.ofNat high), rest)

/-- The character after a backslash, and the rest. -/
def takeEscape? : List Char → Option (Option Char × List Char)
  | '"' :: rest => some ('"', rest)
  | '\\' :: rest => some ('\\', rest)
  | '/' :: rest => some ('/', rest)
  | 'b' :: rest => some ('\x08', rest)
  | 'f' :: rest => some ('\x0c', rest)
  | 'n' :: rest => some ('\n', rest)
  | 'r' :: rest => some ('\r', rest)
  | 't' :: rest => some ('\t', rest)
  | 'u' :: rest => takeUnicode? rest
  | _ => none

/-- The rest of a string up to its closing quote, when it can be read; control characters are
refused. -/
def takeString? (acc : Option (List Char)) (cs : List Char) :
    (fuel : Nat) → Option (Option String × List Char)
  | 0 => none
  | fuel + 1 =>
    match cs with
    | [] => none
    | '"' :: rest => some (acc.map fun cs => String.ofList cs.reverse, rest)
    | '\\' :: rest => do
      let (c, rest) ← takeEscape? rest
      takeString? (do some ((← c) :: (← acc))) rest fuel
    | c :: rest =>
      if c.toNat < 0x20 then none else takeString? (acc.map (c :: ·)) rest fuel

/-- The rest of a text after a fixed word. -/
def dropWord? (word : List Char) (cs : List Char) : Option (List Char) :=
  if word.isPrefixOf cs then some (cs.drop word.length) else none

/-- What opens when `depth` more levels may open. -/
def nested (depth : Nat) (d : Draft) : Draft := if depth = 0 then .unreadable else d

mutual

/-- A document at the head of the text, after blanks; `depth` more levels may open. -/
def takeValue? (depth : Nat) (cs : List Char) : (fuel : Nat) → Option (Draft × List Char)
  | 0 => none
  | fuel + 1 =>
    match skipBlanks cs with
    | [] => none
    | 'n' :: rest => (dropWord? ['u', 'l', 'l'] rest).map (.null, ·)
    | 't' :: rest => (dropWord? ['r', 'u', 'e'] rest).map (.bool true, ·)
    | 'f' :: rest => (dropWord? ['a', 'l', 's', 'e'] rest).map (.bool false, ·)
    | '"' :: rest => do
      let (s, rest) ← takeString? (some []) rest (rest.length + 1)
      some ((s.map Draft.str).getD .unreadable, rest)
    | '[' :: rest =>
      match skipBlanks rest with
      | ']' :: rest => some (nested depth (.arr []), rest)
      | rest => do
        let (items, rest) ← takeItems? (depth - 1) rest fuel
        some (nested depth (.arr items), rest)
    | '{' :: rest =>
      match skipBlanks rest with
      | '}' :: rest => some (nested depth (.obj []), rest)
      | rest => do
        let (members, rest) ← takeMembers? (depth - 1) rest fuel
        some (nested depth (.obj members), rest)
    | cs => do
      let (literal, rest) ← Number.take? cs
      some ((literal.toJson?.map Draft.ofJson).getD .unreadable, rest)

/-- The items of an array that is not empty, up to its closing bracket. -/
def takeItems? (depth : Nat) (cs : List Char) : (fuel : Nat) → Option (List Draft × List Char)
  | 0 => none
  | fuel + 1 => do
    let (item, rest) ← takeValue? depth cs fuel
    match skipBlanks rest with
    | ']' :: rest => some ([item], rest)
    | ',' :: rest =>
      let (items, rest) ← takeItems? depth rest fuel
      some (item :: items, rest)
    | _ => none

/-- The members of an object that is not empty, up to its closing brace. -/
def takeMembers? (depth : Nat) (cs : List Char) :
    (fuel : Nat) → Option (List (Option String × Draft) × List Char)
  | 0 => none
  | fuel + 1 => do
    match skipBlanks cs with
    | '"' :: rest =>
      let (key, rest) ← takeString? (some []) rest (rest.length + 1)
      match skipBlanks rest with
      | ':' :: rest =>
        let (value, rest) ← takeValue? depth rest fuel
        match skipBlanks rest with
        | '}' :: rest => some ([(key, value)], rest)
        | ',' :: rest =>
          let (members, rest) ← takeMembers? depth rest fuel
          some ((key, value) :: members, rest)
        | _ => none
      | _ => none
    | _ => none

end

/-- How deep arrays and objects may nest. -/
def depthLimit : Nat := 127

/-- The draft that the whole text writes. -/
def Draft.parse? (text : String) (limit : Nat := depthLimit) : Option Draft := do
  let cs := text.toList
  let (d, rest) ← takeValue? limit cs (cs.length + 1)
  if (skipBlanks rest).isEmpty then some d else none

/-- The document written by the whole text, with members as they stand. -/
def parse? (text : String) (limit : Nat := depthLimit) : Option Json :=
  (Draft.parse? text limit).bind Draft.toJson?

/-- The document written by the whole text, with one member per key. -/
def document? (text : String) : Option Json := (parse? text).map collapse

end TableScript.Json
