import TableScript.Number.Text
import TableScript.Pattern.Syntax
import TableScript.Text.Blank
import TableScript.Unicode.Name

/-!
# Reading patterns

The grammar of patterns: characters and escapes, classes with set operations, groups with names and
flags, alternation, repetition and conditions on positions. There are no references back to groups
and no conditions that look further than one character.

A verbose pattern may have blanks and comments almost everywhere: whatever has been read, they are
skipped behind it, also inside classes, counts and names in braces.

Every function takes the rest of the text and gives back what it did not use; fuel is above the
length of the text.
-/

namespace TableScript.Pattern

/-! ## Blanks and comments -/

/-- Skips blanks, and comments to the end of their line. -/
def skipVerbose : List Char → (inComment : Bool) → List Char
  | [], _ => []
  | c :: rest, true => skipVerbose rest (c ≠ '\n')
  | c :: rest, false =>
    if isBlank c then skipVerbose rest false
    else if c = '#' then skipVerbose rest true
    else c :: rest

/-- Skips what a verbose pattern does not mean. -/
def skip (verbose : Bool) (cs : List Char) : List Char :=
  if verbose then skipVerbose cs false else cs

/-- The next character that counts, looking past blanks and the mark of a comment. -/
def firstSolid? : List Char → (inComment : Bool) → Option Char
  | [], _ => none
  | c :: rest, inComment =>
    if isBlank c then firstSolid? rest inComment
    else if !inComment && c = '#' then firstSolid? rest true
    else some c

/-- What stands behind the current character. A verbose pattern is looked at past its blanks, unless
there is nothing else. -/
def peek? (verbose : Bool) (after : List Char) : Option Char :=
  if verbose then (firstSolid? after false).or after.head? else after.head?

/-! ## Escapes -/

/-- Characters that have a meaning of their own and can stand behind a backslash. -/
def isMeta (c : Char) : Bool :=
  ['\\', '.', '+', '*', '?', '(', ')', '|', '[', ']', '\x7b', '\x7d', '^', '$', '#', '&', '-',
    '~'].contains c

/-- Characters that may stand behind a backslash for themselves. -/
def isEscapable (c : Char) : Bool :=
  isMeta c || (c.toNat < 128 && !c.isAlphanum && c ≠ '<' && c ≠ '>')

/-- The value of a hexadecimal digit. -/
def hexValue? (c : Char) : Option Nat :=
  if '0' ≤ c ∧ c ≤ '9' then some (c.toNat - '0'.toNat)
  else if 'a' ≤ c ∧ c ≤ 'f' then some (c.toNat - 'a'.toNat + 10)
  else if 'A' ≤ c ∧ c ≤ 'F' then some (c.toNat - 'A'.toNat + 10)
  else none

/-- The character with a code point, unless it is a surrogate or too large. -/
def charOfNat? (n : Nat) : Option Char :=
  if n < 0xD800 || (0xE000 ≤ n && n ≤ 0x10FFFF) then some (.ofNat n) else none

/-- Reads this many hexadecimal digits. -/
def takeDigits? (verbose : Bool) (value : Nat) :
    (count : Nat) → List Char → Option (Nat × List Char)
  | 0, cs => some (value, cs)
  | count + 1, c :: rest => do
    takeDigits? verbose (16 * value + (← hexValue? c)) count (skip verbose rest)
  | _ + 1, [] => none

/-- Reads hexadecimal digits up to a closing brace. -/
def takeBracedDigits? (verbose : Bool) (value : Option Nat) :
    (fuel : Nat) → List Char → Option (Nat × List Char)
  | 0, _ => none
  | fuel + 1, c :: rest =>
    if c = '\x7d' then value.map (·, skip verbose rest)
    else do takeBracedDigits? verbose (16 * value.getD 0 + (← hexValue? c)) fuel (skip verbose rest)
  | _ + 1, [] => none

/-- A code point after `\x`, `\u` or `\U`: in braces, or of this many digits. -/
def takeHex? (verbose : Bool) (width : Nat) (cs : List Char) : Option (Literal × List Char) :=
  match skip verbose cs with
  | '\x7b' :: rest => do
    let (n, rest) ← takeBracedDigits? verbose none (rest.length + 1) (skip verbose rest)
    some ({ char := ← charOfNat? n }, rest)
  | cs => do
    let (n, rest) ← takeDigits? verbose 0 width cs
    some ({ char := ← charOfNat? n, isByte := width = 2 }, rest)

/-- Splits a text at the first place where a word stands. -/
def splitAt? (word : List Char) : List Char → Option (List Char × List Char)
  | [] => none
  | c :: rest =>
    if word.isPrefixOf (c :: rest) then some ([], (c :: rest).drop word.length)
    else (splitAt? word rest).map fun (before, after) => (c :: before, after)

/-- The property a name between braces stands for. -/
def Property.ofName (name : List Char) : Property :=
  match splitAt? ['!', '='] name with
  | some (name, value) => .valued name value true
  | none =>
    match (splitAt? [':'] name).or (splitAt? ['='] name) with
    | some (name, value) => .valued name value false
    | none => .named name

/-- Reads a name up to a closing brace. -/
def takeBracedName? (verbose : Bool) (name : List Char) :
    (fuel : Nat) → List Char → Option (List Char × List Char)
  | 0, _ => none
  | fuel + 1, c :: rest =>
    if c = '\x7d' then some (name.reverse, rest)
    else takeBracedName? verbose (c :: name) fuel (skip verbose rest)
  | _ + 1, [] => none

/-- The property after `\p`. -/
def takeProperty? (verbose : Bool) (cs : List Char) : Option (Property × List Char) :=
  match skip verbose cs with
  | '\x7b' :: rest => do
    let (name, rest) ← takeBracedName? verbose [] (rest.length + 1) (skip verbose rest)
    some (.ofName name, rest)
  | c :: rest => if c = '\\' then none else some (.named [c], skip verbose rest)
  | [] => none

/-- What stands behind a backslash. -/
inductive Escape where
  | literal (l : Literal)
  | shorthand (kind : Shorthand) (negated : Bool)
  | property (p : Property) (negated : Bool)
  | anchor (a : Anchor)

/-- Whether a character can be part of the name of a boundary. -/
def isBoundaryChar (c : Char) : Bool := c.isAlpha || c = '-'

/-- Reads the name of a boundary. -/
def takeBoundaryName (verbose : Bool) (name : List Char) :
    (fuel : Nat) → List Char → List Char × List Char
  | 0, cs => (name.reverse, cs)
  | fuel + 1, c :: rest =>
    if isBoundaryChar c then takeBoundaryName verbose (c :: name) fuel (skip verbose rest)
    else (name.reverse, c :: rest)
  | _ + 1, [] => (name.reverse, [])

/-- A word boundary, with its special forms in braces; other braces are left for a count. -/
def takeBoundary? (verbose : Bool) (cs : List Char) : Option (Anchor × List Char) :=
  match cs with
  | '\x7b' :: rest =>
    match skip verbose rest with
    | [] => none
    | c :: inner =>
      if !isBoundaryChar c then some (.wordBoundary, cs)
      else
        let (name, after) := takeBoundaryName verbose [] (inner.length + 2) (c :: inner)
        match after, String.ofList name with
        | '\x7d' :: after, "start" => some (.wordStart, after)
        | '\x7d' :: after, "end" => some (.wordEnd, after)
        | '\x7d' :: after, "start-half" => some (.wordStartHalf, after)
        | '\x7d' :: after, "end-half" => some (.wordEndHalf, after)
        | _, _ => none
  | cs => some (.wordBoundary, cs)

/-- An escape, after its backslash. -/
def takeEscape? (verbose : Bool) (cs : List Char) : Option (Escape × List Char) :=
  let literal (c : Char) : Escape := .literal { char := c }
  match cs with
  | [] => none
  | 'x' :: rest => (takeHex? verbose 2 rest).map fun (l, rest) => (.literal l, rest)
  | 'u' :: rest => (takeHex? verbose 4 rest).map fun (l, rest) => (.literal l, rest)
  | 'U' :: rest => (takeHex? verbose 8 rest).map fun (l, rest) => (.literal l, rest)
  | 'p' :: rest => (takeProperty? verbose rest).map fun (p, rest) => (.property p false, rest)
  | 'P' :: rest => (takeProperty? verbose rest).map fun (p, rest) => (.property p true, rest)
  | 'd' :: rest => some (.shorthand .digit false, rest)
  | 'D' :: rest => some (.shorthand .digit true, rest)
  | 's' :: rest => some (.shorthand .space false, rest)
  | 'S' :: rest => some (.shorthand .space true, rest)
  | 'w' :: rest => some (.shorthand .word false, rest)
  | 'W' :: rest => some (.shorthand .word true, rest)
  | 'a' :: rest => some (literal '\x07', rest)
  | 'f' :: rest => some (literal '\x0c', rest)
  | 't' :: rest => some (literal '\t', rest)
  | 'n' :: rest => some (literal '\n', rest)
  | 'r' :: rest => some (literal '\r', rest)
  | 'v' :: rest => some (literal '\x0b', rest)
  | 'A' :: rest => some (.anchor .textStart, rest)
  | 'z' :: rest => some (.anchor .textEnd, rest)
  | 'b' :: rest => (takeBoundary? verbose rest).map fun (a, rest) => (.anchor a, rest)
  | 'B' :: rest => some (.anchor .notWordBoundary, rest)
  | '<' :: rest => some (.anchor .wordStart, rest)
  | '>' :: rest => some (.anchor .wordEnd, rest)
  | c :: rest => if isEscapable c then some (literal c, rest) else none

/-! ## Classes -/

/-- The class between `[:` and `:]`. -/
def posix? (name : String) : Option CharSet :=
  match name with
  | "alnum" => some (.ofText ["30-39 41-5A 61-7A"])
  | "alpha" => some (.ofText ["41-5A 61-7A"])
  | "ascii" => some .ascii
  | "blank" => some (.ofText ["9 20"])
  | "cntrl" => some (.ofText ["0-1F 7F"])
  | "digit" => some (.ofText ["30-39"])
  | "graph" => some (.ofText ["21-7E"])
  | "lower" => some (.ofText ["61-7A"])
  | "print" => some (.ofText ["20-7E"])
  | "punct" => some (.ofText ["21-2F 3A-40 5B-60 7B-7E"])
  | "space" => some (.ofText ["9-D 20"])
  | "upper" => some (.ofText ["41-5A"])
  | "word" => some (.ofText ["30-39 41-5A 5F 61-7A"])
  | "xdigit" => some (.ofText ["30-39 41-46 61-66"])
  | _ => none

/-- A class between `[:` and `:]`, when there is one. -/
def takePosix? (cs : List Char) : Option (ClassItem × List Char) :=
  match cs with
  | '[' :: ':' :: rest =>
    let (negated, rest) := match rest with
      | '^' :: rest => (true, rest)
      | rest => (false, rest)
    let (name, after) := rest.span (· ≠ ':')
    match after with
    | ':' :: ']' :: after =>
      (posix? (String.ofList name)).map fun chars => (.posix chars negated, after)
    | _ => none
  | _ => none

/-- One member of a class: a character, or a class behind a backslash. -/
def takeMember? (verbose : Bool) (cs : List Char) : Option ((Literal ⊕ ClassItem) × List Char) :=
  match cs with
  | [] => none
  | '\\' :: rest => do
    let (e, rest) ← takeEscape? verbose rest
    match e with
    | .literal l => some (.inl l, rest)
    | .shorthand kind negated => some (.inr (.shorthand kind negated), rest)
    | .property p negated => some (.inr (.property p negated), rest)
    | .anchor _ => none
  | c :: rest => some (.inl { char := c }, rest)

/-- Whether a dash here joins the two ends of a range. -/
def joinsRange (verbose : Bool) (cs : List Char) : Bool :=
  match cs with
  | '-' :: rest => peek? verbose rest ≠ some ']' && peek? verbose rest ≠ some '-'
  | _ => false

/-- A member or a range of a class. -/
def takeRange? (verbose : Bool) (cs : List Char) : Option (ClassItem × List Char) := do
  let (first, rest) ← takeMember? verbose cs
  let rest := skip verbose rest
  if joinsRange verbose rest then
    let (last, rest) ← takeMember? verbose (skip verbose (rest.drop 1))
    match first, last with
    | .inl lo, .inl hi => if lo.char ≤ hi.char then some (.range lo hi, rest) else none
    | _, _ => none
  else if rest.isEmpty then none
  else
    match first with
    | .inl l => some (.literal l, rest)
    | .inr item => some (item, rest)

/-- The dashes that stand for themselves at the start of a class. -/
def takeDashes (verbose : Bool) : (fuel : Nat) → List Char → List ClassItem × List Char
  | fuel + 1, '-' :: rest =>
    let (items, rest) := takeDashes verbose fuel (skip verbose rest)
    (.literal { char := '-' } :: items, rest)
  | _, cs => ([], cs)

/-- The dashes or the closing bracket that stand for themselves at the start of a class. -/
def takeLeading (verbose : Bool) (cs : List Char) : List ClassItem × List Char :=
  match takeDashes verbose cs.length cs with
  | ([], ']' :: rest) => ([.literal { char := ']' }], skip verbose rest)
  | found => found

/-- What has been read of a class: a left operand with its operator, and the items of the current
operand, last first. -/
structure ClassState where
  pending : Option (ClassItem × SetOp) := none
  items : List ClassItem := []

/-- The class read so far. -/
def ClassState.total (s : ClassState) : ClassItem :=
  let current := ClassItem.ofList s.items.reverse
  match s.pending with
  | some (left, op) => .combine op left current
  | none => current

/-- Starts the right operand of a set operation. -/
def ClassState.operator (s : ClassState) (op : SetOp) : ClassState :=
  { pending := some (s.total, op), items := [] }

mutual

/-- A class, after its opening bracket; `room` is how much deeper classes may be nested. -/
def takeClass? (verbose : Bool) (room : Nat) (cs : List Char) :
    (fuel : Nat) → Option (ClassItem × List Char)
  | 0 => none
  | fuel + 1 =>
    match room with
    | 0 => none
    | room + 1 => do
      let (negated, cs) := match skip verbose cs with
        | '^' :: rest => (true, skip verbose rest)
        | rest => (false, rest)
      let (items, cs) := takeLeading verbose cs
      let (body, rest) ← takeItems? verbose room { items := items.reverse } cs fuel
      some (.bracketed negated body, rest)

/-- The items of a class, up to its closing bracket. -/
def takeItems? (verbose : Bool) (room : Nat) (s : ClassState) (cs : List Char) :
    (fuel : Nat) → Option (ClassItem × List Char)
  | 0 => none
  | fuel + 1 =>
    let add (item : ClassItem) : ClassState := { s with items := item :: s.items }
    match skip verbose cs with
    | [] => none
    | ']' :: rest => some (s.total, rest)
    | '[' :: rest =>
      match takePosix? ('[' :: rest) with
      | some (item, rest) => takeItems? verbose room (add item) rest fuel
      | none => do
        let (item, rest) ← takeClass? verbose room rest fuel
        takeItems? verbose room (add item) rest fuel
    | '&' :: '&' :: rest => takeItems? verbose room (s.operator .inter) rest fuel
    | '-' :: '-' :: rest => takeItems? verbose room (s.operator .diff) rest fuel
    | '~' :: '~' :: rest => takeItems? verbose room (s.operator .symmDiff) rest fuel
    | cs => do
      let (item, rest) ← takeRange? verbose cs
      takeItems? verbose room (add item) rest fuel

end

/-! ## Repetition -/

/-- Reads decimal digits, skipping behind each. -/
def takeDecimal (verbose : Bool) (digits : List Char) :
    (fuel : Nat) → List Char → List Char × List Char
  | fuel + 1, c :: rest =>
    if c.isDigit then takeDecimal verbose (c :: digits) fuel (skip verbose rest)
    else (digits.reverse, c :: rest)
  | _, cs => (digits.reverse, cs)

/-- Skips blanks behind a count. -/
def skipBlanks (verbose : Bool) : (fuel : Nat) → List Char → List Char
  | fuel + 1, c :: rest =>
    if isBlank c then skipBlanks verbose fuel (skip verbose rest) else c :: rest
  | _, cs => cs

/-- The number of a counted repetition, with blanks around it. -/
def takeCount? (verbose : Bool) (cs : List Char) : Option (Nat × List Char) :=
  let (digits, rest) := takeDecimal verbose [] cs.length (cs.dropWhile isBlank)
  if digits.isEmpty then none
  else
    let n := NumberText.digitsValue digits
    if n < Nat.pow 2 32 then some (n, skipBlanks verbose rest.length rest) else none

/-- The bounds of a counted repetition, after its opening brace. -/
def takeBounds? (verbose : Bool) (cs : List Char) : Option ((Nat × Option Nat) × List Char) := do
  let (least, rest) ← takeCount? verbose (skip verbose cs)
  match rest with
  | '\x7d' :: rest => some ((least, some least), rest)
  | ',' :: rest =>
    match skip verbose rest with
    | '\x7d' :: rest => some ((least, none), rest)
    | rest =>
      let (most, rest) ← takeCount? verbose rest
      match rest with
      | '\x7d' :: rest => if least ≤ most then some ((least, some most), rest) else none
      | _ => none
  | _ => none

/-- A repetition at the head of the text: its bounds, and whether a question mark behind it asks for
as few rounds as possible. Only behind a count may blanks stand before that mark. -/
def takeRepetition? (verbose : Bool) (cs : List Char) :
    Option ((Nat × Option Nat) × Bool × List Char) :=
  let mark (bounds : Nat × Option Nat) (rest : List Char) :=
    match rest with
    | '?' :: rest => (bounds, true, rest)
    | rest => (bounds, false, rest)
  match cs with
  | '*' :: rest => some (mark (0, none) rest)
  | '+' :: rest => some (mark (1, none) rest)
  | '?' :: rest => some (mark (0, some 1) rest)
  | '\x7b' :: rest =>
    (takeBounds? verbose rest).map fun (bounds, rest) => mark bounds (skip verbose rest)
  | _ => none

/-- Whether a character starts a repetition. -/
def isRepetition (c : Char) : Bool := c = '*' || c = '+' || c = '?' || c = '\x7b'

/-! ## Groups -/

/-- The flag of a letter. -/
def Flag.ofChar? (c : Char) : Option Flag :=
  match c with
  | 'i' => some .ignoreCase
  | 'm' => some .multiLine
  | 's' => some .dotMatchesNewline
  | 'U' => some .swapGreed
  | 'u' => some .unicode
  | 'R' => some .crlf
  | 'x' => some .verbose
  | _ => none

/-- Flags up to a closing parenthesis or a colon, which is reported; each may stand once, and a
minus must be followed by one. -/
def takeFlags? (changes : List FlagChange) (on dangling : Bool) :
    List Char → Option (List FlagChange × Bool × List Char)
  | [] => none
  | ')' :: rest =>
    if dangling || changes.isEmpty then none else some (changes.reverse, false, rest)
  | ':' :: rest => if dangling then none else some (changes.reverse, true, rest)
  | '-' :: rest => if on then takeFlags? changes false true rest else none
  | c :: rest => do
    let flag ← Flag.ofChar? c
    if changes.any (·.flag = flag) then none
    else takeFlags? (⟨flag, on⟩ :: changes) on false rest

/-- Letters that were added to Unicode after the version that patterns know. -/
def recentLetter : CharSet :=
  .ofText ["88F C5C CDC A7CE-A7CF A7D2 A7D4 A7F1 10940-10959 10EC5-10EC7 10EFA-10EFB 11B60-11B67",
    "11DB0-11DDB 16EA0-16EB8 16EBB-16ED3 16FF2-16FF6 187F8-187FF 18D09-18D1E 18D80-18DF2",
    "1E6C0-1E6DE 1E6E0-1E6F5 1E6FE-1E6FF 2B73A-2B73F 2CEA2-2CEAD 323B0-33479"]

/-- Whether a character can start the name of a group. -/
def isNameStart (c : Char) : Bool :=
  c = '_' || Unicode.alphabetic.contains c || recentLetter.contains c

/-- Digits that were added to Unicode after the version that patterns know. -/
def recentNumber : CharSet := .ofText ["11DE0-11DE9 16FF4-16FF6"]

/-- Whether a character can continue the name of a group. -/
def isNameChar (c : Char) : Bool :=
  isNameStart c || c = '.' || c = '[' || c = ']' || Unicode.number.contains c ||
    recentNumber.contains c

/-- Groups opened so far. -/
structure Groups where
  count : Nat := 0
  names : List (String × Nat) := []

/-- Adds a group to those opened so far. -/
def Groups.open (g : Groups) (name : Option String) : Groups where
  count := g.count + 1
  names := match name with
    | some n => g.names ++ [(n, g.count + 1)]
    | none => g.names

/-- The name of a group, up to its closing angle. -/
def takeName? (groups : Groups) (cs : List Char) : Option (String × List Char) :=
  let (name, rest) := cs.span (· ≠ '>')
  match name, rest with
  | c :: more, _ :: rest =>
    let text := String.ofList name
    if isNameStart c && more.all isNameChar && (groups.names.lookup text).isNone then
      some (text, rest)
    else none
  | _, _ => none

/-- What an opening parenthesis starts. -/
inductive Start where
  | capture (name : Option String)
  | plain (changes : List FlagChange)
  | setFlags (changes : List FlagChange)

/-- What stands behind an opening parenthesis. -/
def takeStart? (groups : Groups) (cs : List Char) : Option (Start × List Char) :=
  match cs with
  | '?' :: 'P' :: '<' :: rest => (takeName? groups rest).map fun (n, rest) => (.capture n, rest)
  | '?' :: '<' :: '=' :: _ | '?' :: '<' :: '!' :: _ => none
  | '?' :: '<' :: rest => (takeName? groups rest).map fun (n, rest) => (.capture n, rest)
  | '?' :: rest => do
    let (changes, isGroup, rest) ← takeFlags? [] true false rest
    some (if isGroup then .plain changes else .setFlags changes, rest)
  | rest => some (.capture none, rest)

/-- Whether a pattern is verbose after a change of flags. -/
def verboseAfter (changes : List FlagChange) (verbose : Bool) : Bool :=
  ((changes.find? (·.flag = .verbose)).map (·.on)).getD verbose

/-- A primitive part of a pattern. -/
def Escape.part : Escape → Syntax
  | .literal l => .literal l
  | .shorthand kind negated => .shorthand kind negated
  | .property p negated => .property p negated
  | .anchor a => .anchor a

/-! ## Whole patterns -/

/-- The rest of a group or of the whole pattern: `done` are the finished alternatives and `parts`
the parts of the current one, both last first; `room` is how many more groups may be opened inside
each other. -/
def takeSequence? (inGroup verbose : Bool) (room : Nat) (groups : Groups) (done : List Syntax)
    (parts : List Syntax) (cs : List Char) : (fuel : Nat) → Option (Syntax × Groups × List Char)
  | 0 => none
  | fuel + 1 =>
    let finish (_ : Unit) : Syntax := .choice (Syntax.sequence parts.reverse :: done).reverse
    let next (part : Syntax) (rest : List Char) :=
      takeSequence? inGroup verbose room groups done (part :: parts) rest fuel
    match skip verbose cs with
    | [] => if inGroup then none else some (finish (), groups, [])
    | ')' :: rest => if inGroup then some (finish (), groups, rest) else none
    | '|' :: rest =>
      takeSequence? inGroup verbose room groups (.sequence parts.reverse :: done) [] rest fuel
    | '(' :: rest => do
      let (start, rest) ← takeStart? groups (skip verbose rest)
      match start, room with
      | .setFlags changes, _ =>
        takeSequence? inGroup (verboseAfter changes verbose) room groups done
          (.flags changes :: parts) rest fuel
      | _, 0 => none
      | .plain changes, room + 1 =>
        let (body, groups, rest) ← takeSequence? true (verboseAfter changes verbose) room groups
          [] [] rest fuel
        takeSequence? inGroup verbose (room + 1) groups done (.group (.plain changes) body :: parts)
          rest fuel
      | .capture name, room + 1 =>
        let index := groups.count + 1
        let (body, groups, rest) ← takeSequence? true verbose room (groups.open name) [] [] rest
          fuel
        takeSequence? inGroup verbose (room + 1) groups done (.group (.capture index) body :: parts)
          rest fuel
    | '[' :: rest => do
      let (item, rest) ← takeClass? verbose depthLimit rest (2 * rest.length + 2)
      match item with
      | .bracketed negated body => next (.bracketed negated body) rest
      | _ => none
    | '.' :: rest => next .dot rest
    | '^' :: rest => next (.anchor .caret) rest
    | '$' :: rest => next (.anchor .dollar) rest
    | '\\' :: rest => do
      let (e, rest) ← takeEscape? verbose rest
      next e.part rest
    | c :: rest =>
      if isRepetition c then
        match parts with
        | [] | .flags _ :: _ => none
        | body :: before => do
          let ((least, most), reluctant, rest) ← takeRepetition? verbose (c :: rest)
          takeSequence? inGroup verbose room groups done
            (.rep least most (!reluctant) body :: before) rest fuel
      else next (.literal { char := c }) rest

/-- A pattern as it is written, with the number and the names of its groups. -/
structure Parsed where
  root : Syntax
  groupCount : Nat
  groupNames : List (String × Nat)

/-- The pattern a text writes. -/
def parse? (text : String) : Option Parsed := do
  let cs := text.toList
  let (root, groups, _) ← takeSequence? false false depthLimit {} [] [] cs (cs.length + 1)
  if root.depth ≤ depthLimit then
    some { root, groupCount := groups.count, groupNames := groups.names }
  else none

end TableScript.Pattern
