import TableScript.Pattern.Replace
import TableScript.Shell.Format
import TableScript.Shell.Option

/-!
# Programs that read and write text

The programs of the system that take text in and give text out. Each gets its arguments as fields
and leaves its status in the session.
-/

namespace TableScript.Shell

/-- A byte in signs that can be seen; tabs and line breaks stay. -/
def visible (c : Char) : List Char :=
  let n := c.toNat
  let (start, n) := if n < 128 then ([], n) else (['M', '-'], n - 128)
  if start.isEmpty && (n = 9 || n = 10) then [c]
  else if n < 32 then start ++ ['^', Char.ofNat (n + 64)]
  else if n = 127 then start ++ ['^', '?']
  else start ++ [Char.ofNat n]

/-- Lines without those empty ones that follow an empty one. -/
def squeezeLines : List String → List String
  | "\n" :: "\n" :: rest => squeezeLines ("\n" :: rest)
  | line :: rest => line :: squeezeLines rest
  | [] => []

/-- How a line is shown: with signs for what cannot be seen, for tabs and for its end. -/
def showLine (signs tabs ends : Bool) (line : String) : String :=
  let chars := if signs then line.toList.flatMap visible else line.toList
  let chars := if tabs then chars.flatMap fun c => if c = '\t' then ['^', 'I'] else [c] else chars
  String.ofList
    (if ends then chars.flatMap fun c => if c = '\n' then ['$', '\n'] else [c] else chars)

/-- Puts numbers before lines; `skipsEmpty` leaves empty ones without. -/
def numberLines (skipsEmpty : Bool) : Nat → List String → List String
  | _, [] => []
  | n, line :: rest =>
    if skipsEmpty && line = "\n" then line :: numberLines skipsEmpty n rest
    else
      let number := toString n
      (String.ofList (List.replicate (6 - number.length) ' ') ++ number ++ "\t" ++ line) ::
        numberLines skipsEmpty (n + 1) rest

/-- Copies files, or the input, to output. -/
def runCat (args : List String) : ShellM Unit :=
  withOptions "cat" "nbsuvAETet" "" 1 args fun o => do
    let any (letters : String) : Bool := letters.toList.any o.has
    let isPlain := !any "nbsvAETet"
    let texts ← (if o.operands.isEmpty then ["-"] else o.operands).filterMapM fun path => do
      match ← textOf path with
      | .ok text =>
        if isPlain then writeOut text
        return some text
      | .error fault =>
        report "cat" (plainWording path fault.text) 1
        if fault = .notOpen then report "cat" ("closing standard input: " ++ fault.text) 1
        return none
    if !isPlain then
      let lines := wholeLines (String.join texts)
      let lines := if o.has 's' then squeezeLines lines else lines
      let lines := if o.has 'n' || o.has 'b' then numberLines (o.has 'b') 1 lines else lines
      writeOut (String.join (lines.map (showLine (any "vAet") (any "ATt") (any "AEe"))))

/-- Turns arguments such as `-3` into the option with that value. -/
def numberOptions : List String → List String
  | "-n" :: value :: rest => "-n" :: value :: numberOptions rest
  | "-c" :: value :: rest => "-c" :: value :: numberOptions rest
  | arg :: rest =>
    match arg.toList with
    | '-' :: c :: more =>
      if (c :: more).all Char.isDigit then "-n" :: String.ofList (c :: more) :: numberOptions rest
      else arg :: numberOptions rest
    | _ => arg :: numberOptions rest
  | [] => []

/-- A count and the sign before it. -/
def readCountArg (s : String) : Option Char × Option Nat :=
  match s.toList with
  | '+' :: ds => (some '+', (String.ofList ds).toNat?)
  | '-' :: ds => (some '-', (String.ofList ds).toNat?)
  | ds => (none, (String.ofList ds).toNat?)

/-- The first lines or bytes of texts, or the last ones. -/
def runEnds (program : String) (fromStart : Bool) (args : List String) : ShellM Unit :=
  withOptions program "qvf" "nc" 1 (numberOptions args) fun o => do
    let unit := if (o.value? 'c').isSome then "bytes" else "lines"
    let given := ((o.value? 'c').or (o.value? 'n')).getD "10"
    match readCountArg given with
    | (_, none) => report program ("invalid number of " ++ unit ++ ": '" ++ given ++ "'") 1
    | (sign, some n) =>
      let choose {α : Type} (items : List α) : List α :=
        if fromStart then
          if sign = some '-' then items.take (items.length - n) else items.take n
        else if sign = some '+' then items.drop (n - 1)
        else items.drop (items.length - n)
      let pick (text : String) : String :=
        if unit = "bytes" then String.ofList (choose text.toList)
        else String.join (choose (wholeLines text))
      let texts ← inputs program openWording 1 o.operands
      if o.operands.length ≤ 1 then texts.forM fun (_, text) => writeOut (pick text)
      else
        ((List.range texts.length).zip texts).forM fun (i, name, text) =>
          writeOut ((if i = 0 then "" else "\n") ++ "==> " ++ name ++ " <==\n" ++ pick text)

/-- How many words a text has. -/
def wordCount (text : String) : Nat :=
  ((text.toList.foldl (fun (count, inside) c =>
    if Sum.isBlank c then (count, false) else (if inside then count else count + 1, true))
    (0, false)).1 : Nat)

/-- A number, right-aligned. -/
def rightAligned (width : Nat) (n : Nat) : String :=
  let digits := toString n
  String.ofList (List.replicate (width - digits.length) ' ') ++ digits

/-- Counts lines, words and bytes. -/
def runWc (args : List String) : ShellM Unit :=
  withOptions "wc" "lwcm" "" 1 args fun o => do
    let counts (text : String) : List Nat :=
      let chosen := o.options.map (·.1)
      let all := [('l', text.toList.count '\n'), ('w', wordCount text), ('c', text.length)]
      (all.filter fun (c, _) =>
        chosen.isEmpty || chosen.contains c || (c = 'c' && chosen.contains 'm')).map (·.2)
    let texts ← inputs "wc" plainWording 1 o.operands
    let rows := texts.map fun (name, text) =>
      (counts text, if o.operands.isEmpty then "" else name)
    let total := rows.foldl (fun acc (row : List Nat × String) =>
      if acc.isEmpty then row.1 else acc.zipWith (· + ·) row.1) []
    let rows := if 1 < o.operands.length then rows ++ [(total, "total")] else rows
    let s ← get
    let fromFile := match s.channels[(s.descriptors.lookup 0).getD 0]? with
      | some (.file ..) => true
      | _ => false
    let size := (texts.map fun (_, text) => text.length).foldl (· + ·) 0
    let width := if (rows.headD ([], "")).1.length ≤ 1 && rows.length ≤ 1 then 1
      else if o.operands.isEmpty && !fromFile then 7 else (toString size).length
    rows.forM fun (ns, name) =>
      writeOut (" ".intercalate (ns.map (rightAligned width)) ++
        (if name = "" then "" else " " ++ name) ++ "\n")

/-! ## Characters -/

/-- The members of a class of characters, in order. -/
def classMembers (name : String) : List Char :=
  ((List.range 128).map Char.ofNat).filter fun c =>
    match name with
    | "lower" => c.isLower
    | "upper" => c.isUpper
    | "digit" => c.isDigit
    | "alpha" => c.isAlpha
    | "alnum" => c.isAlphanum
    | "space" => Sum.isBlank c
    | "blank" => c = ' ' || c = '\t'
    | "punct" => '!' ≤ c && c ≤ '~' && !c.isAlphanum
    | "cntrl" => c < ' ' || c = '\x7f'
    | _ => false

/-- The characters that a set stands for. The fuel is the number of its characters. -/
def expandSet : (fuel : Nat) → List Char → List Char
  | 0, _ | _, [] => []
  | fuel + 1, '[' :: ':' :: rest =>
    let (name, after) := rest.span Char.isAlpha
    if [':', ']'].isPrefixOf after then
      classMembers (String.ofList name) ++ expandSet fuel (after.drop 2)
    else '[' :: expandSet fuel (':' :: rest)
  | fuel + 1, '\\' :: rest =>
    let (bytes, after) := readEscape false rest
    (match bytes with
      | ['\\', c] => [c]
      | bytes => bytes) ++ expandSet fuel after
  | fuel + 1, a :: '-' :: b :: rest =>
    if a ≤ b then
      (List.range (b.toNat - a.toNat + 1)).map (fun i => Char.ofNat (a.toNat + i)) ++
        expandSet fuel rest
    else expandSet fuel rest
  | fuel + 1, c :: rest => c :: expandSet fuel rest

/-- Drops a character that repeats the one before it. -/
def squeeze (members : List Char) : Option Char → List Char → List Char
  | _, [] => []
  | before, c :: rest =>
    if before = some c && members.contains c then squeeze members before rest
    else c :: squeeze members (some c) rest

/-- Replaces, drops or squeezes characters. -/
def runTr (args : List String) : ShellM Unit :=
  withOptions "tr" "dscC" "" 1 args fun o => do
    let complement := o.has 'c' || o.has 'C'
    let first (s : String) : List Char :=
      let members := expandSet s.length s.toList
      if complement then ((List.range 256).map Char.ofNat).filter (!members.contains ·) else members
    match o.operands with
    | [] => misuse "tr" "missing operand" 1
    | [a] =>
      if o.has 'd' then
        let members := first a
        writeOut (String.ofList ((← readAll 0).toList.filter (!members.contains ·)))
      else if o.has 's' then
        writeOut (String.ofList (squeeze (first a) none (← readAll 0).toList))
      else
        misuse "tr" ("missing operand after '" ++ a ++
          "'\nTwo strings must be given when translating.") 1
    | a :: b :: _ =>
      let source := first a
      let target := expandSet b.length b.toList
      let text := (← readAll 0).toList
      if o.has 'd' then
        let text := text.filter (!source.contains ·)
        writeOut (String.ofList (squeeze target none text))
      else
        let exchange (c : Char) : Char :=
          match source.reverse.idxOf? c with
          | some i =>
            let place := source.length - 1 - i
            (target[place]?).getD (target.getLastD c)
          | none => c
        let text := text.map exchange
        writeOut (String.ofList (if o.has 's' then squeeze target none text else text))

/-- A list of ranges such as `1,3-5`. -/
def readRanges (s : String) : List (Nat × Option Nat) :=
  (s.splitOn ",").filterMap fun part =>
    match part.splitOn "-" with
    | [n] => n.toNat?.map fun n => (n, some n)
    | [a, b] => some ((a.toNat?).getD 1, if b = "" then none else b.toNat?)
    | _ => none

/-- Whether a position is in one of the ranges. -/
def inRanges (ranges : List (Nat × Option Nat)) (i : Nat) : Bool :=
  ranges.any fun (low, high) => low ≤ i && (high.map fun h => decide (i ≤ h)).getD true

/-- The items at the positions in ranges, counted from one. -/
def pickRanges {α : Type} (ranges : List (Nat × Option Nat)) (items : List α) : List α :=
  ((List.range items.length).zip items).filterMap fun (i, x) =>
    if inRanges ranges (i + 1) then some x else none

/-- Cuts columns or fields out of lines. -/
def runCut (args : List String) : ShellM Unit :=
  withOptions "cut" "s" "dfcb" 1 args fun o => do
    let delimiter := (o.value? 'd').getD "\t"
    match o.value? 'f', (o.value? 'c').or (o.value? 'b') with
    | none, none =>
      misuse "cut" "you must specify a list of bytes, characters, or fields" 1
    | some fields, _ =>
      let ranges := readRanges fields
      (← inputs "cut" plainWording 1 o.operands).forM fun (_, text) =>
        (linesOf text).forM fun line =>
          if line.toList.contains (delimiter.toList.headD '\t') then
            writeOut (delimiter.intercalate (pickRanges ranges (line.splitOn delimiter)) ++ "\n")
          else if o.has 's' then pure ()
          else writeOut (line ++ "\n")
    | none, some columns =>
      let ranges := readRanges columns
      (← inputs "cut" plainWording 1 o.operands).forM fun (_, text) =>
        (linesOf text).forM fun line =>
          writeOut (String.ofList (pickRanges ranges line.toList) ++ "\n")

/-! ## Lines -/

/-- The number a line starts with. -/
def leadingInt (s : String) : Int :=
  match s.toList.dropWhile Sum.isBlank with
  | '-' :: ds => -(Sum.digitsValue 10 (ds.takeWhile Char.isDigit) : Int)
  | ds => Sum.digitsValue 10 (ds.takeWhile Char.isDigit)

/-- The part of a line from a field on, with the blanks before the field. -/
def fromField (separator : Option String) (n : Nat) (line : String) : String :=
  match separator with
  | some d => d.intercalate ((line.splitOn d).drop (n - 1))
  | none =>
    let rec go : Nat → List Char → List Char
      | 0, cs => cs
      | k + 1, cs => go k ((cs.dropWhile Sum.isBlank).dropWhile (!Sum.isBlank ·))
    String.ofList (go (n - 1) line.toList)

/-- Sorts lines. -/
def runSort (args : List String) : ShellM Unit :=
  withOptions "sort" "rnufbs" "kto" 2 args fun o => do
    let wording (path fault : String) : String := "cannot read: " ++ path ++ ": " ++ fault
    let texts ← inputs "sort" wording 2 o.operands
    let lines := texts.flatMap fun (_, text) => linesOf text
    let field := ((o.value? 'k').map fun k =>
      Sum.digitsValue 10 (k.toList.takeWhile Char.isDigit)).getD 1
    let numeric := o.has 'n' || (((o.value? 'k').map fun k => k.toList.contains 'n').getD false)
    let key (line : String) : String :=
      if (o.value? 'k').isSome then fromField (o.value? 't') field line else line
    let compareKeys (a b : String) : Ordering :=
      let byNumber := if numeric then compare (leadingInt (key a)) (leadingInt (key b)) else .eq
      let fold (s : String) : String := if o.has 'f' then s.map Char.toUpper else s
      if numeric then byNumber else compare (fold (key a)) (fold (key b))
    let compareLines (a b : String) : Ordering :=
      match compareKeys a b with
      | .eq => if o.has 'u' || o.has 's' then .eq else compare a b
      | other => other
    let directed (o' : Ordering) : Ordering := if o.has 'r' then o'.swap else o'
    let sorted := lines.mergeSort fun a b => (directed (compareLines a b)) ≠ .gt
    let rec unique : Option String → List String → List String
      | _, [] => []
      | before, line :: rest =>
        match before with
        | some b =>
          if compareKeys b line = .eq then unique before rest else line :: unique (some line) rest
        | none => line :: unique (some line) rest
    writeOut (ofLines (if o.has 'u' then unique none sorted else sorted))

/-- Lines with how often each stands after itself. -/
def runsOf : List String → List (String × Nat)
  | [] => []
  | line :: rest =>
    match runsOf rest with
    | (next, n) :: more =>
      if next = line then (line, n + 1) :: more else (line, 1) :: (next, n) :: more
    | [] => [(line, 1)]

/-- Drops lines that repeat the one before them. -/
def runUniq (args : List String) : ShellM Unit :=
  withOptions "uniq" "cdu" "" 1 args fun o => do
    (← inputs "uniq" plainWording 1 (o.operands.take 1)).forM fun (_, text) =>
      (runsOf (linesOf text)).forM fun (line, n) =>
        if (o.has 'd' && n = 1) || (o.has 'u' && n ≠ 1) then pure ()
        else writeOut ((if o.has 'c' then rightAligned 7 n ++ " " else "") ++ line ++ "\n")

/-- Writes lines backwards. -/
def runRev (args : List String) : ShellM Unit :=
  withOptions "rev" "" "" 1 args fun o => do
    (← inputs "rev" openWording 1 o.operands).forM fun (_, text) =>
      -- characters are turned around, not bytes
      writeOut (ofLines ((linesOf text).map fun line =>
        bytewise (String.ofList (readable line).toList.reverse)))

/-- Writes lines from the last to the first. -/
def runTac (args : List String) : ShellM Unit :=
  withOptions "tac" "" "" 1 args fun o => do
    let wording (path fault : String) : String :=
      "failed to open '" ++ path ++ "' for reading: " ++ fault
    (← inputs "tac" wording 1 o.operands).forM fun (_, text) =>
      writeOut (String.join (wholeLines text).reverse)

/-- Writes lines with their numbers. -/
def runNl (args : List String) : ShellM Unit :=
  withOptions "nl" "" "b" 1 args fun o => do
    let texts ← inputs "nl" plainWording 1 o.operands
    let all := o.value? 'b' = some "a"
    let rec number : Nat → List String → List String
      | _, [] => []
      | n, line :: rest =>
        if line = "" && !all then "       " :: number n rest
        else (rightAligned 6 n ++ "\t" ++ line) :: number (n + 1) rest
    writeOut (ofLines (number 1 (texts.flatMap fun (_, text) => linesOf text)))

/-- The items at every `step`-th position from a first one on. -/
def everyOther {α : Type} (step first : Nat) (items : List α) : List α :=
  ((List.range items.length).zip items).filterMap fun (i, item) =>
    if i % step = first then some item else none

/-- The columns that operands stand for. Several dashes take the lines of the input in turn. -/
def pasteColumns (texts : List (String × String)) : List (List String) :=
  let dashes := texts.filter (·.1 = "-")
  let input := linesOf ((dashes.head?.map (·.2)).getD "")
  (texts.foldl (fun (columns, turn) (path, text) =>
    if path = "-" then (columns ++ [everyOther dashes.length turn input], turn + 1)
    else (columns ++ [linesOf text], turn)) (([], 0) : List (List String) × Nat)).1

/-- Joins lines. -/
def runPaste (args : List String) : ShellM Unit :=
  withOptions "paste" "s" "d" 1 args fun o => do
    let delimiter := (o.value? 'd').getD "\t"
    let texts ← inputs "paste" plainWording 1 o.operands
    if o.has 's' then
      texts.forM fun (_, text) => writeOut (delimiter.intercalate (linesOf text) ++ "\n")
    else
      let columns := pasteColumns texts
      let height := (columns.map List.length).foldl max 0
      (List.range height).forM fun i =>
        writeOut (delimiter.intercalate (columns.map fun column => column[i]?.getD "") ++ "\n")

/-- Writes the input to output and to files. -/
def runTee (args : List String) : ShellM Unit :=
  withOptions "tee" "ai" "" 1 args fun o => do
    let text ← readAll 0
    writeOut text
    o.operands.forM fun path => do
      let s ← get
      match s.files.locate s.directory (readable path) with
      | .error fault => report "tee" (plainWording path fault.text) 1
      | .ok place =>
        match s.files.node? place with
        | some .directory => report "tee" (plainWording path FileFault.isDirectory.text) 1
        | some (.device (.descriptor n)) => discard (writeTo n text)
        | some (.device .null) => pure ()
        | node =>
          let old := match node with
            | some (.file bytes _) => if o.has 'a' then bytes else []
            | _ => []
          set { s with files := s.files.put place (.file (old ++ bytesOf text) false) }

/-! ## Searching -/

/-- A pattern in the notation of `grep` and `sed` in the notation of `Pattern`: there, a backslash
gives parentheses, braces and some signs their meaning, and without it they stand for themselves. -/
def basicPattern : List Char → List Char
  | [] => []
  | '\\' :: c :: rest =>
    if "()\x7b\x7d|+?".toList.contains c then c :: basicPattern rest
    else '\\' :: c :: basicPattern rest
  | c :: rest =>
    if "()\x7b\x7d|+?".toList.contains c then '\\' :: c :: basicPattern rest
    else c :: basicPattern rest

/-- A text as a pattern that matches nothing else. -/
def literalPattern (s : String) : String :=
  String.ofList (s.toList.flatMap fun c =>
    if "\\.+*?()|[]\x7b\x7d^$#&-~".toList.contains c then ['\\', c] else [c])

/-- Compiles a pattern. -/
def compilePattern? (text : String) (extended fixed ignoreCase wholeLine : Bool) :
    Option Pattern.Regex :=
  let body := if fixed then literalPattern text
    else if extended then text else String.ofList (basicPattern text.toList)
  let body := if wholeLine then "^(?:" ++ body ++ ")$" else body
  (Pattern.Regex.compile ((if ignoreCase then "(?i)" else "") ++ body)).toOption

/-- Finds lines that match a pattern. -/
def runGrep (args : List String) : ShellM Unit :=
  withOptions "grep" "vcinoqEFxshHlw" "e" 2 args fun o => do
    let (pattern, files) := match o.value? 'e', o.operands with
      | some p, files => (some p, files)
      | none, p :: files => (some p, files)
      | none, [] => (none, [])
    match pattern with
    | none =>
      writeErr ("Usage: grep [OPTION]... PATTERNS [FILE]..." ++ helpHint "grep" ++ "\n")
      setStatus 2
    | some pattern =>
      match compilePattern? pattern (o.has 'E') (o.has 'F') (o.has 'i') (o.has 'x') with
      | none => report "grep" "Invalid regular expression" 2
      | some regex =>
        let texts ← inputs "grep" plainWording 2 files
        let failed := (← get).status
        let named := 1 < files.length && !o.has 'h'
        let mut found := false
        for (name, text) in texts do
          let label := if named then name ++ ":" else ""
          let lines := linesOf text
          let hits := ((List.range lines.length).zip lines).filter fun (_, line) =>
            regex.isMatch line ≠ o.has 'v'
          if !hits.isEmpty then found := true
          if o.has 'q' then pure ()
          else if o.has 'c' then writeOut (label ++ toString hits.length ++ "\n")
          else if o.has 'l' then
            if !hits.isEmpty then writeOut (name ++ "\n")
          else
            for (i, line) in hits do
              let start := label ++ (if o.has 'n' then toString (i + 1) ++ ":" else "")
              if o.has 'o' then
                let chars := line.toList
                for (a, b) in regex.extents line do
                  writeOut (start ++ String.ofList ((chars.drop a).take (b - a)) ++ "\n")
              else writeOut (start ++ line ++ "\n")
        setStatus (if failed ≠ 0 && !(o.has 'q' && found) then failed else statusOf found)

/-! ## Numbers and names -/

/-- Writes numbers, one a line. -/
def runSeq (args : List String) : ShellM Unit := do
  let rec split : List String → String × Bool × List String
    | "-s" :: separator :: rest =>
      let (_, w, operands) := split rest
      (separator, w, operands)
    | "-w" :: rest =>
      let (s, _, operands) := split rest
      (s, true, operands)
    | arg :: rest =>
      if arg.startsWith "-s" then
        let (_, w, operands) := split rest
        ((arg.drop 2).toString, w, operands)
      else ("\n", false, arg :: rest)
    | [] => ("\n", false, [])
  let (separator, equalWidth, operands) := split args
  let bounds := operands.map fun a => (a, a.toInt?)
  match bounds.find? fun b => b.2.isNone with
  | some (bad, _) =>
    misuse "seq" ("invalid floating point argument: '" ++ bad ++ "'") 1
  | none =>
    let write (first step last : Int) : ShellM Unit := do
      let count := if step = 0 then 0 else ((last - first) / step + 1).toNat
      let texts := (List.range count).map fun (i : Nat) => toString (first + step * i)
      let width := (texts.map String.length).foldl max 0
      let texts := if equalWidth then
          texts.map fun t => String.ofList (List.replicate (width - t.length) '0') ++ t
        else texts
      if !texts.isEmpty then writeOut (separator.intercalate texts ++ "\n")
      setStatus 0
    match bounds.filterMap (·.2) with
    | [] => misuse "seq" "missing operand" 1
    | [last] => write 1 1 last
    | [first, last] => write first 1 last
    | [first, step, last] => write first step last
    | _ => misuse "seq" ("extra operand '" ++ operands[3]?.getD "" ++ "'") 1

/-- A path without the slashes at its end. -/
def dropSlashes (path : String) : String :=
  let cs := (path.toList.reverse.dropWhile (· = '/')).reverse
  if cs.isEmpty && path ≠ "" then "/" else String.ofList cs

/-- The last name of a path. -/
def baseName (path : String) : String :=
  let path := dropSlashes path
  if path = "/" then "/" else ((path.splitOn "/").getLast?).getD ""

/-- A path without its last name. -/
def directoryName (path : String) : String :=
  match (dropSlashes path).splitOn "/" with
  | [] | [_] => if path.startsWith "/" then "/" else "."
  | names => dropSlashes (let dir := "/".intercalate names.dropLast; if dir = "" then "/" else dir)

/-- Writes the last name of a path. -/
def runBasename (args : List String) : ShellM Unit := do
  match args with
  | [] => misuse "basename" "missing operand" 1
  | [path] =>
    writeOut (baseName path ++ "\n")
    setStatus 0
  | path :: ending :: _ =>
    let name := baseName path
    let name := if name.endsWith ending && name ≠ ending then
        String.ofList (name.toList.take (name.length - ending.length))
      else name
    writeOut (name ++ "\n")
    setStatus 0

/-- Writes paths without their last names. -/
def runDirname (args : List String) : ShellM Unit := do
  if args.isEmpty then misuse "dirname" "missing operand" 1
  else
    args.forM fun path => writeOut (directoryName path ++ "\n")
    setStatus 0

/-- Writes variables of the environment. -/
def runPrintenv (args : List String) : ShellM Unit := do
  let env := (← get).environment
  setStatus 0
  if args.isEmpty then env.forM fun (name, value) => writeOut (name ++ "=" ++ value ++ "\n")
  else args.forM fun name => do
    match env.lookup name with
    | some value => writeOut (value ++ "\n")
    | none => setStatus 1

/-- Waits; only its arguments matter. -/
def runSleep (args : List String) : ShellM Unit := do
  let isTime (s : String) : Bool :=
    let body := if ["s", "m", "h", "d"].any fun u => s.endsWith u then
        String.ofList s.toList.dropLast
      else s
    (NumberText.readFloat? body).isSome && !body.startsWith "-"
  match args with
  | [] => misuse "sleep" "missing operand" 1
  | args =>
    match args.find? fun a => !isTime a with
    | some bad => misuse "sleep" ("invalid time interval '" ++ bad ++ "'") 1
    | none => setStatus 0

/-- Writes a line again and again, as often as a reader could want. -/
def runYes (args : List String) : ShellM Unit := do
  let line := if args.isEmpty then "y" else " ".intercalate args
  writeOut (ofLines (List.replicate 4096 line))
  setStatus 0

/-- Writes its arguments; escapes have a meaning only if that is asked for. -/
def runPlainEcho (args : List String) : ShellM Unit := do
  let isFlag (a : String) : Bool :=
    match a.toList with
    | '-' :: c :: rest => (c :: rest).all fun x => x = 'n' || x = 'e' || x = 'E'
    | _ => false
  let flags := (args.takeWhile isFlag).flatMap fun a => a.toList.drop 1
  let text := " ".intercalate (args.dropWhile isFlag)
  let escapes := (flags.filter fun c => c = 'e' || c = 'E').getLast? = some 'e'
  let (text, cut) := if escapes then
      let (bytes, cut) := unescape text.length text.toList
      (String.ofList bytes, cut)
    else (text, false)
  writeOut (text ++ (if flags.contains 'n' || cut then "" else "\n"))
  setStatus 0

end TableScript.Shell
