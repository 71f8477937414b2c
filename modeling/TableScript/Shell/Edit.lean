import TableScript.Shell.Filter

/-!
# Editing lines

A small language of commands that are applied to each line of a text: replacing, printing, deleting
and leaving, each for all lines or for those that an address picks.
-/

namespace TableScript.Shell.Edit

/-- Which lines a command is for. -/
inductive Address where
  | line (n : Nat)
  | last
  | matching (r : Pattern.Regex)

/-- A piece of what replaces a match. -/
inductive Insert where
  | char (c : Char)
  | group (n : Nat)

/-- What is done to a line. -/
inductive Action where
  | replace (r : Pattern.Regex) (inserts : List Insert) (which : Option Nat) (prints : Bool)
  | exchange (source target : List Char)
  | print
  | delete
  | leave
  | number

/-- A command: what is done, and to which lines. -/
structure Step where
  first : Option Address := none
  second : Option Address := none
  negated : Bool := false
  action : Action

/-- The text up to a delimiter, and the rest after it. A backslash before the delimiter is dropped;
before a line break written as a letter it stays. -/
def takeUntil? (delimiter : Char) : List Char → Option (List Char × List Char)
  | [] => none
  | '\\' :: c :: rest => do
    let (inner, after) ← takeUntil? delimiter rest
    some ((if c = delimiter then [c] else ['\\', c]) ++ inner, after)
  | c :: rest =>
    if c = delimiter then some ([], rest)
    else do
      let (inner, after) ← takeUntil? delimiter rest
      some (c :: inner, after)

/-- What a replacement is made of. -/
def inserts : List Char → List Insert
  | [] => []
  | '&' :: rest => .group 0 :: inserts rest
  | '\\' :: c :: rest =>
    (if c.isDigit then .group (c.toNat - '0'.toNat)
      else .char (if c = 'n' then '\n' else if c = 't' then '\t' else c)) :: inserts rest
  | c :: rest => .char c :: inserts rest

/-- Reads an address. -/
def takeAddress? (extended : Bool) (cs : List Char) : Option Address × List Char :=
  match cs with
  | '$' :: rest => (some .last, rest)
  | '/' :: rest =>
    match takeUntil? '/' rest with
    | some (pattern, after) =>
      ((compilePattern? (String.ofList pattern) extended false false false).map .matching, after)
    | none => (none, cs)
  | _ =>
    let (digits, rest) := cs.span Char.isDigit
    if digits.isEmpty then (none, cs) else (some (.line (Sum.digitsValue 10 digits)), rest)

/-- Reads an action; the fault is what is wrong with it. -/
def takeAction (extended : Bool) : List Char → Except String (Action × List Char)
  | 'p' :: rest => .ok (.print, rest)
  | 'd' :: rest => .ok (.delete, rest)
  | 'q' :: rest => .ok (.leave, rest)
  | '=' :: rest => .ok (.number, rest)
  | 's' :: delimiter :: rest =>
    match takeUntil? delimiter rest with
    | none => .error "unterminated \x60s' command"
    | some (pattern, rest) =>
      match takeUntil? delimiter rest with
      | none => .error "unterminated \x60s' command"
      | some (replacement, rest) =>
        let (flags, rest) := rest.span fun c => c.isDigit || "gpiI".toList.contains c
        let ignoreCase := flags.contains 'i' || flags.contains 'I'
        let digits := flags.filter Char.isDigit
        let which := if flags.contains 'g' then none
          else some (if digits.isEmpty then 1 else Sum.digitsValue 10 digits)
        match compilePattern? (String.ofList pattern) extended false ignoreCase false with
        | some r => .ok (.replace r (inserts replacement) which (flags.contains 'p'), rest)
        | none => .error "Invalid preceding regular expression"
  | 'y' :: delimiter :: rest =>
    match takeUntil? delimiter rest with
    | none => .error "unterminated \x60y' command"
    | some (source, rest) =>
      match takeUntil? delimiter rest with
      | none => .error "unterminated \x60y' command"
      | some (target, rest) => .ok (.exchange source target, rest)
  | c :: _ => .error ("unknown command: \x60" ++ c.toString ++ "'")
  | [] => .error "missing command"

/-- Reads commands; a fault comes with the place where it was found. The fuel is the number of
characters. -/
def parse (extended : Bool) (size : Nat) :
    (fuel : Nat) → List Char → Except (Nat × String) (List Step)
  | 0, _ | _, [] => .ok []
  | fuel + 1, c :: rest =>
    if c = ';' || c = ' ' || c = '\n' || c = '\t' then parse extended size fuel rest
    else do
      let (first, rest) := takeAddress? extended (c :: rest)
      let (second, rest) := match rest with
        | ',' :: more => takeAddress? extended more
        | _ => (none, rest)
      let rest := rest.dropWhile (· = ' ')
      let (negated, rest) := match rest with
        | '!' :: more => (true, more)
        | _ => (false, rest)
      match takeAction extended rest with
      | .error fault =>
        let place := if fault.startsWith "unterminated" then size else size - rest.length + 1
        throw (place, fault)
      | .ok (action, rest) =>
        let more ← parse extended size fuel rest
        return { first, second, negated, action } :: more

/-- Whether an address picks a line. -/
def Address.picks (a : Address) (number : Nat) (isLast : Bool) (line : String) : Bool :=
  match a with
  | .line n => n = number
  | .last => isLast
  | .matching r => r.isMatch line

/-- The line with a match replaced, or all of them. -/
def replaceIn (r : Pattern.Regex) (parts : List Insert) (which : Option Nat) (line : String) :
    String × Bool :=
  let chars := line.toList.toArray
  let hits := r.findAll line.toList
  let hits := match which with
    | none => hits
    | some n => (hits.drop (n - 1)).take 1
  let insert (m : Pattern.Match) : Insert → List Char
    | .char c => [c]
    | .group 0 => Pattern.between chars m.start m.stop
    | .group n => Pattern.groupText chars m n
  let (text, position) := hits.foldl (fun (acc, position) m =>
    (acc ++ Pattern.between chars position m.start ++ parts.flatMap (insert m), m.stop)) ([], 0)
  (String.ofList (text ++ Pattern.between chars position chars.size), !hits.isEmpty)

/-- The state of an editor on one line. -/
structure Desk where
  line : String
  output : List String := []
  isDeleted : Bool := false
  leaves : Bool := false

/-- Does something to a line. -/
def Action.apply (a : Action) (number : Nat) (d : Desk) : Desk :=
  match a with
  | .replace r parts which prints =>
    let (line, changed) := replaceIn r parts which d.line
    { d with line, output := if prints && changed then d.output ++ [line] else d.output }
  | .exchange source target =>
    { d with line := d.line.map fun c => ((source.zip target).lookup c).getD c }
  | .print => { d with output := d.output ++ [d.line] }
  | .delete => { d with isDeleted := true }
  | .leave => { d with leaves := true }
  | .number => { d with output := d.output ++ [toString number] }

/-- Applies commands to a line. A range is open from a line its first address picks to one its
second picks; the flag of a command says whether its range is. -/
def applySteps (number : Nat) (isLast : Bool) :
    List (Step × Bool) → Desk → Desk × List (Step × Bool)
  | [], d => (d, [])
  | (s, isOpen) :: rest, d =>
    if d.isDeleted || d.leaves then (d, (s, isOpen) :: rest)
    else
      let picks (a : Option Address) : Bool :=
        (a.map fun a => a.picks number isLast d.line).getD true
      let (chosen, isOpen) := match s.second with
        | none => (picks s.first, false)
        | some stop =>
          if isOpen then (true, !stop.picks number isLast d.line)
          else if picks s.first then
            (true, match stop with
              | .line n => decide (number < n)
              | .last => !isLast
              | .matching _ => true)
          else (false, false)
      let d := if chosen ≠ s.negated then s.action.apply number d else d
      let (d, more) := applySteps number isLast rest d
      (d, (s, isOpen) :: more)

/-- Edits lines; with `quiet` only what is printed on purpose is written. -/
def editLines (quiet : Bool) (number : Nat) (steps : List (Step × Bool)) : List String → List String
  | [] => []
  | line :: rest =>
    let (d, steps) := applySteps number rest.isEmpty steps { line }
    let written := d.output ++ (if quiet || d.isDeleted then [] else [d.line])
    if d.leaves then written else written ++ editLines quiet (number + 1) steps rest

/-- Edits text. -/
def run (args : List String) : ShellM Unit :=
  withOptions "sed" "nErs" "e" 1 args fun o => do
    let scripts := o.options.filterMap fun (c, v) => if c = 'e' then some v else none
    let (script, files) := match scripts with
      | [] => (o.operands.headD "", o.operands.tail)
      | scripts => ("\n".intercalate scripts, o.operands)
    match parse (o.has 'E' || o.has 'r') script.length (script.length + 1) script.toList with
    | .error (place, fault) =>
      report "sed" ("-e expression #1, char " ++ toString place ++ ": " ++ fault) 1
    | .ok steps =>
      let texts ← inputs "sed" (fun path fault => "can't read " ++ path ++ ": " ++ fault) 2 files
      let text := String.join (texts.map (·.2))
      let lines := editLines (o.has 'n') 1 (steps.map (·, false)) (linesOf text)
      let ended := text = "" || text.endsWith "\n"
      let written := ofLines lines
      writeOut (if ended then written else String.ofList written.toList.dropLast)

end TableScript.Shell.Edit
