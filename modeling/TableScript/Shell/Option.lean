import TableScript.Shell.Session

/-!
# Arguments of programs

Options of one letter, alone or in groups, some with a value that follows at once or in the next
argument; what is no option is an operand. The readers of input that most programs share are here
too.
-/

namespace TableScript.Shell

/-- The options and operands among arguments. -/
structure Options where
  options : List (Char × String) := []
  operands : List String := []

namespace Options

/-- Whether an option was given. -/
def has (o : Options) (c : Char) : Bool := o.options.any (·.1 = c)

/-- The value last given to an option. -/
def value? (o : Options) (c : Char) : Option String := o.options.reverse.lookup c

/-- Reads the letters of a group; `rest` are the arguments after it. The result says which letter is
no option, or gives the options and the arguments that are left. -/
def readGroup (plain valued : List Char) (rest : List String) :
    List Char → Except Char (List (Char × String) × List String)
  | [] => .ok ([], rest)
  | c :: more =>
    if valued.contains c then
      match more, rest with
      | [], value :: rest => .ok ([(c, value)], rest)
      | [], [] => .error c
      | more, rest => .ok ([(c, String.ofList more)], rest)
    else if plain.contains c then do
      let (options, rest) ← readGroup plain valued rest more
      .ok ((c, "") :: options, rest)
    else .error c

/-- Reads arguments. The fuel is their number. -/
def read (plain valued : List Char) : (fuel : Nat) → List String → Except Char Options
  | 0, _ | _, [] => .ok {}
  | fuel + 1, arg :: rest =>
    if arg = "--" then .ok { operands := rest }
    else match arg.toList with
      | '-' :: c :: letters => do
        let (options, rest) ← readGroup plain valued rest (c :: letters)
        let o ← read plain valued fuel rest
        return { o with options := options ++ o.options }
      | _ => do
        let o ← read plain valued fuel rest
        return { o with operands := arg :: o.operands }

end Options

/-- The programs that go by their own name however they were started. -/
def selfNamed : List String := ["grep", "sed"]

/-- The name a program goes by. -/
def nameOf (program : String) : ShellM String := do
  let invoked := (← get).invoked
  return if selfNamed.contains program then program else invoked.getD program

/-- Reports something in the name of a program and sets the status. -/
def report (program message : String) (status : Nat) : ShellM Unit := do
  writeErr ((← nameOf program) ++ ": " ++ message ++ "\n")
  setStatus status

/-- Points to the help of a program. -/
def helpHint (name : String) : String := "\nTry '" ++ name ++ " --help' for more information."

/-- Reports that a program was not used as it has to be. -/
def misuse (program message : String) (status : Nat) : ShellM Unit := do
  report program (message ++ helpHint (← nameOf program)) status

/-- Runs with the options of a program, or reports a letter that is none. -/
def withOptions (program plain valued : String) (status : Nat) (args : List String)
    (x : Options → ShellM Unit) : ShellM Unit := do
  match Options.read plain.toList valued.toList (args.length + 1) args with
  | .ok o =>
    setStatus 0
    x o
  | .error c => misuse program ("invalid option -- '" ++ c.toString ++ "'") status

/-- The text of a file, or of the input for a dash. -/
def textOf (path : String) : ShellM (Except FileFault String) := do
  let s ← get
  if path = "-" then
    match s.descriptors.lookup 0 with
    | none => return .error .notOpen
    | some channel =>
      match s.channels[channel]? with
      | some .directory => return .error .isDirectory
      | _ => return .ok (← readAll 0)
  match s.files.find s.directory (readable path) with
  | .ok (_, .file bytes _) => return .ok (ofBytes bytes)
  | .ok (_, .directory) => return .error .isDirectory
  | .ok (_, .device (.descriptor n)) => return .ok (← readAll n)
  | .ok _ => return .ok ""
  | .error fault => return .error fault

/-- The names and texts of operands, or of the input if there are none; a file that cannot be read
is reported in the given words. -/
def inputs (program : String) (wording : String → String → String) (status : Nat)
    (operands : List String) : ShellM (List (String × String)) := do
  let operands := if operands.isEmpty then ["-"] else operands
  operands.filterMapM fun path => do
    match ← textOf path with
    | .ok text => return some (path, text)
    | .error fault =>
      report program (wording path fault.text) status
      if fault = .notOpen then report program ("closing standard input: " ++ fault.text) status
      return none

/-- The usual words for a file that cannot be read. -/
def plainWording (path fault : String) : String := path ++ ": " ++ fault

/-- The words of some programs for a file that cannot be read. -/
def openWording (path fault : String) : String :=
  "cannot open '" ++ path ++ "' for reading: " ++ fault

/-- The lines of a text, without their line breaks. -/
def linesOf (text : String) : List String :=
  let parts := text.splitOn "\n"
  if parts.getLast? = some "" then parts.dropLast else parts

/-- Lines, each with a line break. -/
def ofLines (lines : List String) : String := String.join (lines.map (· ++ "\n"))

/-- The lines of a text with their line breaks, where they have one. -/
def wholeLines (text : String) : List String :=
  let parts := text.splitOn "\n"
  (parts.dropLast.map (· ++ "\n")) ++ (parts.getLast?.toList.filter (· ≠ ""))

end TableScript.Shell
