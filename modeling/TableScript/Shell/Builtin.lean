import TableScript.Shell.Expansion
import TableScript.Shell.Format
import TableScript.Shell.Reader
import TableScript.Shell.Test

/-!
# Built-in commands

The commands that a shell carries out itself because they change its own state. Each gets its
arguments as fields and leaves its status in the session. Those that run other commands are with the
shell itself.
-/

namespace TableScript.Shell

/-! ## Where commands are -/

/-- What a program's name leads to: its path and what is there. -/
def findProgram? (s : Session) (name : String) : Option (String × FileNode) :=
  let look (path : String) : Option (String × FileNode) :=
    match s.files.find s.directory (readable path) with
    | .ok (_, .program p) => some (path, .program p)
    | .ok (_, .file bytes true) => some (path, .file bytes true)
    | _ => none
  if name.toList.contains '/' then look name
  else (((s.value? "PATH").getD "").splitOn ":").findSome? fun dir =>
    look (if dir = "" then name else dir ++ "/" ++ name)

/-- The built-in commands, apart from the special ones. -/
def builtinNames : List String :=
  ["[", "alias", "cd", "chdir", "command", "echo", "false", "getopts", "hash", "jobs", "kill",
    "printf", "pwd", "read", "test", "true", "type", "ulimit", "umask", "unalias", "wait"]

/-! ## Numbers -/

/-- A natural number in an argument. -/
def naturalArgument (arg : String) : ShellM Nat :=
  if arg ≠ "" && arg.toList.all Char.isDigit then return Sum.digitsValue 10 arg.toList
  else refuse ("Illegal number: " ++ arg)

/-- Ends the shell. A status is taken modulo 256. -/
def runExit (args : List String) : ShellM Unit := do
  match args with
  | [] => throw (.exit (← get).status)
  | arg :: _ => throw (.exit ((← naturalArgument arg) % 256))

/-- Ends a function. -/
def runReturn (args : List String) : ShellM Unit := do
  match args with
  | [] => throw (.returned (← get).status)
  | arg :: _ => throw (.returned (← naturalArgument arg))

/-- Leaves loops or goes on with their next round. -/
def runLeave (halt : Nat → Halt) (args : List String) : ShellM Unit := do
  let levels ← match args with
    | [] => pure 1
    | arg :: _ => naturalArgument arg
  if levels = 0 then refuse ("Illegal number: " ++ args.headD "")
  setStatus 0
  let loops := (← get).loops
  if loops ≠ 0 then throw (halt (min levels loops))

/-- Drops arguments of the shell. -/
def runShift (args : List String) : ShellM Unit := do
  let count ← match args with
    | [] => pure 1
    | arg :: _ => naturalArgument arg
  let s ← get
  if s.args.length < count then refuse "can't shift that many"
  set { s with args := s.args.drop count, status := 0 }

/-! ## Variables -/

/-- A value in quotes that the shell could read back. -/
def quoteValue (s : String) : String :=
  "'" ++ "'\"'\"'".intercalate (s.splitOn "'") ++ "'"

/-- The name and value in an argument that may be an assignment. -/
def splitAssignment (arg : String) : String × Option String :=
  match arg.splitOn "=" with
  | name :: value :: more => (name, some ("=".intercalate (value :: more)))
  | _ => (arg, none)

/-- Gives variables a property, and a value if one comes with it. -/
def runDeclare (command : String) (has : Variable → Bool) (mark : Variable → Variable)
    (args : List String) : ShellM Unit := do
  match args with
  | [] | ["-p"] =>
    let chosen := ((← get).vars.filter fun (_, v) => has v).mergeSort fun a b => a.1 ≤ b.1
    chosen.forM fun (name, v) =>
      let value := (v.value.map fun t => "=" ++ quoteValue t).getD ""
      writeOut (command ++ " " ++ name ++ value ++ "\n")
  | args =>
    args.forM fun arg => do
      let (name, value) := splitAssignment arg
      if !Word.isName name then refuse (name ++ ": bad variable name")
      match value with
      | some v => assign name v
      | none => pure ()
      modify fun s => s.putVar name (mark (s.var name))
  setStatus 0

/-- Makes variables local to the function that runs. -/
def runLocal (args : List String) : ShellM Unit := do
  args.forM fun arg => do
    let (name, value) := splitAssignment arg
    match (← get).locals with
    | [] => refuse "not in a function"
    | frame :: outer =>
      if !Word.isName name then refuse (name ++ ": bad variable name")
      modify fun s =>
        { s with locals :=
            if frame.any (·.1 = name) then frame :: outer
            else ((name, s.vars.lookup name) :: frame) :: outer }
      match value with
      | some v => assign name v
      | none => pure ()
  setStatus 0

/-- Forgets variables or functions. -/
def runUnset (args : List String) : ShellM Unit := do
  let (functions, names) := match args with
    | "-f" :: rest => (true, rest)
    | "-v" :: rest => (false, rest)
    | rest => (false, rest)
  names.forM fun name => do
    if functions then modify fun s => { s with functions := s.functions.filter (·.1 ≠ name) }
    else if !Word.isName name then refuse (name ++ ": bad variable name")
    else if ((← get).var name).isFixed then refuse (name ++ ": is read only")
    else modify fun s => { s with vars := s.vars.filter (·.1 ≠ name) }
  setStatus 0

/-- The options of a shell, by letter and name. -/
def optionTable : List (Char × String) :=
  [('e', "errexit"), ('f', "noglob"), ('I', "ignoreeof"), ('i', "interactive"), ('m', "monitor"),
    ('n', "noexec"), ('s', "stdin"), ('x', "xtrace"), ('v', "verbose"), ('V', "vi"),
    ('E', "emacs"), ('C', "noclobber"), ('a', "allexport"), ('b', "notify"), ('u', "nounset"),
    ('p', "privileged")]

/-- The options of a shell that have no letter, and no effect. -/
def silentOptions : List String := ["nolog", "debug"]

/-- Writes which options are on. -/
def listOptions : ShellM Unit := do
  let s ← get
  let entries := (optionTable.map fun (c, name) => (name, s.hasOption c)) ++
    silentOptions.map (·, false)
  writeOut "Current option settings\n"
  entries.forM fun (name, on) =>
    writeOut (name ++ String.ofList (List.replicate (16 - name.length) ' ') ++
      (if on then "on\n" else "off\n"))

/-- Writes the commands that turn the options on and off as they are. -/
def writeOptions : ShellM Unit := do
  let s ← get
  let entries := (optionTable.map fun (c, name) => (name, s.hasOption c)) ++
    silentOptions.map (·, false)
  entries.forM fun (name, on) => writeOut ((if on then "set -o " else "set +o ") ++ name ++ "\n")

/-- Turns an option on or off. -/
def setOption (on : Bool) (c : Char) : ShellM Unit := do
  if !optionTable.any (·.1 = c) then
    refuse ("Illegal option " ++ (if on then "-" else "+") ++ c.toString)
  modify fun s =>
    let chosen := if on then c :: s.options else s.options.filter (· ≠ c)
    { s with options := (optionTable.map (·.1)).reverse.filter chosen.contains }

/-- Sets options and arguments of the shell. -/
def setOptions : List String → ShellM Unit
  | [] => return ()
  | "--" :: args => modify fun s => { s with args }
  | ["-"] => return ()
  | "-" :: args => modify fun s => { s with args }
  | ["-o"] => listOptions
  | ["+o"] => writeOptions
  | "-o" :: name :: rest => do
    match optionTable.find? (·.2 = name) with
    | some (c, _) => setOption true c
    | none => if !silentOptions.contains name then refuse ("Illegal option -o " ++ name)
    setOptions rest
  | "+o" :: name :: rest => do
    match optionTable.find? (·.2 = name) with
    | some (c, _) => setOption false c
    | none => if !silentOptions.contains name then refuse ("Illegal option +o " ++ name)
    setOptions rest
  | arg :: rest => do
    match arg.toList with
    | '-' :: c :: letters => do
      (c :: letters).forM (setOption true)
      setOptions rest
    | '+' :: c :: letters => do
      (c :: letters).forM (setOption false)
      setOptions rest
    | _ => modify fun s => { s with args := arg :: rest }

/-- Sets options and arguments of the shell, or writes its variables. -/
def runSet (args : List String) : ShellM Unit := do
  if args.isEmpty then
    let vars := (← get).vars.mergeSort fun a b => a.1 ≤ b.1
    vars.forM fun (name, v) =>
      match v.value with
      | some t => writeOut (name ++ "=" ++ quoteValue t ++ "\n")
      | none => pure ()
  else setOptions args
  setStatus 0

/-! ## Directories -/

/-- A place as a path from the root. -/
def placeText (p : Place) : String := "/" ++ "/".intercalate (p.map bytewise)

/-- Changes the directory. -/
def runCd (args : List String) : ShellM Unit := do
  let s ← get
  let args := args.filter fun a => a ≠ "-P" && a ≠ "-L" && a ≠ "--"
  let (path, shows) := match args with
    | [] => ((s.value? "HOME").getD "", false)
    | "-" :: _ => ((s.value? "OLDPWD").getD "", true)
    | path :: _ => (path, false)
  match s.files.find s.directory (if path = "" then "." else readable path) with
  | .ok (place, .directory) =>
    set { s with directory := place }
    modify fun t => (t.setVar "OLDPWD" (placeText s.directory)).setVar "PWD" (placeText place)
    if shows then writeOut (placeText place ++ "\n")
    setStatus 0
  | _ => refuse ("can't cd to " ++ path)

/-! ## Input -/

/-- The characters of a line for `read`, each with whether a backslash quoted it, and whether a line
break ended it. -/
def readRecord (raw : Bool) : (fuel : Nat) → ShellM (List GlobChar × Bool)
  | 0 => return ([], false)
  | fuel + 1 => do
    let line ← readLine 0
    let ended := line.getLast? = some '\n'
    let body := if ended then line.dropLast else line
    if raw then return (body.map (·, false), ended)
    let rec mark : List Char → List GlobChar × Bool
      | [] => ([], false)
      | ['\\'] => ([], true)
      | '\\' :: c :: rest =>
        let (more, joined) := mark rest
        ((c, true) :: more, joined)
      | c :: rest =>
        let (more, joined) := mark rest
        ((c, false) :: more, joined)
    let (chars, joined) := mark body
    if joined && ended then
      let (more, ended) ← readRecord raw fuel
      return (chars ++ more, ended)
    else return (chars, ended)

/-- Whether a character separates fields of a line. -/
def separates (separators : List Char) (c : GlobChar) : Bool := !c.2 && separators.contains c.1

/-- Whether a character separates fields and is blank. -/
def separatesBlank (separators : List Char) (c : GlobChar) : Bool :=
  separates separators c && (c.1 = ' ' || c.1 = '\t' || c.1 = '\n')

/-- A line without the blanks at its end. -/
def dropLastBlanks (separators : List Char) (cs : List GlobChar) : List GlobChar :=
  (cs.reverse.dropWhile (separatesBlank separators)).reverse

/-- Splits a line into so many fields, the last of which takes the rest. -/
def splitRecord (separators : List Char) (cs : List GlobChar) : (count : Nat) → List String
  | 0 => []
  | 1 =>
    let rest := dropLastBlanks separators (cs.dropWhile (separatesBlank separators))
    -- one separator at the end of the last field falls away, unless there are others in it
    let rest := match rest.reverse with
      | c :: before =>
        if separates separators c && !before.any (separates separators) then before.reverse
        else rest
      | [] => rest
    [String.ofList (rest.map (·.1))]
  | count + 1 =>
    let cs := cs.dropWhile (separatesBlank separators)
    let (field, rest) := cs.span fun c => !separates separators c
    let rest := rest.dropWhile (separatesBlank separators)
    let rest := match rest with
      | c :: more => if separates separators c then more else rest
      | [] => rest
    String.ofList (field.map (·.1)) :: splitRecord separators rest count

/-- Reads a line into variables. -/
def runRead (args : List String) : ShellM Unit := do
  let raw := args.contains "-r"
  let rec names : List String → List String
    | "-r" :: rest => names rest
    | "-p" :: _ :: rest => names rest
    | "--" :: rest => rest
    | rest => rest
  let names := names args
  if names.isEmpty then refuse "arg count"
  let s ← get
  let available := ((s.descriptors.lookup 0).map fun channel => (pending s channel).length).getD 0
  let (chars, ended) ← readRecord raw (available + 1)
  let values := splitRecord (← get).separators chars names.length
  (names.zip values).forM fun (name, value) => assign name value
  setStatus (statusOf ended)

/-! ## Texts -/

/-- Writes to output; a closed output is an error. -/
def writeOrRefuse (command text : String) : ShellM Unit := do
  if text = "" || (← writeTo 1 text) then setStatus 0
  else
    complain (command ++ ": I/O error")
    setStatus 1

/-- Writes by a format. -/
def runPrintf (args : List String) : ShellM Unit := do
  let args := if args.head? = some "--" then args.tail else args
  match args with
  | [] => refuse "usage: printf format [arg ...]"
  | format :: rest =>
    match format.toList with
    | '-' :: c :: _ => if format ≠ "-" then refuse ("Illegal option -" ++ c.toString)
    | _ => pure ()
    let printed := printfText format rest
    printed.reports.forM fun r => complain r
    match printed.fault with
    | some fault =>
      writeOut printed.text
      refuse fault
    | none =>
      writeOrRefuse "printf" printed.text
      if !printed.reports.isEmpty then setStatus 1

/-- Tests something. -/
def runTest (args : List String) : ShellM Unit := do
  match Test.outcome (← get) args with
  | .ok b => setStatus (statusOf b)
  | .error message => refuse message

/-- Tests something between brackets. -/
def runBracket (args : List String) : ShellM Unit :=
  if args.getLast? = some "]" then runTest args.dropLast else refuse "missing ]"

/-! ## Signals -/

/-- Signals by number and name, with what is said when one ends a command. -/
def signalTable : List (Nat × String × String) :=
  [(1, "HUP", "Hangup"), (2, "INT", ""), (3, "QUIT", "Quit"), (4, "ILL", "Illegal instruction"),
    (5, "TRAP", "Trace/breakpoint trap"), (6, "ABRT", "Aborted"), (7, "BUS", "Bus error"),
    (8, "FPE", "Floating point exception"), (9, "KILL", "Killed"),
    (10, "USR1", "User defined signal 1"), (11, "SEGV", "Segmentation fault"),
    (12, "USR2", "User defined signal 2"), (13, "PIPE", ""), (14, "ALRM", "Alarm clock"),
    (15, "TERM", "Terminated"), (16, "16", "Stack fault"), (17, "CHLD", ""), (18, "CONT", ""),
    (19, "STOP", ""), (20, "TSTP", ""), (21, "TTIN", ""), (22, "TTOU", ""), (23, "URG", ""),
    (24, "XCPU", "CPU time limit exceeded"), (25, "XFSZ", "File size limit exceeded"),
    (26, "VTALRM", "Virtual timer expired"), (27, "PROF", "Profiling timer expired"),
    (28, "WINCH", ""), (29, "IO", "I/O possible"), (30, "PWR", "Power failure"),
    (31, "SYS", "Bad system call")]

/-- The name of a signal. Those from 34 to 64 are counted from the nearer end. -/
def signalName (n : Nat) : String :=
  let above (n : Nat) : String := if n = 0 then "" else "+" ++ toString n
  let below (n : Nat) : String := if n = 0 then "" else "-" ++ toString n
  if 34 ≤ n && n < 50 then "RTMIN" ++ above (n - 34)
  else if 50 ≤ n && n ≤ 64 then "RTMAX" ++ below (64 - n)
  else ((signalTable.find? (·.1 = n)).map fun (_, name, _) => name).getD (toString n)

/-- The number of a signal, given by number or name. -/
def signalNumber? (word : String) : Option Nat :=
  if word ≠ "" && word.toList.all Char.isDigit then some (Sum.digitsValue 10 word.toList)
  else (List.range 65).find? fun n => n ≠ 0 && signalName n = word.toUpper

/-- Whether a signal does nothing unless it is asked for. -/
def isHarmless (n : Nat) : Bool := [0, 17, 18, 23, 28].contains n

/-- The condition a trap is set for, by the name it is known by. -/
def trapName? (word : String) : Option String :=
  if word = "0" || word = "EXIT" then some "EXIT"
  else match signalNumber? word with
    | some n => if n ≤ 64 then some (signalName n) else none
    | none => none

/-- Sets what is run on conditions, or writes it. -/
def runTrap (args : List String) : ShellM Unit := do
  let args := if args.head? = some "--" then args.tail else args
  match args with
  | [] =>
    (← get).traps.forM fun (name, action) =>
      writeOut ("trap -- " ++ quoteValue action ++ " " ++ name ++ "\n")
    setStatus 0
  | first :: rest =>
    let (action, names) := if rest.isEmpty then ("-", [first]) else (first, rest)
    setStatus 0
    names.forM fun word => do
      match trapName? word with
      | none =>
        writeErr ("trap: " ++ word ++ ": bad trap\n")
        setStatus 1
      | some name =>
        modify fun s =>
          let others := s.traps.filter (·.1 ≠ name)
          { s with traps := if action = "-" then others else others ++ [(name, action)] }

/-! ## Options of scripts -/

/-- Takes the next option of a script out of its arguments. -/
def runGetopts (args : List String) : ShellM Unit := do
  match args with
  | letters :: name :: given =>
    let s ← get
    let words := if given.isEmpty then s.args else given
    let index := ((s.value? "OPTIND").bind String.toNat?).getD 1
    let place := s.optionPlace
    let quiet := letters.startsWith ":"
    let finish (index place : Nat) (value : String) (argument : Option String) (status : Nat) :
        ShellM Unit := do
      assign name value
      modify fun s => { s.setVar "OPTIND" (toString index) with optionPlace := place }
      modify fun s => match argument with
        | some a => s.setVar "OPTARG" a
        | none => { s with vars := s.vars.filter (·.1 ≠ "OPTARG") }
      setStatus status
    match words[index - 1]? with
    | none => finish index 1 "?" none 1
    | some word =>
      match word.toList[0]?, word.toList[place]? with
      | some '-', some c =>
        if word = "--" then finish (index + 1) 1 "?" none 1
        else
          let atEnd := word.length ≤ place + 1
          let after := if atEnd then (index + 1, 1) else (index, place + 1)
          match letters.toList.dropWhile (· ≠ c) with
          | found :: more =>
            if found = ':' then finish after.1 after.2 "?" none 0
            else if more.head? = some ':' then
              if !atEnd then
                let argument := String.ofList (word.toList.drop (place + 1))
                finish (index + 1) 1 c.toString (some argument) 0
              else match words[index]? with
                | some argument => finish (index + 2) 1 c.toString (some argument) 0
                | none =>
                  if quiet then finish (index + 1) 1 ":" (some c.toString) 0
                  else
                    writeErr ("No arg for -" ++ c.toString ++ " option\n")
                    finish (index + 1) 1 "?" none 0
            else finish after.1 after.2 c.toString none 0
          | [] =>
            if quiet then finish after.1 after.2 "?" (some c.toString) 0
            else
              writeErr ("Illegal option -" ++ c.toString ++ "\n")
              finish after.1 after.2 "?" none 0
      | _, _ => finish index 1 "?" none 1
  | _ => refuse "Usage: getopts optstring var [arg...]"

/-! ## About commands -/

/-- What a name stands for as a command, in the words of `command -v` and of `type`. -/
def describe? (s : Session) (name : String) : Option (String × String) :=
  if Reader.keywords.contains name then some (name, name ++ " is a shell keyword")
  else if s.functions.any (·.1 = name) then some (name, name ++ " is a shell function")
  else if Reader.specialNames.contains name then
    some (name, name ++ " is a special shell builtin")
  else if builtinNames.contains name then some (name, name ++ " is a shell builtin")
  else (findProgram? s name).map fun (path, _) => (path, name ++ " is " ++ path)

/-- Says what names stand for as commands. -/
def runType (args : List String) : ShellM Unit := do
  setStatus 0
  args.forM fun name => do
    match describe? (← get) name with
    | some (_, text) => writeOut (text ++ "\n")
    | none =>
      writeOut (name ++ ": not found\n")
      setStatus 127

end TableScript.Shell
