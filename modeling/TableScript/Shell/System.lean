import TableScript.Shell.Builtin
import TableScript.Shell.Calculate
import TableScript.Shell.Edit
import TableScript.Shell.FileUtility

/-!
# The system's shell

Runs commands as the system's shell does.

1. `exec` carries out a command. Its fuel keeps a command that never ends from being run forever;
2. a shell inside a shell works on a copy of the session and leaves only files and channels behind;
3. `Shell.run` runs a command with a program of the host, and gives back what it wrote and what has
   become of the host.
-/

namespace TableScript.Shell

/-! ## Redirection -/

/-- Reports that a file cannot be opened or made. -/
def openFault (path : String) (mode : OpenMode) (fault : FileFault) : ShellM Unit := do
  let isAbsent := fault = .notFound || fault = .notDirectory
  let what := if mode = .read then "open " else "create "
  let why := if !isAbsent then fault.text
    else if mode = .read then "No such file" else "Directory nonexistent"
  complain ("cannot " ++ what ++ path ++ ": " ++ why)

/-- Opens a file; nothing if it cannot be opened, which is reported. -/
def openFile (path : String) (mode : OpenMode) : ShellM (Option Nat) := do
  let s ← get
  let failure (fault : FileFault) : ShellM (Option Nat) := do
    openFault path mode fault
    return none
  match s.files.locate s.directory (readable path) with
  | .error fault => failure fault
  | .ok place =>
    match s.files.node? place with
    | none =>
      if mode = .read then failure .notFound
      else
        set { s with files := s.files.put place (.file [] false) }
        return some (← newChannel (.file place 0 mode))
    | some (.file _ executable) =>
      if mode = .write && s.hasOption 'C' then return ← failure .alreadyThere
      if mode = .write || mode = .replace then
        set { s with files := s.files.put place (.file [] executable) }
      return some (← newChannel (.file place 0 mode))
    | some .directory =>
      if mode = .read then return some (← newChannel .directory) else failure .isDirectory
    | some (.device (.descriptor n)) =>
      match s.descriptors.lookup n with
      | some channel => return some channel
      | none => failure .notFound
    | some _ => return some (← newChannel .null)

/-- Makes descriptors lead elsewhere; the result says whether all of them could. -/
def redirectAll (output : Command → ShellM String) : List Redirect → ShellM Bool
  | [] => return true
  | r :: rest => do
    let ok ← match r with
      | .file descriptor mode target => do
        match ← openFile (← expandText output target) mode with
        | some channel =>
          modify (Session.connect descriptor channel)
          pure true
        | none => pure false
      | .duplicate descriptor target => do
        let text ← expandText output target
        if text = "-" then
          modify (Session.disconnect descriptor)
          pure true
        else if text.length = 1 && text.toList.all Char.isDigit then
          match ← channelOf (Sum.digitsValue 10 text.toList) with
          | some channel =>
            modify (Session.connect descriptor channel)
            pure true
          | none =>
            complain (text ++ ": Bad file descriptor")
            pure false
        else
          modify fun s => { s with line := s.readTo + s.linesBefore }
          refuse "Syntax error: Bad fd number"
      | .document descriptor number => do
        let text ← expandText output ((← get).documents.getD number [])
        let channel ← newChannel (.source text.toList)
        modify (Session.connect descriptor channel)
        pure true
    if ok then redirectAll output rest else return false

/-! ## Shells inside shells -/

/-- Runs the trap for the end of a shell, if there is one, with the status it ends with. -/
def runExitTrap (runText : String → ShellM Unit) (status : Nat) : ShellM Unit := do
  setStatus status
  match (← get).traps.lookup "EXIT" with
  | none => return ()
  | some action =>
    modify fun s => { s with traps := s.traps.filter (·.1 ≠ "EXIT") }
    runText action
    setStatus status

/-- How a shell ended: with a status, or by a signal. -/
abbrev Ending := Except Nat Nat

/-- Runs to the end of a shell, its trap included. -/
def toEnd (runText : String → ShellM Unit) (x : ShellM Unit) : ShellM Ending := fun s =>
  let finish (status : Nat) (t : Session) : EStateM.Result Halt Session Ending :=
    match runExitTrap runText status t with
    | .ok () t => .ok (.ok t.status) t
    | .error (.exit code) t | .error (.returned code) t => .ok (.ok code) t
    | .error (.killed signal) t => .ok (.error signal) t
    | .error .exhausted t => .error .exhausted t
    | .error _ t => .ok (.ok 2) t
  match x s with
  | .ok () t => finish t.status t
  | .error (.exit code) t | .error (.returned code) t => finish code t
  | .error .failed t => finish 2 t
  | .error (.breakLoop _) t | .error (.continueLoop _) t => finish t.status t
  | .error (.killed signal) t => .ok (.error signal) t
  | .error .exhausted t => .error .exhausted t

/-- Runs in a shell of its own, which has no traps yet. A signal ends the shell around it too. -/
def isolated (runText : String → ShellM Unit) (x : ShellM Unit) : ShellM Unit := fun s =>
  match toEnd runText x { s with traps := [], loops := 0 } with
  | .ok (.ok status) t => .ok () { s.restoreOwn t with status }
  | .ok (.error signal) t => .error (.killed signal) (s.restoreOwn t)
  | .error h t => .error h (s.restoreOwn t)

/-- Runs in a shell of its own and takes the output, without the bytes that no text can hold. -/
def outputOf (runText : String → ShellM Unit) (x : ShellM Unit) : ShellM String := do
  let status := (← get).status
  let channel ← newChannel (.collected #[])
  withDescriptors (Session.connect 1 channel) (isolated runText x)
  modify fun s => { s with substituted := s.status, status }
  return String.ofList (((← get).collectedText channel).toList.filter (· ≠ '\x00'))

/-- The lines of a text, run one after the other. The fuel is more than their number. -/
def runLines (exec : Command → ShellM Unit) : (fuel : Nat) → Input → ShellM Unit
  | 0, _ => throw .exhausted
  | fuel + 1, input => do
    match { input with documents := (← get).documents }.readLine with
    | .error m =>
      modify fun s => { s with line := m.line + s.linesBefore }
      refuse ("Syntax error: " ++ m.fault.message)
    | .ok (none, _) => return ()
    | .ok (some c, rest) =>
      modify fun s => { s with documents := rest.documents, readTo := rest.line }
      exec c
      runLines exec fuel rest

/-- Runs a text. -/
def runText (exec : Command → ShellM Unit) (text : String) : ShellM Unit :=
  runLines exec (text.length + 2) { rest := text.toList }

/-! ## Programs -/

/-- Writes where programs are found. -/
def runWhich (args : List String) : ShellM Unit := do
  setStatus (statusOf !args.isEmpty)
  args.forM fun name => do
    match findProgram? (← get) name with
    | some (path, _) => writeOut (path ++ "\n")
    | none => setStatus 1

/-- Writes the directory. -/
def runPwd : ShellM Unit := do
  writeOut (placeText (← get).directory ++ "\n")
  setStatus 0

/-- Writes the name of the system. -/
def runUname : ShellM Unit := do
  writeOut "Linux\n"
  setStatus 0

/-- The programs of the system that run no others. -/
def programs : List (String × (List String → ShellM Unit)) :=
  [("basename", runBasename), ("cat", runCat), ("chmod", runChmod), ("cp", runTransfer "cp" false),
    ("cut", runCut), ("dirname", runDirname), ("echo", runPlainEcho), ("expr", Calculate.run),
    ("false", fun _ => setStatus 1), ("grep", runGrep), ("head", runEnds "head" true),
    ("ls", runLs), ("mkdir", runMkdir), ("mv", runTransfer "mv" true), ("nl", runNl),
    ("paste", runPaste), ("printenv", runPrintenv), ("printf", runPrintf), ("pwd", fun _ => runPwd),
    ("rev", runRev), ("rm", runRm), ("rmdir", runRmdir), ("sed", Edit.run), ("seq", runSeq),
    ("sleep", runSleep), ("sort", runSort), ("tac", runTac), ("tail", runEnds "tail" false),
    ("tee", runTee), ("test", runTest), ("[", runBracket), ("touch", runTouch), ("tr", runTr),
    ("true", fun _ => setStatus 0), ("uname", fun _ => runUname), ("uniq", runUniq), ("wc", runWc),
    ("which", runWhich), ("yes", runYes)]

/-- The programs that are shells. -/
def shellNames : List String := ["sh", "dash", "bash"]

/-- The programs that run other programs. -/
def runnerNames : List String := ["env", "xargs"]

/-- The files that every system has. -/
def systemFiles : FileSystem :=
  let directories := ["bin", "dev", "etc", "home", "lib", "opt", "proc", "root", "run", "sbin",
    "srv", "sys", "tmp", "usr", "var"].map fun name => ([name], FileNode.directory)
  let names := programs.map (·.1) ++ shellNames ++ runnerNames
  { nodes := directories ++ [(["usr", "bin"], .directory), (["usr", "lib"], .directory),
      (["usr", "local"], .directory), (["dev", "null"], .device .null),
      (["dev", "stdin"], .device (.descriptor 0)), (["dev", "stdout"], .device (.descriptor 1)),
      (["dev", "stderr"], .device (.descriptor 2))] ++
      names.flatMap fun name =>
        [(["usr", "bin", name], .program name), (["bin", name], .program name)] }

/-- Where programs are looked for when nothing else is said. -/
def usualPath : String := "/usr/local/sbin:/usr/local/bin:/usr/sbin:/usr/bin:/sbin:/bin"

/-- The session of a shell that is started with these variables. -/
def Session.start (program : String) (number : Nat) (environment : List (String × String))
    (directory : Place) : Session :=
  let vars := environment.map fun (name, value) =>
    (name, ({ value := some value, isExported := true } : Variable))
  let s : Session := { program, number, vars, directory }
  let s := ((s.setVar "IFS" " \t\n").setVar "OPTIND" "1").setVar "PS4" "+ "
  let s := s.putVar "PWD" { value := some (placeText directory), isExported := true }
  if (s.value? "PATH").isSome then s else s.setVar "PATH" usualPath

/-- Runs a shell as a program of its own. -/
def runShell (exec : Command → ShellM Unit) (dialect : Dialect) (program text : String)
    (args : List String) : ShellM Unit := do
  let s ← get
  let child := { Session.start program (s.number + 1) s.environment s.directory with
    dialect, args, files := s.files, channels := s.channels, descriptors := s.descriptors
    documents := s.documents }
  match toEnd (runText exec) (runText exec text) child with
  | .error h _ => throw h
  | .ok ending t =>
    set { s with files := t.files, channels := t.channels, documents := t.documents }
    match ending with
    | .ok status => setStatus status
    | .error signal =>
      let message := ((signalTable.find? (·.1 = signal)).map fun (_, _, text) => text).getD ""
      if message ≠ "" then writeErr (message ++ "\n")
      setStatus (128 + signal)

/-- The dialect of a shell by the name of its program. -/
def Dialect.ofName (program : String) : Dialect := if program = "bash" then .bash else .dash

/-- Starts a shell with the arguments of a program. -/
def startShell (exec : Command → ShellM Unit) (dialect : Dialect) (program : String)
    (args : List String) : ShellM Unit := do
  match args with
  | "-c" :: text :: rest =>
    runShell exec dialect (rest.headD program) text rest.tail
  | [] | ["-s"] => runShell exec dialect program (← readAll 0) []
  | "-s" :: rest => runShell exec dialect program (← readAll 0) rest
  | path :: rest =>
    match ← textOf path with
    | .ok text => runShell exec dialect path text rest
    | .error _ =>
      writeErr (program ++ ": 0: cannot open " ++ path ++ ": No such file\n")
      setStatus 2

/-- The words of a text, as `xargs` takes them: quotes and backslashes keep blanks in them. The fuel
is more than the number of characters. -/
def inputWords : (fuel : Nat) → (word : Option (List Char)) → List Char → List String
  | 0, _, _ => []
  | _, word, [] => (word.map fun w => String.ofList w.reverse).toList
  | fuel + 1, word, c :: rest =>
    let held := word.getD []
    if Sum.isBlank c then
      (word.map fun w => String.ofList w.reverse).toList ++ inputWords fuel none rest
    else if c = '\'' || c = '"' then
      let (inner, after) := rest.span (· ≠ c)
      inputWords fuel (some (inner.reverse ++ held)) after.tail
    else if c = '\\' then
      match rest with
      | e :: after => inputWords fuel (some (e :: held)) after
      | [] => inputWords fuel word []
    else inputWords fuel (some (c :: held)) rest

/-- Starts a program by what was found at its path. -/
def startNode (exec : Command → ShellM Unit) (start : String → List String → ShellM Unit)
    (name path : String) (node : FileNode) (args : List String) : ShellM Unit := do
  match node with
  | .file bytes _ => runShell exec .dash path (ofBytes bytes) args
  | .program program =>
    if shellNames.contains program then startShell exec (.ofName program) name args
    else match program with
      | "env" =>
        let (settings, command) := args.span fun a => a.toList.contains '='
        let before := (← get).vars
        settings.forM fun a => do
          let (name, value) := splitAssignment a
          modify fun s => s.putVar name { value, isExported := true }
        match command with
        | [] => runPrintenv []
        | name :: rest =>
          if (findProgram? (← get) name).isSome then start name rest
          else report "env" ("'" ++ name ++ "': No such file or directory") 127
        modify fun s => { s with vars := before }
      | "xargs" =>
        withOptions "xargs" "0rt" "nI" 1 args fun o => do
          let text ← readAll 0
          let words := inputWords (text.length + 1) none text.toList
          let (name, fixed) := match o.operands with
            | [] => ("echo", [])
            | name :: fixed => (name, fixed)
          match o.value? 'I', (o.value? 'n').bind String.toNat? with
          | some mark, _ =>
            (linesOf text).forM fun line =>
              start name (fixed.map fun a => line.intercalate (a.splitOn mark))
          | none, some n =>
            (List.range ((words.length + n - 1) / max n 1)).forM fun i =>
              start name (fixed ++ (words.drop (i * n)).take n)
          | none, none => if !(o.has 'r' && words.isEmpty) then start name (fixed ++ words)
      | _ =>
        match programs.lookup program with
        | some run =>
          modify fun s => { s with invoked := some name }
          run args
          modify fun s => { s with invoked := none }
        | none => setStatus 127
  | _ => setStatus 126

/-- Starts a program by its name. The fuel bounds how many programs start each other. -/
def startProgram (exec : Command → ShellM Unit) :
    (fuel : Nat) → String → List String → ShellM Unit
  | 0, _, _ => throw .exhausted
  | fuel + 1, name, args => do
    let s ← get
    match findProgram? s name with
    | some (path, node) => startNode exec (startProgram exec fuel) name path node args
    | none =>
      let isThere := name.toList.contains '/' && (s.files.find s.directory (readable name)).isOk
      if name = "" then
        complain (name ++ ": Permission denied")
        setStatus 127
      else if isThere then
        complain (name ++ ": Permission denied")
        setStatus 126
      else
        complain (name ++ match s.dialect with
          | .dash => ": not found"
          | .bash =>
            if name.toList.contains '/' then ": No such file or directory"
            else ": command not found")
        setStatus 127

/-! ## Commands by name -/

/-- Writes the name of a signal, which a status of a command may stand for, or all of them. -/
def listSignals : List String → ShellM Unit
  | [] => do
    writeOut ("\n".intercalate ("0" :: (List.range 64).map fun n => signalName (n + 1)) ++ "\n")
    setStatus 0
  | word :: _ => do
    let n ← naturalArgument word
    let n := if 128 < n then n - 128 else n
    if n = 0 || 64 < n then refuse ("invalid signal number or exit status: " ++ word)
    writeOut (signalName n ++ "\n")
    setStatus 0

/-- How a command to send signals is to be used. -/
def killUsage : String :=
  "Usage: kill [-s sigspec | -signum | -sigspec] [pid | job]... or\nkill -l [exitstatus]"

/-- Sends a signal to the shell itself, which does what its traps say. -/
def raise (runText : String → ShellM Unit) (signal : Nat) : ShellM Unit := do
  match (← get).traps.lookup (signalName signal) with
  | some action => if signal ≠ 9 then runText action else throw (.killed signal)
  | none => if !isHarmless signal then throw (.killed signal)

/-- Sends a signal to what was put in the background or to the shell itself. -/
def sendSignal (runText : String → ShellM Unit) (signal : Nat) (target : String) :
    ShellM Unit := do
  let s ← get
  let isNumber := target ≠ "" && target.toList.all Char.isDigit
  if target.startsWith "%" then refuse ("No such job: " ++ target)
  else if target.startsWith "-" then setStatus 0
  else if !isNumber then refuse ("Illegal number: " ++ target)
  else if target = toString s.number then raise runText signal
  else if s.jobs.any fun (number, _) => toString number = target then setStatus 0
  else
    complain "No such process\n"
    setStatus 1

/-- Sends a signal, by its number or name or in an option. -/
def runKill (runText : String → ShellM Unit) (args : List String) : ShellM Unit := do
  let send (signal : Nat) (targets : List String) : ShellM Unit := do
    if targets.isEmpty then refuse killUsage
    setStatus 0
    targets.forM (sendSignal runText signal)
  let sendNamed (word : String) (targets : List String) : ShellM Unit :=
    match signalNumber? word with
    | some signal => send signal targets
    | none => refuse ("invalid signal number or name: " ++ word)
  match args with
  | [] => refuse killUsage
  | first :: rest =>
    match first.toList with
    | '-' :: c :: word =>
      match signalNumber? (String.ofList (c :: word)) with
      | some signal => send signal rest
      | none =>
        if c = '-' && word.isEmpty then send 15 rest
        else if c = 'l' then listSignals rest
        else if c ≠ 's' then refuse ("Illegal option -" ++ c.toString)
        else match word, rest with
          | [], word :: targets => sendNamed word targets
          | [], [] => refuse "No arg for -s option"
          | word, targets => sendNamed (String.ofList word) targets
    | _ => send 15 args

/-- Runs the body of a function with arguments. -/
def enterFunction (exec : Command → ShellM Unit) (line : Nat) (body : Command)
    (args : List String) : ShellM Unit := fun s =>
  let entered := { s with args, linesBefore := line - 1, loops := 0, locals := [] :: s.locals }
  let leave (t : Session) : Session :=
    let vars := (t.locals.headD []).foldl (fun vars (name, old) =>
      let others := vars.filter fun v => v.1 ≠ name
      match old with
      | some v => others ++ [(name, v)]
      | none => others) t.vars
    { t with
      args := s.args, linesBefore := s.linesBefore, loops := s.loops
      locals := t.locals.tail, vars }
  match exec body entered with
  | .ok () t => .ok () (leave t)
  | .error (.returned code) t => .ok () { leave t with status := code }
  | .error h t => .error h (leave t)

/-- How many functions may run inside each other. -/
def functionDepth : Nat := 1000

/-- Runs a function with arguments, unless too many run already. -/
def runFunction (exec : Command → ShellM Unit) (line : Nat) (body : Command)
    (args : List String) : ShellM Unit := do
  if functionDepth ≤ (← get).locals.length then
    refuse ("Maximum function recursion depth (" ++ toString functionDepth ++ ") reached")
  enterFunction exec line body args

/-- Runs a built-in command that the shell survives whatever happens in it. -/
def surviving (x : ShellM Unit) : ShellM Unit := fun s =>
  match x s with
  | .error .failed t => .ok () { t with status := 2 }
  | r => r

/-- How far programs may start each other. -/
def startDepth : Nat := 64

/-- The file that a name given to the `.` command leads to. -/
def scriptPath? (s : Session) (name : String) : Option String :=
  if name.toList.contains '/' then some name
  else (((s.value? "PATH").getD "").splitOn ":").findSome? fun dir =>
    let path := if dir = "" then name else dir ++ "/" ++ name
    match s.files.find s.directory (readable path) with
    | .ok (_, .file ..) => some path
    | _ => none

/-- Keeps other names for commands, or writes them. -/
def runAlias (args : List String) : ShellM Unit := do
  setStatus 0
  let write (entry : String × String) : ShellM Unit :=
    writeOut (entry.1 ++ "=" ++ quoteValue entry.2 ++ "\n")
  if args.isEmpty then (← get).aliases.forM write
  args.forM fun arg => do
    match splitAssignment arg with
    | (name, some value) => modify fun s =>
        { s with aliases := (name, value) :: s.aliases.filter (·.1 ≠ name) }
    | (name, none) =>
      match (← get).aliases.lookup name with
      | some value => write (name, value)
      | none =>
        writeErr ("alias: " ++ name ++ " not found\n")
        setStatus 1

/-- Forgets other names for commands. -/
def runUnalias (args : List String) : ShellM Unit := do
  setStatus 0
  args.forM fun name => do
    if name = "-a" then modify fun s => { s with aliases := [] }
    else if (← get).aliases.any (·.1 = name) then
      modify fun s => { s with aliases := s.aliases.filter (·.1 ≠ name) }
    else
      writeErr ("unalias: " ++ name ++ " not found\n")
      setStatus 1

/-- Changes the permissions that new files do not get, or writes them. -/
def runUmask (args : List String) : ShellM Unit := do
  let letters (bits : Nat) : String :=
    String.join ([(4, "r"), (2, "w"), (1, "x")].map fun (bit, letter) =>
      if bits / bit % 2 = 0 then letter else "")
  setStatus 0
  match args with
  | [] =>
    let digits := String.ofList (Nat.toDigits 8 (← get).mask)
    writeOut (String.ofList (List.replicate (4 - digits.length) '0') ++ digits ++ "\n")
  | "-S" :: _ =>
    let mask := (← get).mask
    writeOut ("u=" ++ letters (mask / 64) ++ ",g=" ++ letters (mask / 8 % 8) ++ ",o=" ++
      letters (mask % 8) ++ "\n")
  | arg :: _ =>
    let cs := arg.toList
    if !(cs.head?.map Char.isDigit).getD false then refuse ("Illegal mode: " ++ arg)
    if !cs.all fun c => '0' ≤ c && c ≤ '7' then refuse ("Illegal number: " ++ arg)
    modify fun s => { s with mask := Sum.digitsValue 8 cs % 512 }

/-- Runs a special built-in command; nothing if the name is none. -/
def special? (exec : Command → ShellM Unit) (name : String) (args : List String) :
    Option (ShellM Unit) :=
  match name with
  | ":" => some (setStatus 0)
  | "." => some do
    match args with
    | [] => setStatus 0
    | path :: _ =>
      match scriptPath? (← get) path with
      | none => refuse (path ++ ": not found")
      | some found =>
        match ← textOf found with
        | .ok text =>
          setStatus 0
          fun s => match labelled found (runText exec text) s with
            | .error (.returned code) t => .ok () { t with status := code }
            | r => r
        | .error _ => refuse ("cannot open " ++ path ++ ": No such file")
  | "break" => some (runLeave .breakLoop args)
  | "continue" => some (runLeave .continueLoop args)
  | "eval" => some do
    setStatus 0
    runText exec (" ".intercalate args)
  | "exec" => some do
    match args with
    | [] => setStatus 0
    | name :: rest =>
      let isThere := (findProgram? (← get) name).isSome
      startProgram exec startDepth name rest
      if isThere then modify fun s => { s with traps := [] }
      throw (.exit (← get).status)
  | "exit" => some (runExit args)
  | "local" => some (runLocal args)
  | "export" => some (runDeclare "export" (·.isExported) ({ · with isExported := true }) args)
  | "readonly" => some (runDeclare "readonly" (·.isFixed) ({ · with isFixed := true }) args)
  | "return" => some (runReturn args)
  | "set" => some (runSet args)
  | "shift" => some (runShift args)
  | "times" => some (setStatus 0)
  | "trap" => some (runTrap args)
  | "unset" => some (runUnset args)
  | _ => none

/-- Runs a built-in command that is not special; nothing if the name is none. -/
def regular? (exec : Command → ShellM Unit) (name : String) (args : List String) :
    Option (ShellM Unit) :=
  match name with
  | "true" => some (setStatus 0)
  | "false" => some (setStatus 1)
  | "echo" => some do
    match (← get).dialect with
    | .dash => writeOrRefuse "echo" (echoText args)
    | .bash => runPlainEcho args
  | "printf" => some (runPrintf args)
  | "test" => some (runTest args)
  | "[" => some (runBracket args)
  | "cd" | "chdir" => some (runCd args)
  | "pwd" => some runPwd
  | "read" => some (runRead args)
  | "kill" => some (runKill (runText exec) args)
  | "wait" => some do
    let s ← get
    setStatus (args.foldl (fun _ arg =>
      ((s.jobs.find? fun (number, _) => toString number = arg).map (·.2)).getD 127) 0)
  | "jobs" => some (setStatus 0)
  | "getopts" => some (runGetopts args)
  | "type" => some (runType args)
  | "umask" => some (runUmask args)
  | "ulimit" => some do
    if args.isEmpty then writeOut "unlimited\n"
    setStatus 0
  | "alias" => some (runAlias args)
  | "unalias" => some (runUnalias args)
  | "hash" => some (setStatus 0)
  | _ => none

/-- Runs a command by its fields; with `direct` no function is taken. The fuel bounds how often
`command` stands before a name. -/
def runNamed (exec : Command → ShellM Unit) (direct : Bool) :
    (fuel : Nat) → String → List String → ShellM Unit
  | 0, _, _ => throw .exhausted
  | fuel + 1, name, args => do
    match special? exec name args with
    | some x => if direct then surviving (labelled name x) else labelled name x
    | none =>
      let s ← get
      match if direct then none else s.functions.lookup name with
      | some (line, body) => runFunction exec line body args
      | none =>
        if name = "command" then
          match args with
          | [] => setStatus 0
          | "-v" :: rest | "-V" :: rest =>
            setStatus 0
            rest.forM fun name => do
              match describe? (← get) name with
              | some (short, long) =>
                writeOut ((if args.head? = some "-v" then short else long) ++ "\n")
              | none =>
                if args.head? = some "-V" then writeOut (name ++ ": not found\n")
                setStatus 127
          | name :: rest => runNamed exec true fuel name rest
        else match regular? exec name args with
          | some x => surviving (labelled name x)
          | none => startProgram exec startDepth name args

/-! ## Running commands -/

/-- The commands whose arguments may be assignments, which are not split. -/
def declaringNames : List String := ["export", "readonly", "local"]

/-- Expands the words of a command. -/
def expandWords (output : Command → ShellM String) : List Word → ShellM (List String)
  | [] => return []
  | first :: rest => do
    let declares := ((Word.bare? first).map declaringNames.contains).getD false
    let head ← expandFields output first
    let tail ← rest.flatMapM fun w =>
      match declares, Word.assignment? w with
      | true, some (name, value) => do return [name ++ "=" ++ (← expandValue output value)]
      | _, _ => expandFields output w
    return head ++ tail

/-- Shows a command before it is run, if that is asked for. -/
def showCommand (assigned : List (String × String)) (fields : List String) : ShellM Unit := do
  let s ← get
  if s.hasOption 'x' then
    let words := assigned.map (fun (name, value) => name ++ "=" ++ value) ++ fields
    writeErr ((s.value? "PS4").getD "" ++ " ".intercalate words ++ "\n")

/-- Whether assignments before a command stay after it. -/
def keepsAssignments (name : String) : Bool := Reader.specialNames.contains name

/-- Runs a simple command. -/
def runSimple (exec : Command → ShellM Unit) (output : Command → ShellM String) (line : Nat)
    (assignments : List (String × Word)) (words : List Word) (redirects : List Redirect) :
    ShellM Unit := do
  modify fun s => { s with line, substituted := 0 }
  let fields ← expandWords output words
  let descriptors := (← get).descriptors
  let restore : ShellM Unit := modify fun s => { s with descriptors }
  if !(← redirectAll output redirects) then
    restore
    setStatus 2
    if (fields.head?.map keepsAssignments).getD false then throw .failed
    return ()
  let vars := (← get).vars
  let staying := (fields.head?.map keepsAssignments).getD true
  let assigned ← assignments.mapM fun (name, value) => do
    let text ← expandValue output value
    assign name text
    if !staying then modify fun s => s.putVar name { s.var name with isExported := true }
    return (name, text)
  showCommand assigned fields
  match fields with
  | [] =>
    restore
    setStatus (← get).substituted
  | name :: args =>
    let keepsDescriptors := name = "exec" && args.isEmpty
    let names := assignments.map (·.1)
    let finish (s : Session) : Session :=
      let s := if keepsDescriptors then s else { s with descriptors }
      if staying then s
      else names.foldl (fun s name =>
        match vars.lookup name with
        | some v => s.putVar name v
        | none => { s with vars := s.vars.filter (·.1 ≠ name) }) s
    fun s =>
      match runNamed exec false startDepth name args s with
      | .ok () t => .ok () (finish t)
      | .error h t => .error h (finish t)

/-- Runs the body of a loop; the result says whether the loop goes on. -/
def runRound (body : ShellM Unit) : ShellM Bool := fun s =>
  let outer (t : Session) : Session := { t with loops := s.loops }
  match body { s with loops := s.loops + 1 } with
  | .ok () t => .ok true (outer t)
  | .error (.continueLoop n) t =>
    if n ≤ 1 then .ok true (outer t) else .error (.continueLoop (n - 1)) (outer t)
  | .error (.breakLoop n) t =>
    if n ≤ 1 then .ok false (outer t) else .error (.breakLoop (n - 1)) (outer t)
  | .error h t => .error h (outer t)

/-- Runs a command once for each of these values of a variable. -/
def runEach (name : String) (body : ShellM Unit) : List String → ShellM Unit
  | [] => return ()
  | value :: rest => do
    assign name value
    if ← runRound body then runEach name body rest

/-- The commands of the first item one of whose patterns matches. -/
def chooseItem (output : Command → ShellM String) (text : List Char) :
    List (List Word × Command) → ShellM (Option Command)
  | [] => return none
  | (patterns, body) :: rest => do
    let matched ← patterns.anyM fun w => do
      let ps ← expandPieces output w
      return Glob.isMatch (Glob.parse (Piece.pattern ps)) text
    if matched then return some body else chooseItem output text rest

/-- Ends the shell if a command failed whose status nobody looks at. -/
def checkStatus (tested : Bool) : ShellM Unit := do
  let s ← get
  if !tested && s.status ≠ 0 && s.hasOption 'e' then throw (.exit s.status)

/-- Runs the condition of a loop and tells whether it holds; nothing if it leaves the loop. -/
def runCondition (condition : ShellM Unit) : ShellM (Option Bool) := do
  if ← runRound condition then return some ((← get).status = 0) else return none

mutual

/-- Runs a command; `tested` says whether its status is looked at. -/
def exec : (fuel : Nat) → (tested : Bool) → Command → ShellM Unit
  | 0, _, _ => throw .exhausted
  | fuel + 1, tested, c => do
    if (← get).hasOption 'n' then return ()
    let text := runText (exec fuel tested)
    let output (body : Command) : ShellM String := outputOf text (exec fuel false body)
    match c with
    | .nothing => setStatus 0
    | .simple line assignments words redirects =>
      runSimple (exec fuel tested) output line assignments words redirects
      checkStatus tested
    | .redirected line body redirects => do
      modify fun s => { s with line }
      let s ← get
      if ← redirectAll output redirects then
        withDescriptors id (exec fuel tested body)
      else setStatus 2
      modify fun t => { t with descriptors := s.descriptors }
      checkStatus tested
    | .pipe left right => do
      let channel ← newChannel (.collected #[])
      withDescriptors (Session.connect 1 channel) (isolated text (exec fuel false left))
      let piped ← newChannel (.source ((← get).collectedText channel).toList)
      withDescriptors (Session.connect 0 piped) (isolated text (exec fuel false right))
      checkStatus tested
    | .negated body => do
      exec fuel true body
      setStatus (statusOf ((← get).status ≠ 0))
    | .both left right => do
      exec fuel true left
      if (← get).status = 0 then exec fuel tested right
    | .either left right => do
      exec fuel true left
      if (← get).status ≠ 0 then exec fuel tested right
    | .sequence left right => do
      exec fuel tested left
      exec fuel tested right
    | .background body => do
      let null ← newChannel .null
      withDescriptors (Session.connect 0 null) (isolated text (exec fuel false body))
      modify fun s =>
        { s with jobs := (s.number + s.jobs.length + 1, s.status) :: s.jobs, status := 0 }
    | .subshell body => do
      isolated text (exec fuel false body)
      checkStatus tested
    | .branch condition yes no => do
      exec fuel true condition
      if (← get).status = 0 then exec fuel tested yes else exec fuel tested no
    | .loop untilTrue condition body => execRounds fuel tested 0 untilTrue condition body
    | .each line name words body => do
      modify fun s => { s with line }
      let values ← match words with
        | some words => words.flatMapM (expandFields output)
        | none => pure (← get).args
      setStatus 0
      runEach name (exec fuel tested body) values
    | .choose line word items => do
      modify fun s => { s with line }
      let value ← expandText output word
      match ← chooseItem output value.toList items with
      | some body => exec fuel tested body
      | none => setStatus 0
    | .define line name body => do
      modify fun s =>
        { s with functions := (name, line, body) :: s.functions.filter (·.1 ≠ name), status := 0 }

/-- Runs the rounds of a loop. Its status is that of the last round, which is given. -/
def execRounds : (fuel : Nat) → (tested : Bool) → (status : Nat) → (untilTrue : Bool) →
    Command → Command → ShellM Unit
  | 0, _, _, _, _, _ => throw .exhausted
  | fuel + 1, tested, status, untilTrue, condition, body => do
    match ← runCondition (exec fuel true condition) with
    | none => return ()
    | some holds =>
      if holds ≠ untilTrue then
        if ← runRound (exec fuel tested body) then
          execRounds fuel tested (← get).status untilTrue condition body
      else setStatus status

end

/-- How far a command may go. -/
def stepLimit : Nat := Nat.pow 10 6

/-! ## Running with a host -/

/-- What a program of the host leads to, or why it cannot be started. -/
def Host.program (h : Host) (name : String) : Except FileFault FileNode := do
  let look (path : String) : Except FileFault FileNode := do
    match ← h.files.find h.directory path with
    | (_, .program p) => return .program p
    | (_, .file bytes true) => return .file bytes true
    | _ => throw .denied
  if name = "" then throw .notFound
  else if name.toList.contains '/' then look name
  else
    let dirs := ((h.environment.lookup "PATH").getD usualPath).splitOn ":"
    match dirs.findSome? fun dir => (look (dir ++ "/" ++ name)).toOption with
    | some node => return node
    | none => throw .notFound

/-- Whether a text has a byte that no argument can hold. -/
def hasNull (s : String) : Bool := s.toList.contains '\x00'

/-- How many bytes an argument may have. -/
def argumentLimit : Nat := 131071

/-- Why a program cannot be started with a command, if it cannot. -/
def startFault? (h : Host) (program command : String) : Option String :=
  if hasNull program || hasNull command then some "nul byte found in provided data"
  else if (h.program program).isOk && argumentLimit < command.utf8ByteSize then
    some "Argument list too long (os error 7)"
  else match h.program program with
    | .ok _ => none
    | .error fault => some fault.message

/-- Runs a command with a program of the host. A program that a signal ended has no status of its
own. -/
def run (h : Host) (program command : String) : ShellReply × Host :=
  match startFault? h program command, h.program program with
  | none, .ok node =>
    let name := bytewise program
    let environment := h.environment.map fun (n, v) => (bytewise n, bytewise v)
    let s : Session := { Session.start name 4242 environment h.directory with
      files := h.files
      channels := #[.source (ofBytes h.input).toList, .collected #[], .collected #[]]
      descriptors := [(0, 0), (1, 1), (2, 2)] }
    let text := runText (exec stepLimit false)
    let exec := exec stepLimit false
    let start (node : FileNode) : ShellM Unit :=
      startNode exec (startProgram exec startDepth) name name node ["-c", bytewise command]
    let x := match node with
      | .program p =>
        if shellNames.contains p then do
          modify fun s => { s with dialect := .ofName p }
          text (bytewise command)
        else start node
      | _ => start node
    let (code, t) : Nat × Session := match toEnd text x s with
      | .ok (.ok status) t => (status, t)
      | .ok (.error _) t | .error _ t => (1, t)
    ({ stdout := readable (t.collectedText 1), stderr := readable (t.collectedText 2)
       code := .ofNat code },
      { h with files := t.files, input := bytesOf (String.ofList (pending t 0)) })
  | fault, _ =>
    ({ stderr := program ++ ": " ++ fault.getD FileFault.notFound.message, code := 127 }, h)

end TableScript.Shell
