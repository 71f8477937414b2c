import TableScript.Shell.Arithmetic
import TableScript.Shell.Word

/-!
# Sessions

The state of a shell while it runs.

1. Variables, arguments, functions, options and traps are the shell's own: a shell inside a shell
   starts with a copy and leaves the copy behind.
2. Files and open channels are shared. A descriptor leads to a channel, and several descriptors can
   lead to the same one, so that what is read or written through one is seen through all.
-/

namespace TableScript.Shell

/-- What an open descriptor leads to. -/
inductive Channel where
  /-- Takes everything and gives nothing. -/
  | null
  /-- A directory, which nothing can be read from. -/
  | directory
  /-- A text to read, with what is left of it. -/
  | source (rest : List Char)
  /-- A place where what is written is kept. -/
  | collected (chunks : Array String)
  | file (place : Place) (position : Nat) (mode : OpenMode)
  deriving Inhabited

/-- A variable of a shell. -/
structure Variable where
  /-- Nothing if the variable only has properties. -/
  value : Option String := none
  isExported : Bool := false
  isFixed : Bool := false
  deriving Inhabited

/-- Why a shell does not go on with the next command. -/
inductive Halt where
  | exit (code : Nat)
  /-- An error that ends a shell, unless it happens inside a command that can survive it. -/
  | failed
  | killed (signal : Nat)
  | breakLoop (levels : Nat)
  | continueLoop (levels : Nat)
  | returned (code : Nat)
  | exhausted
  deriving DecidableEq, Repr

/-- Which shell it is. They differ in what `echo` makes of escapes and in how they report. -/
inductive Dialect where
  | dash
  | bash
  deriving DecidableEq, Repr, Inhabited

/-- The state of a shell. -/
structure Session where
  /-- The name the shell was started by. -/
  program : String
  dialect : Dialect := .dash
  /-- The name by which the program that runs was started. -/
  invoked : Option String := none
  /-- The number that stands for the shell itself. -/
  number : Nat := 4242
  /-- The built-in command or the script that runs, as reports name it. -/
  label : Option String := none
  /-- The line of the command that runs. -/
  line : Nat := 1
  /-- The line up to which commands were read. -/
  readTo : Nat := 1
  /-- How many lines stand before the function that runs. -/
  linesBefore : Nat := 0
  vars : List (String × Variable) := []
  args : List String := []
  functions : List (String × Nat × Command) := []
  options : List Char := []
  traps : List (String × String) := []
  aliases : List (String × String) := []
  /-- The permissions that new files do not get. -/
  mask : Nat := 18
  status : Nat := 0
  /-- The status of the last command whose output was taken. -/
  substituted : Nat := 0
  /-- How many loops run around the command. -/
  loops : Nat := 0
  /-- What the variables of the functions that run were before they became local. -/
  locals : List (List (String × Option Variable)) := []
  /-- Where in an argument the next option of a script stands. -/
  optionPlace : Nat := 1
  /-- The numbers and statuses of the commands that were put in the background, latest first. -/
  jobs : List (Nat × Nat) := []
  directory : Place := []
  files : FileSystem := {}
  channels : Array Channel := #[]
  descriptors : List (Nat × Nat) := []
  /-- The texts that stood among the commands. -/
  documents : Array Word := #[]
  deriving Inhabited

/-- A computation of a shell. -/
abbrev ShellM := EStateM Halt Session

/-! ## Variables -/

namespace Session

/-- The variable with a name. -/
def var (s : Session) (name : String) : Variable := (s.vars.lookup name).getD {}

/-- The value of a variable, if it has one. -/
def value? (s : Session) (name : String) : Option String := (s.var name).value

/-- Replaces a variable. -/
def putVar (s : Session) (name : String) (v : Variable) : Session :=
  if s.vars.any (·.1 = name) then
    { s with vars := s.vars.map fun (n, old) => if n = name then (n, v) else (n, old) }
  else { s with vars := s.vars ++ [(name, v)] }

/-- Gives a variable a value. -/
def setVar (s : Session) (name value : String) : Session :=
  s.putVar name { s.var name with value := some value }

/-- The characters that separate fields. -/
def separators (s : Session) : List Char := ((s.value? "IFS").getD " \t\n").toList

/-- The value of a parameter that stands for one text. -/
def param? (s : Session) (name : String) : Option String :=
  match name with
  | "?" => some (toString s.status)
  | "$" => some (toString s.number)
  | "#" => some (toString s.args.length)
  | "0" => some s.program
  | "!" => s.jobs.head?.map fun (number, _) => toString number
  | "-" => some (String.ofList s.options)
  | "@" | "*" => if s.args.isEmpty then none else some (" ".intercalate s.args)
  | _ =>
    match name.toNat? with
    | some n => s.args[n - 1]?
    | none => s.value? name

/-- The variables that commands started by the shell can see. -/
def environment (s : Session) : List (String × String) :=
  s.vars.filterMap fun (name, v) => if v.isExported then v.value.map (name, ·) else none

/-- Whether an option is on. -/
def hasOption (s : Session) (c : Char) : Bool := s.options.contains c

end Session

/-- Sets the status. -/
def setStatus (code : Nat) : ShellM Unit := modify fun s => { s with status := code }

/-- A status from a truth: zero for yes. -/
def statusOf (b : Bool) : Nat := if b then 0 else 1

/-! ## Channels -/

/-- Opens a channel. -/
def newChannel (c : Channel) : ShellM Nat :=
  modifyGet fun s => (s.channels.size, { s with channels := s.channels.push c })

/-- The channel a descriptor leads to. -/
def channelOf (descriptor : Nat) : ShellM (Option Nat) := do
  return (← get).descriptors.lookup descriptor

/-- Makes a descriptor lead to a channel. -/
def Session.connect (descriptor channel : Nat) (s : Session) : Session :=
  { s with descriptors := (descriptor, channel) :: s.descriptors.filter (·.1 ≠ descriptor) }

/-- Makes a descriptor lead nowhere. -/
def Session.disconnect (descriptor : Nat) (s : Session) : Session :=
  { s with descriptors := s.descriptors.filter (·.1 ≠ descriptor) }

/-- Old bytes with new ones written over them from a position on. -/
def overwrite (old : List UInt8) (position : Nat) (new : List UInt8) : List UInt8 :=
  old.take position ++ List.replicate (position - old.length) 0 ++ new ++
    old.drop (position + new.length)

/-- Writes to a channel; the result says whether it can be written to. -/
def writeChannel (channel : Nat) (text : String) : ShellM Bool := do
  let s ← get
  match s.channels[channel]? with
  | some .null => return true
  | some (.collected chunks) =>
    -- the session lets go of the channel while it grows
    modify fun s => { s with channels := s.channels.setIfInBounds channel .null }
    modify fun s =>
      { s with channels := s.channels.setIfInBounds channel (.collected (chunks.push text)) }
    return true
  | some (.file place position mode) =>
    let (old, executable) := match s.files.node? place with
      | some (.file bytes executable) => (bytes, executable)
      | _ => ([], false)
    let position := if mode = .append then old.length else position
    let new := bytesOf text
    if mode = .read then return false
    set { s with
      files := s.files.put place (.file (overwrite old position new) executable)
      channels := s.channels.setIfInBounds channel (.file place (position + new.length) mode) }
    return true
  | _ => return false

/-- Writes to a descriptor; the result says whether it can be written to. -/
def writeTo (descriptor : Nat) (text : String) : ShellM Bool := do
  match ← channelOf descriptor with
  | some channel => writeChannel channel text
  | none => return false

/-- Writes to output. -/
def writeOut (text : String) : ShellM Unit := do
  if text ≠ "" then discard (writeTo 1 text)

/-- Writes to error output. -/
def writeErr (text : String) : ShellM Unit := discard (writeTo 2 text)

/-- What can be read from a channel, and how far. -/
def pending (s : Session) (channel : Nat) : List Char :=
  match s.channels[channel]? with
  | some (.source rest) => rest
  | some (.file place position _) =>
    match s.files.node? place with
    | some (.file bytes _) => (ofBytes (bytes.drop position)).toList
    | _ => []
  | _ => []

/-- Takes characters that were read out of a channel. -/
def consume (channel count : Nat) : ShellM Unit := modify fun s =>
  match s.channels[channel]? with
  | some (.source rest) =>
    { s with channels := s.channels.setIfInBounds channel (.source (rest.drop count)) }
  | some (.file place position mode) =>
    { s with channels := s.channels.setIfInBounds channel (.file place (position + count) mode) }
  | _ => s

/-- Reads everything there is to read from a descriptor. -/
def readAll (descriptor : Nat) : ShellM String := do
  match ← channelOf descriptor with
  | some channel =>
    let text := pending (← get) channel
    consume channel text.length
    return String.ofList text
  | none => return ""

/-- Reads a line from a descriptor, with its line break if it has one. -/
def readLine (descriptor : Nat) : ShellM (List Char) := do
  match ← channelOf descriptor with
  | some channel =>
    let (line, rest) := (pending (← get) channel).span (· ≠ '\n')
    let line := line ++ rest.take 1
    consume channel line.length
    return line
  | none => return []

/-- Everything that was written to a channel. -/
def Session.collectedText (s : Session) (channel : Nat) : String :=
  match s.channels[channel]? with
  | some (.collected chunks) => String.join chunks.toList
  | _ => ""

/-! ## Failing -/

/-- Reports something about the command that runs. -/
def complain (message : String) : ShellM Unit := do
  let s ← get
  let line := match s.dialect with
    | .dash => toString (s.line - s.linesBefore)
    | .bash => "line " ++ toString s.line
  let place := s.program ++ ": " ++ line ++ ": "
  writeErr (place ++ ((s.label.map (· ++ ": ")).getD "") ++ message ++ "\n")

/-- Reports an error and stops. -/
def refuse {α : Type} (message : String) : ShellM α := do
  complain message
  setStatus 2
  throw .failed

/-- Gives a variable a value, unless it is fixed. -/
def assign (name value : String) : ShellM Unit := do
  if !Word.isName name then refuse (name ++ ": bad variable name")
  else if ((← get).var name).isFixed then refuse (name ++ ": is read only")
  else modify fun s =>
    let v := s.var name
    s.putVar name { v with value := some value, isExported := v.isExported || s.hasOption 'a' }

/-- What a shell keeps to itself when another runs inside it. -/
def Session.restoreOwn (s t : Session) : Session :=
  { t with
    label := s.label, line := s.line, linesBefore := s.linesBefore, vars := s.vars
    args := s.args, functions := s.functions, options := s.options, traps := s.traps
    aliases := s.aliases, mask := s.mask, loops := s.loops, locals := s.locals
    directory := s.directory, descriptors := s.descriptors, jobs := s.jobs }

/-- Runs under a label of its own. -/
def labelled (label : String) (x : ShellM Unit) : ShellM Unit := fun s =>
  match x { s with label := some label } with
  | .ok () t => .ok () { t with label := s.label }
  | .error h t => .error h { t with label := s.label }

/-- Runs and puts the descriptors back. -/
def withDescriptors (change : Session → Session) (x : ShellM Unit) : ShellM Unit := fun s =>
  match x (change s) with
  | .ok () t => .ok () { t with descriptors := s.descriptors }
  | .error h t => .error h { t with descriptors := s.descriptors }

end TableScript.Shell
