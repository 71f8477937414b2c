import TableScript.Arguments
import TableScript.Eval.Script
import TableScript.Json.Parser
import TableScript.Log.Note
import TableScript.Text.Detail
import TableScript.Tree.Reader

/-!
# The program

A run of the program from the command line, as a function of what it finds around it.

1. `World` is what a run finds: its arguments, and a host with files, variables and standard input;
2. `Transcript` is what it leaves: writes to its two streams, in order, and the exit code;
3. `Program.run` reads the arguments, the settings, the script and the canned responses, in this
   order, and stops with a message at the first that cannot be used; then it runs the script.
-/

namespace TableScript

/-- What a run of the program finds around it. -/
structure World where
  args : List String
  /-- Files, variables and standard input, which commands of the script find too. -/
  host : Shell.Host := {}
  /-- Whether output goes to a terminal. -/
  isTerminal : Bool := false

/-- A variable of the environment. -/
def World.var (w : World) (name : String) : Option String := w.host.environment.lookup name

/-- Why a text cannot be read. -/
inductive ReadFault where
  | file (cause : FileFault)
  /-- What was read is no text. -/
  | notText
  deriving DecidableEq, Repr

/-- The wording of a failed read. -/
def ReadFault.message : ReadFault → String
  | file cause => cause.message
  | notText => "stream did not contain valid UTF-8"

/-- Where something is written. -/
inductive Stream where
  | out
  | err
  deriving DecidableEq, Repr

/-- What a run of the program leaves behind. -/
structure Transcript where
  /-- What was written, in order. -/
  writes : List (Stream × String) := []
  exitCode : UInt8 := 0

/-- Everything written to one stream. -/
def Transcript.written (t : Transcript) (s : Stream) : String :=
  String.join ((t.writes.filter (·.1 = s)).map (·.2))

/-- Why a run ends before its script starts. -/
inductive StartError where
  | config (path : String) (cause : ReadFault)
  | script (path : String) (cause : ReadFault)
  | malformedScript (path : String)
  | response (path : String) (cause : ReadFault)
  | malformedResponse (path : String)
  | pattern (text : String) (cause : Pattern.CompileError)
  deriving DecidableEq, Repr

/-- The wording of a failed start. -/
def StartError.message : StartError → String
  | config path cause => "reading config " ++ path ++ ": " ++ cause.message
  | script path cause => "reading " ++ path ++ ": " ++ cause.message
  | malformedScript path => path ++ " is not a valid script tree: malformed tree"
  | response path cause => "reading mock response " ++ path ++ ": " ++ cause.message
  | malformedResponse path => path ++ " is not valid JSON: malformed document"
  | pattern text cause => "invalid mock pattern '" ++ text ++ "': " ++ cause.message

/-- The settings in full. -/
def Config.detail (c : Config) : String :=
  recordDetail "Config" [("shell", optionDetail quoted c.shell),
    ("color", optionDetail boolDetail c.colour), ("quiet_shell", boolDetail c.quietShell),
    ("echo", boolDetail c.echo)]

namespace Program

/-- The name the program goes by. -/
def name : String := "rad"

/-- Which notes are written: those the variable asks for, else all from `info` on; with the debug
option all from `debug` on. The second component holds reports about the variable. -/
def logFilter (w : World) (debug : Bool) : LogFilter × List String :=
  let (f, reports) := LogFilter.parse ((w.var "RUST_LOG").getD "info")
  (if debug then f.insert ⟨none, some .debug⟩ else f, reports)

/-- A path that goes on from a directory. -/
def joinPath (dir rest : String) : String :=
  if dir.endsWith "/" then dir ++ rest else dir ++ "/" ++ rest

/-- Where the settings usually are: below an absolute directory given for settings, else below the
home directory. -/
def configPath? (w : World) : Option String :=
  match (w.var "XDG_CONFIG_HOME").filter (·.startsWith "/") with
  | some dir => some (joinPath dir (name ++ "/config"))
  | none => ((w.var "HOME").filter (· ≠ "")).map (joinPath · (".config/" ++ name ++ "/config"))

/-- The file with the settings, if there is one to read. -/
def configFile? (w : World) : ConfigChoice → Option String
  | .skip => none
  | .file path => some path
  | .search => (configPath? w).filter fun path => (w.host.files.find w.host.directory path).isOk

/-- Getting ready to run a script. What is read from standard input is gone from the host. -/
abbrev Start := EStateM StartError Shell.Host

/-- Takes everything that is left of standard input. -/
def takeInput : Start (List UInt8) := modifyGet fun h => (h.input, { h with input := [] })

/-- Reads bytes as a text. -/
def textOf (failure : ReadFault → StartError) (bytes : List UInt8) : Start String :=
  let text := textOfBytes bytes
  if bytesOfText text = bytes then return text else throw (failure .notText)

/-- Reads the text of a file. -/
def readText (failure : ReadFault → StartError) (path : String) : Start String := do
  let h ← get
  match h.files.find h.directory path with
  | .error cause => throw (failure (.file cause))
  | .ok (_, .file bytes _) => textOf failure bytes
  | .ok (_, .directory) => throw (failure (.file .isDirectory))
  | .ok (_, .closed) => throw (failure (.file .denied))
  | .ok (_, .program _) => throw (failure .notText)
  | .ok (_, .device (.descriptor 0)) => do textOf failure (← takeInput)
  | .ok (_, .device _) => return ""

/-- Reads the settings of a file, and what there is to note about them. -/
def loadConfig (w : World) (choice : ConfigChoice) : Start (Config × List Note) := do
  match configFile? w choice with
  | none => return ({}, [])
  | some path =>
    let (config, errors) := Config.load (← readText (.config path) path)
    return (config, errors.map (fun e => ⟨.program, .warn, path ++ ": " ++ e.text⟩) ++
      [⟨.program, .debug, "loaded config from " ++ path⟩])

/-- The settings of a run: those of the file, then the variables, then the options. -/
def settle (w : World) (a : Arguments) (c : Config) : Config :=
  let c := c.applyEnvironment w.var
  { c with
    quietShell := c.quietShell || a.quietShell
    colour := some (c.colour.getD w.isTerminal) }

/-- Whether a path stands for standard input: a dash, whatever empty steps follow it. -/
def isInput (path : String) : Bool :=
  match path.splitOn "/" with
  | "-" :: steps => steps.all fun step => step = "" || step = "."
  | _ => false

/-- Reads the script. -/
def loadScript (path : String) : Start Script := do
  let text ← if isInput path then textOf (.script path) (← takeInput)
    else readText (.script path) path
  match (Json.Draft.parse? text).bind Tree.readScript? with
  | some s => return s
  | none => throw (.malformedScript path)

/-- Reads a canned response. -/
def loadMock (m : MockRule) : Start (Pattern.Regex × Json) := do
  let text ← readText (.response m.path) m.path
  match Json.document? text, Pattern.Regex.compile m.pattern with
  | none, _ => throw (.malformedResponse m.path)
  | some _, .error cause => throw (.pattern m.pattern cause)
  | some document, .ok pattern => return (pattern, document)

/-- Where documents come from: from canned responses, if there are any. -/
def loadTransport (mocks : List MockRule) : Start Transport := do
  if mocks.isEmpty then return .none
  return .mock (← mocks.mapM loadMock)

/-- How notes are written. -/
structure Notebook where
  filter : LogFilter
  /-- Whether notes are coloured. -/
  coloured : Bool := false

/-- Whether notes are coloured: a variable of their own may say so, and otherwise it hangs on those
that say it to all programs. Error output is no terminal. -/
def coloursNotes (w : World) : Bool :=
  match w.var "RUST_LOG_STYLE" with
  | some "always" => true
  | some "never" => false
  | _ =>
    (Config.nonempty? w.var "NO_COLOR").isNone &&
      (Config.nonempty? w.var "CLICOLOR_FORCE").isSome

/-- What writing a note comes to. -/
def Notebook.writes (b : Notebook) (note : Note) : List (Stream × String) :=
  if b.filter.takes note then [(.err, note.line b.coloured)] else []

/-- What an event writes when it happens; lines wait for the end if they are not echoed. -/
def eventWrites (b : Notebook) (echo : Bool) : Event → List (Stream × String)
  | .out line => if echo then [(.out, line ++ "\n")] else []
  | .err line => if echo then [(.err, line ++ "\n")] else []
  | .log note => b.writes note
  | .rawOut text => [(.out, text)]
  | .rawErr text => [(.err, text)]
  | .request _ | .command .. => []

/-- The lines that waited for the end. -/
def waitingWrites (echo : Bool) (events : List Event) : List (Stream × String) :=
  if echo then []
  else
    events.filterMap (fun | .out line => some (.out, line ++ "\n") | _ => none) ++
    events.filterMap (fun | .err line => some (.err, line ++ "\n") | _ => none)

/-- The code the system sees: the lowest eight bits. -/
def systemCode (code : Int32) : UInt8 := code.toUInt32.toUInt8

/-- The code of a run that crashed. -/
def crashCode : UInt8 := 101

/-- Everything a script needs to be run. -/
structure Job where
  script : Script
  machine : Machine
  notebook : Notebook

/-- Runs a script and writes down what it did. -/
def Job.transcript (fuel : Nat) (j : Job) : Transcript :=
  let echo := j.machine.config.echo
  match j.script.run fuel j.machine with
  | .ok outcome m =>
    let events := m.events.toList
    { writes := events.flatMap (eventWrites j.notebook echo) ++ waitingWrites echo events ++
        outcome.diagnostics.map (fun d => (.err, d ++ "\n"))
      exitCode := systemCode outcome.exitCode }
  | .error _ m =>
    { writes := m.events.toList.flatMap (eventWrites j.notebook echo), exitCode := crashCode }

/-- Brings together what a script needs, after the settings are known. -/
def prepare (a : Arguments) (config : Config) (notebook : Notebook) : Start Job := do
  let script ← loadScript a.script
  let transport ← loadTransport a.mocks
  return {
    script, notebook
    machine :=
      { config, transport
        shell := .program config.shellProgram (← get)
        logLevel := notebook.filter.leastLevel } }

/-- What a failed start writes. -/
def startFailure (e : StartError) : Transcript :=
  { writes := [(.err, name ++ ": " ++ e.message ++ "\n")], exitCode := 1 }

/-- A transcript after some writes. -/
def after (writes : List (Stream × String)) (t : Transcript) : Transcript :=
  { t with writes := writes ++ t.writes }

/-- Runs the program with arguments that are in order. -/
def runWith (fuel : Nat) (w : World) (a : Arguments) : Transcript :=
  let (filter, reports) := logFilter w a.debug
  let notebook : Notebook := { filter, coloured := coloursNotes w }
  let warnings := reports.map fun r => (Stream.err, "warning: " ++ r ++ ", ignoring it\n")
  match loadConfig w a.config w.host with
  | .error e _ => after warnings (startFailure e)
  | .ok (loaded, notes) host =>
    let config := settle w a loaded
    let notes := notes ++ [⟨.program, .debug, "config: " ++ config.detail⟩]
    after (warnings ++ notes.flatMap notebook.writes)
      (match prepare a config notebook host with
        | .error e _ => startFailure e
        | .ok job _ => job.transcript fuel)

/-- Runs the program. -/
def run (fuel : Nat) (w : World) : Transcript :=
  match Arguments.parse w.args with
  | .error e =>
    { writes := [(.err, name ++ ": " ++ e.message ++ "\n" ++ Arguments.usage ++ "\n")]
      exitCode := 2 }
  | .ok a => runWith fuel w a

/-- The files a run may read. -/
def inputs (w : World) : List String :=
  match Arguments.parse w.args with
  | .error _ => []
  | .ok a =>
    (match a.config with
      | .skip => []
      | .file path => [path]
      | .search => (configPath? w).toList) ++
    (if isInput a.script then [] else [a.script]) ++ a.mocks.map (·.path)

end Program
end TableScript
