import TableScript.Eval.Machine

/-!
# The outside world

Running a command and fetching a document, through what the machine has for it.
-/

namespace TableScript.Run

/-- Answers a command from the answers given in advance. -/
def scriptedReply (replies : List ShellReply) : ShellReply × List ShellReply :=
  match replies with
  | [] => ({}, [])
  | r :: rest => (r, rest)

/-- Runs a command with a program of a host; what is not captured goes straight out. -/
def programReply (host : Shell.Host) (program text : String) (captureOut captureErr quiet : Bool) :
    Run ShellReply := do
  if !quiet then log .shell .info ("⚡️ " ++ text)
  let (reply, left) := Shell.run host program text
  if (Shell.startFault? host program text).isSome then return reply
  else
    modify fun m => { m with shell := .program program left }
    if !captureOut && reply.stdout ≠ "" then emit (.rawOut reply.stdout)
    if !captureErr && reply.stderr ≠ "" then emit (.rawErr reply.stderr)
    log .shell .debug ("`" ++ text ++ "` exited with " ++ toString reply.code)
    return { reply with
      stdout := if captureOut then reply.stdout else ""
      stderr := if captureErr then reply.stderr else "" }

/-- Runs a command. -/
def execute (text : String) (captureOut captureErr quiet : Bool) : Run ShellReply := do
  emit (.command text captureOut captureErr quiet)
  match (← get).shell with
  | .scripted replies =>
    let (reply, rest) := scriptedReply replies
    modify fun m => { m with shell := .scripted rest }
    return reply
  | .program name host => programReply host name text captureOut captureErr quiet

/-- Fetches a document. -/
def fetch (url : String) : Run Json := do
  match (← get).transport with
  | .none =>
    fail (.fetch url "no HTTP transport configured (use -m to mock responses)")
  | .mock rules =>
    emit (.request url)
    match rules.find? fun (pattern, _) => pattern.isMatch url with
    | some (pattern, document) =>
      log .transport .debug ("mock response for " ++ url ++ " (rule /" ++ pattern.text ++ "/)")
      return document
    | none => fail (.fetch url "no mock response matches")
  | .scripted answers =>
    emit (.request url)
    match answers with
    | [] => fail (.fetch url "no HTTP transport configured (use -m to mock responses)")
    | answer :: rest =>
      modify fun m => { m with transport := .scripted rest }
      ensure answer

end TableScript.Run
