import TableScript.Program

/-!
# Entry point

Reads what the program needs, runs it, and writes what it left behind.
-/

namespace TableScript

/-- What is at a path, if anything is. -/
def readNode? (path : String) : IO (Option FileNode) := do
  try
    return some (.file (← IO.FS.readBinFile path).toList false)
  catch
    | .inappropriateType .. => return some .directory
    | .permissionDenied .. => return some .closed
    | _ => return none

/-- Files with what is at a path added, where there is nothing yet. -/
def addInput (here : Place) (files : FileSystem) (path : String) : IO FileSystem := do
  if (files.find here path).isOk then return files
  match ← readNode? path with
  | none => return files
  | some node =>
    let steps := (path.splitOn "/").filter fun step => step ≠ "" && step ≠ "."
    return files.insert (if path.startsWith "/" then steps else here ++ steps) node

/-- The variables of the environment that a run may read. -/
def variableNames : List String :=
  ["HOME", "PATH", "XDG_CONFIG_HOME", "RUST_LOG", "RUST_LOG_STYLE", "NO_COLOR", "CLICOLOR_FORCE",
    "RAD_SHELL", "RAD_QUIET_SHELL", "SHELL"]

/-- How far a script may go. -/
def fuelLimit : Nat := Nat.pow 10 12

/-- What a run with these arguments finds around it. -/
def readWorld (args : List String) : IO World := do
  let environment ← variableNames.filterMapM fun name => do
    return (← IO.getEnv name).map (name, ·)
  let directory := ((← IO.currentDir).toString.splitOn "/").filter (· ≠ "")
  let host : Shell.Host :=
    { files := Shell.systemFiles.insert directory .directory, directory, environment }
  let bare : World := { args, host, isTerminal := ← (← IO.getStdout).isTty }
  let files ← (Program.inputs bare).foldlM (addInput directory) host.files
  let input := (← (← IO.getStdin).readBinToEnd).toList
  return { bare with host := { host with files, input } }

end TableScript

open TableScript in
/-- Runs the program. -/
def main (args : List String) : IO UInt32 := do
  let t := Program.run fuelLimit (← readWorld args)
  for (stream, text) in t.writes do
    match stream with
    | .out => IO.print text
    | .err => IO.eprint text
  return t.exitCode.toUInt32
