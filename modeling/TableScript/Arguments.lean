/-!
# Command line

The words of a command line, read from left to right: clusters of one-letter options, words that
options take, and the one script. `Arguments.words` writes settings back as a command line.
-/

namespace TableScript

/-- How the configuration file is chosen. -/
inductive ConfigChoice where
  /-- The usual place, if there is a file. -/
  | search
  /-- No file. -/
  | skip
  /-- This file. -/
  | file (path : String)
  deriving DecidableEq, Repr, Inhabited

/-- A canned response: addresses that match the pattern are answered with the file. -/
structure MockRule where
  pattern : String
  path : String
  deriving DecidableEq, Repr, Inhabited

/-- The settings of a command line. -/
structure Arguments where
  config : ConfigChoice := .search
  debug : Bool := false
  quietShell : Bool := false
  mocks : List MockRule := []
  script : String := ""
  deriving DecidableEq, Repr, Inhabited

/-- Why a command line is refused. -/
inductive UsageError where
  | missingScript
  | tooManyArguments (count : Nat)
  | unknownOption (c : Char)
  | mockMissing
  | mockMalformed (word : String)
  deriving DecidableEq, Repr

/-- The wording of a refusal. -/
def UsageError.message : UsageError → String
  | missingScript => "missing script file"
  | tooManyArguments count => "too many arguments (" ++ toString count ++ ")"
  | unknownOption c => "unknown option: -" ++ c.toString
  | mockMissing => "-m requires a <url-regex>=<json-file> argument"
  | mockMalformed word => "-m expects <url-regex>=<json-file>, got '" ++ word ++ "'"

namespace Arguments

/-- The line that says how to call the program. -/
def usage : String :=
  "Usage: rad [-dq] [-f[<config>]] [-m <url-regex>=<json-file>]... <script.json>"

/-- Splits at the last equals sign. -/
def splitLast? (cs : List Char) : Option (List Char × List Char) :=
  let (after, rest) := cs.reverse.span (· ≠ '=')
  match rest with
  | _ :: before => some (before.reverse, after.reverse)
  | [] => none

/-- Reads a canned response: a pattern and a file, neither of them empty. -/
def readMock (word : String) : Except UsageError MockRule :=
  match splitLast? word.toList with
  | some (pattern, path) =>
    if pattern.isEmpty || path.isEmpty then .error (.mockMalformed word)
    else .ok ⟨String.ofList pattern, String.ofList path⟩
  | none => .error (.mockMalformed word)

/-- Whether a word starts with a dash. -/
def isDashed (word : String) : Bool := word.toList.head? = some '-'

/-- Reads a cluster of options; what an option takes from the words after it is gone from the
second component. -/
def readCluster (a : Arguments) (rest : List String) :
    List Char → Except UsageError (Arguments × List String)
  | [] => .ok (a, rest)
  | 'd' :: cs => readCluster { a with debug := true } rest cs
  | 'q' :: cs => readCluster { a with quietShell := true } rest cs
  | 'f' :: [] =>
    match rest with
    | file :: script :: more =>
      if isDashed file then .ok ({ a with config := .skip }, rest)
      else .ok ({ a with config := .file file }, script :: more)
    | _ => .ok ({ a with config := .skip }, rest)
  | 'f' :: cs => .ok ({ a with config := .file (String.ofList cs) }, rest)
  | 'm' :: [] =>
    match rest with
    | word :: more => (readMock word).map fun m => ({ a with mocks := a.mocks ++ [m] }, more)
    | [] => .error .mockMissing
  | 'm' :: cs =>
    (readMock (String.ofList cs)).map fun m => ({ a with mocks := a.mocks ++ [m] }, rest)
  | c :: _ => .error (.unknownOption c)

/-- Reads the words: settings, and the words that are no options. The fuel is the number
of words. -/
def readWords (a : Arguments) (positional : List String) (words : List String) :
    (fuel : Nat) → Except UsageError (Arguments × List String)
  | 0 => .ok (a, positional)
  | fuel + 1 =>
    match words with
    | [] => .ok (a, positional)
    | word :: rest =>
      if word = "--" then .ok (a, positional ++ rest)
      else if !isDashed word || word = "-" then readWords a (positional ++ [word]) rest fuel
      else do
        let (a, rest) ← readCluster a rest (word.toList.drop 1)
        readWords a positional rest fuel

/-- Reads a command line. -/
def parse (words : List String) : Except UsageError Arguments := do
  let (a, positional) ← readWords {} [] words words.length
  match positional with
  | [] => .error .missingScript
  | [script] => .ok { a with script }
  | many => .error (.tooManyArguments many.length)

/-- The command line that asks for these settings. -/
def words (a : Arguments) : List String :=
  (if a.debug then ["-d"] else []) ++ (if a.quietShell then ["-q"] else []) ++
  (match a.config with
    | .search => []
    | .skip => ["-f"]
    | .file path => ["-f" ++ path]) ++
  a.mocks.map (fun m => "-m" ++ m.pattern ++ "=" ++ m.path) ++ ["--", a.script]

end Arguments
end TableScript
