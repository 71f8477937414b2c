import TableScript.Text.Blank

/-!
# Configuration

A configuration is read from lines `key = value`. Blank lines and lines that start with `;` or `#`
are skipped; a line that is no valid setting is reported and has no effect. Variables of the
environment are applied on top.
-/

namespace TableScript

/-- The settings of a run. -/
structure Config where
  /-- The program that runs shell commands. -/
  shell : Option String := none
  /-- Whether styles are shown; nothing leaves it to the terminal. -/
  colour : Option Bool := none
  /-- Whether shell commands run unannounced. -/
  quietShell : Bool := false
  /-- Whether output is written as it arises. -/
  echo : Bool := true
  deriving DecidableEq, Repr, Inhabited

/-- A line of a configuration that is no valid setting. -/
structure ConfigError where
  /-- Counts from one. -/
  line : Nat
  message : String
  deriving DecidableEq, Repr

/-- The report of a bad line. -/
def ConfigError.text (e : ConfigError) : String := "line " ++ toString e.line ++ ": " ++ e.message

/-- Puts a character before a text that is cut into lines. -/
def putBefore (c : Char) (lines : List (List Char)) : List (List Char) :=
  if c = '\n' then ['\n'] :: lines
  else
    match lines with
    | [] => [[c]]
    | line :: lines => (c :: line) :: lines

/-- The lines of a text, each with the line break that ends it. -/
def brokenLines (cs : List Char) : List (List Char) := cs.foldr putBefore []

/-- A line without its line break: a line feed, and a carriage return right before it. -/
def unbroken (line : List Char) : List Char :=
  if line.getLast? = some '\n' then
    if line.dropLast.getLast? = some '\r' then line.dropLast.dropLast else line.dropLast
  else line

/-- The lines of a text, without their line breaks. A final line break ends the last line. -/
def textLines (s : String) : List String :=
  (brokenLines s.toList).map fun line => String.ofList (unbroken line)

namespace Config

/-- A yes-or-no value, in any case. -/
def readBool? (value : String) : Option Bool :=
  let word := value.map Char.toLower
  if ["on", "true", "yes", "1"].contains word then some true
  else if ["off", "false", "no", "0"].contains word then some false
  else none

/-- A yes-or-no value of a key, or the report that it is none. -/
def readBool (key value : String) : Except String Bool :=
  match readBool? value with
  | some b => .ok b
  | none => .error (key ++ ": expected a boolean, got '" ++ value ++ "'")

/-- Writes one setting. -/
def set (c : Config) (key value : String) : Except String Config :=
  if key = "shell" then
    if value = "" then .error "shell: value cannot be empty" else .ok { c with shell := some value }
  else if key = "color" then (readBool key value).map fun b => { c with colour := some b }
  else if key = "quiet_shell" then (readBool key value).map fun b => { c with quietShell := b }
  else if key = "echo" then (readBool key value).map fun b => { c with echo := b }
  else .error ("unknown key '" ++ key ++ "'")

/-- The text inside one pair of double quotes, or the text itself. -/
def unquote (s : String) : String :=
  match s.toList with
  | '"' :: rest => if rest.getLast? = some '"' then String.ofList rest.dropLast else s
  | _ => s

/-- Splits at the first equals sign. -/
def splitSetting? (line : String) : Option (String × String) :=
  let (key, rest) := line.toList.span (· ≠ '=')
  match rest with
  | _ :: value => some (String.ofList key, String.ofList value)
  | [] => none

/-- What a line of a configuration says. -/
inductive Line where
  | skipped
  | setting (key value : String)
  | malformed (text : String)

/-- Reads one line. -/
def Line.ofText (raw : String) : Line :=
  let line := trim raw
  if line = "" || line.startsWith ";" || line.startsWith "#" then .skipped
  else match splitSetting? line with
    | some (key, value) => .setting (trim key) (unquote (trim value))
    | none => .malformed line

/-- Applies one line, or reports it. -/
def applyLine (c : Config) (raw : String) : Except String Config :=
  match Line.ofText raw with
  | .skipped => .ok c
  | .setting key value => c.set key value
  | .malformed text => .error ("expected `key = value`, got `" ++ text ++ "`")

/-- Applies lines from line number `n` on; bad lines change nothing. -/
def applyLines (c : Config) (n : Nat) : List String → Config × List ConfigError
  | [] => (c, [])
  | raw :: rest =>
    match c.applyLine raw with
    | .ok c => c.applyLines (n + 1) rest
    | .error message =>
      let (c, errors) := c.applyLines (n + 1) rest
      (c, ⟨n, message⟩ :: errors)

/-- The configuration a text gives, and its bad lines. -/
def load (text : String) : Config × List ConfigError := applyLines {} 1 (textLines text)

/-- A variable that is set to something. -/
def nonempty? (var : String → Option String) (name : String) : Option String :=
  (var name).filter (· ≠ "")

/-- Applies the variables of an environment. -/
def applyEnvironment (c : Config) (var : String → Option String) : Config :=
  let shell := match nonempty? var "RAD_SHELL" with
    | some sh => some sh
    | none => c.shell.or (nonempty? var "SHELL")
  let colour := if (nonempty? var "NO_COLOR").isSome then some false else c.colour
  let quietShell := match var "RAD_QUIET_SHELL" with
    | some v => (readBool? v).getD (v ≠ "")
    | none => c.quietShell
  { c with shell, colour, quietShell }

/-- The program that runs shell commands. -/
def shellProgram (c : Config) : String := c.shell.getD "/bin/sh"

end Config
end TableScript
