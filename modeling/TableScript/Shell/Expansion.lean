import TableScript.Shell.Glob
import TableScript.Shell.Session

/-!
# Expansion

What words become before a command sees them.

1. The parts of a word expand to pieces. A piece knows whether it may be split and whether it was
   quoted;
2. the pieces are split into fields at the separators; separators that are blank never make an empty
   field, the others do;
3. a field that is a pattern becomes the names of the files that match it, if there are any.
-/

namespace TableScript.Shell

/-- A piece of an expanded word. -/
inductive Piece where
  | char (c : Char) (isQuoted : Bool)
  /-- A character that an expansion outside of quotes gave. -/
  | soft (c : Char)
  /-- The place of quotes: there is a field here, though it may be empty. -/
  | mark
  /-- Takes back a mark that nothing came after. -/
  | unmark
  /-- A field ends here. -/
  | cut
  deriving DecidableEq, Repr, Inhabited

namespace Piece

/-- The pieces of a text. -/
def ofText (text : String) (isQuoted : Bool) : List Piece :=
  text.toList.map fun c => if isQuoted then .char c true else .soft c

/-- The text of pieces that are not split. -/
def text (ps : List Piece) : String :=
  String.ofList (ps.filterMap fun
    | .char c _ | .soft c => some c
    | .cut => some ' '
    | .mark | .unmark => none)

/-- The pattern that pieces make. -/
def pattern (ps : List Piece) : List GlobChar :=
  ps.filterMap fun
    | .char c isQuoted => some (c, isQuoted)
    | .soft c => some (c, false)
    | _ => none

/-- Lets bare characters be split. -/
def soften : Piece → Piece
  | .char c false => .soft c
  | p => p

end Piece

/-- Fields while they are built: finished ones and the characters of the open one, latest first. -/
structure Fields where
  done : List (List GlobChar) := []
  current : Option (List GlobChar) := none
  /-- Whether a blank closed the last field, and nothing came since. -/
  afterBlank : Bool := false

namespace Fields

/-- Adds a character to the open field, which is opened if there is none. -/
def add (f : Fields) (c : GlobChar) : Fields :=
  { f with current := some (c :: f.current.getD []), afterBlank := false }

/-- Closes the open field. -/
def close (f : Fields) (byBlank : Bool) : Fields :=
  match f.current with
  | some cs => { done := cs.reverse :: f.done, afterBlank := byBlank }
  | none => f

/-- Adds a piece. -/
def push (separators : List Char) (f : Fields) : Piece → Fields
  | .char c isQuoted => f.add (c, isQuoted)
  | .soft c =>
    if !separators.contains c then f.add (c, false)
    else if c = ' ' || c = '\t' || c = '\n' then f.close true
    else if f.current.isSome then f.close false
    else if f.afterBlank then { f with afterBlank := false }
    else { f with done := [] :: f.done }
  | .mark => { f with current := some (f.current.getD []), afterBlank := false }
  | .unmark => if f.current = some [] then { f with current := none } else f
  | .cut => f.close false

/-- The fields of pieces. -/
def ofPieces (separators : List Char) (ps : List Piece) : List (List GlobChar) :=
  ((ps.foldl (push separators) {}).close false).done.reverse

end Fields

/-! ## Names of files -/

/-- The names in a directory, given by a path, that a pattern matches. -/
def matchingNames (s : Session) (path : String) (p : List GlobChar) : List String :=
  match s.files.find s.directory (if path = "" then "." else readable path) with
  | .ok (place, .directory) =>
    let glob := Glob.parse p
    let names := "." :: ".." :: (s.files.names place).map bytewise
    let wantsHidden := (p.head?.map (·.1)) = some '.'
    (names.filter fun name =>
      (wantsHidden || !name.startsWith ".") && Glob.isMatch glob name.toList).mergeSort (· ≤ ·)
  | _ => []

/-- Splits a pattern at its slashes. -/
def splitPath : List GlobChar → List (List GlobChar)
  | [] => [[]]
  | c :: rest =>
    match splitPath rest with
    | first :: more => if c.1 = '/' then [] :: first :: more else (c :: first) :: more
    | [] => [[c]]

/-- The paths that follow a path and match a pattern, name by name. -/
def matchingPaths (s : Session) (path : String) : List (List GlobChar) → List String
  | [] => [path]
  | p :: rest =>
    let names := if Glob.isPattern p then matchingNames s path p
      else [String.ofList (p.map (·.1))]
    names.flatMap fun name =>
      matchingPaths s (path ++ name ++ (if rest.isEmpty then "" else "/")) rest

/-- The fields that a field becomes. -/
def pathnames (s : Session) (field : List GlobChar) : List String :=
  let literal := String.ofList (field.map (·.1))
  if !Glob.isPattern field || s.hasOption 'f' then [literal]
  else
    let found := (matchingPaths s "" (splitPath field)).filter fun path =>
      (s.files.find s.directory (readable path)).isOk
    if found.isEmpty then [literal] else found

/-! ## Parts -/

/-- A text without the line breaks at its end. -/
def dropLineBreaks (s : String) : String :=
  String.ofList (s.toList.reverse.dropWhile (· = '\n')).reverse

/-- Puts a cut between the pieces of texts. -/
def cutBetween (texts : List (List Piece)) : List Piece := [Piece.cut].intercalate texts

/-- The pieces of a parameter. The arguments of the shell are several texts. -/
def paramPieces (s : Session) (name : String) (isQuoted : Bool) : List Piece :=
  if name = "@" && isQuoted then
    if s.args.isEmpty then [.unmark]
    else cutBetween (s.args.map fun arg => .mark :: Piece.ofText arg true)
  else if name = "*" && isQuoted then
    let separator := (s.value? "IFS").getD " \t\n"
    Piece.ofText ((String.ofList (separator.toList.take 1)).intercalate s.args) true
  else if name = "@" || name = "*" then
    cutBetween (s.args.map fun arg => Piece.ofText arg false)
  else Piece.ofText ((s.param? name).getD "") isQuoted

/-- The value of a sum; a sum without one is an error. -/
def sumValue (text : String) : ShellM String := do
  let s ← get
  match (Sum.parse text).eval (fun name => (s.param? name).getD "") [] with
  | .ok (n, set) =>
    set.reverse.forM fun (name, value) => assign name (toString value)
    return toString n
  | .error (.illegalNumber held) => refuse ("Illegal number: " ++ held)
  | .error .divisionByZero =>
    refuse ("arithmetic expression: division by zero: \"" ++ text ++ "\"")
  | .error (.expecting what) =>
    refuse ("arithmetic expression: expecting " ++ what ++ ": \"" ++ text ++ "\"")

/-- Whether a parameter counts as set: with `orEmpty` it has to hold something. -/
def countsAsSet (orEmpty : Bool) (value : Option String) : Bool :=
  match value with
  | none => false
  | some v => !orEmpty || v ≠ ""

/-- Fails for want of a parameter. -/
def missing {α : Type} (name : String) (orEmpty : Bool) : ShellM α :=
  refuse (name ++ ": parameter not set" ++ (if orEmpty then " or null" else ""))

/-- The pieces of a parameter with an operation; `argument` expands the operation's argument. -/
def operate (name : String) (op : ParamOp) (isQuoted hasArgument : Bool)
    (argument : ShellM (List Piece)) : ShellM (List Piece) := do
  let s ← get
  let value := s.param? name
  let asIs := paramPieces s name isQuoted
  let text := value.getD ""
  let other : ShellM (List Piece) := do
    let ps ← argument
    return if isQuoted then ps else ps.map Piece.soften
  match op with
  | .value =>
    if value.isNone && s.hasOption 'u' && name ≠ "@" && name ≠ "*" then missing name false
    else return asIs
  | .length => return Piece.ofText (toString text.length) isQuoted
  | .otherwise orEmpty => if countsAsSet orEmpty value then return asIs else other
  | .instead orEmpty => if countsAsSet orEmpty value then other else return []
  | .assign orEmpty =>
    if countsAsSet orEmpty value then return asIs
    else
      let v := Piece.text (← argument)
      assign name v
      return Piece.ofText v isQuoted
  | .demand orEmpty =>
    if countsAsSet orEmpty value then return asIs
    else if hasArgument then refuse (name ++ ": " ++ Piece.text (← argument))
    else missing name orEmpty
  | .cutStart longest => do
    let p := Glob.parse (Piece.pattern (← argument))
    return Piece.ofText (String.ofList (Glob.cutStart p longest text.toList)) isQuoted
  | .cutEnd longest => do
    let p := Glob.parse (Piece.pattern (← argument))
    return Piece.ofText (String.ofList (Glob.cutEnd p longest text.toList)) isQuoted
  | .bad => refuse "Bad substitution"

/-- Whether a bare tilde before these parts stands for the home directory. -/
def endsTilde (colons : Bool) (rest : Word) : Bool :=
  match rest.head? with
  | none => true
  | some (.char c false) => c = '/' || (colons && c = ':')
  | some _ => false

/-- Puts the home directory in place of a bare tilde that a word starts with, and with `colons` also
after each colon. -/
def withHome (home : String) (colons : Bool) : (atStart : Bool) → Word → Word
  | _, [] => []
  | atStart, .char '~' false :: rest =>
    if atStart && endsTilde colons rest then
      home.toList.map (.char · true) ++ withHome home colons false rest
    else .char '~' false :: withHome home colons false rest
  | _, .char ':' false :: rest => .char ':' false :: withHome home colons colons rest
  | _, part :: rest => part :: withHome home colons false rest

/-- A word with the home directory in it, if there is one. -/
def atHome (s : Session) (colons : Bool) (w : Word) : Word :=
  match s.value? "HOME" with
  | some home => withHome home colons true w
  | none => w

/-- Expands a part; `output` runs a command and gives its output. The fuel bounds how deep words
stand inside each other. -/
def expandPart (output : Command → ShellM String) : (fuel : Nat) → Part → ShellM (List Piece)
  | 0, _ => throw .exhausted
  | _, .char c isQuoted => return [.char c isQuoted]
  | _, .quotes => return [.mark]
  | fuel + 1, .parameter name op argument isQuoted => do
    let s ← get
    operate name op isQuoted (!argument.isEmpty)
      ((atHome s false argument).flatMapM (expandPart output fuel))
  | fuel + 1, .arithmetic text isQuoted => do
    let ps ← text.flatMapM (expandPart output fuel)
    return Piece.ofText (← sumValue (Piece.text ps)) isQuoted
  | _, .command body isQuoted => do
    return Piece.ofText (dropLineBreaks (← output body)) isQuoted

/-- How deep words may stand inside each other. -/
def expansionDepth : Nat := 200

/-- Expands the parts of a word. -/
def expandPieces (output : Command → ShellM String) (w : Word) : ShellM (List Piece) := do
  (atHome (← get) false w).flatMapM (expandPart output expansionDepth)

/-- Expands a word to fields. -/
def expandFields (output : Command → ShellM String) (w : Word) : ShellM (List String) := do
  let ps ← expandPieces output w
  let s ← get
  return (Fields.ofPieces s.separators ps).flatMap (pathnames s)

/-- Expands a word to one text. -/
def expandText (output : Command → ShellM String) (w : Word) : ShellM String := do
  return Piece.text (← expandPieces output w)

/-- Expands the value of an assignment. -/
def expandValue (output : Command → ShellM String) (w : Word) : ShellM String := do
  return Piece.text (← (atHome (← get) true w).flatMapM (expandPart output expansionDepth))

end TableScript.Shell
