import TableScript.Log.Level
import TableScript.Pattern.Search
import TableScript.Text.Blank

/-!
# Which notes are written

A filter is written as directives separated by commas, then perhaps a slash and a pattern that the
text of a note has to match. A directive is a level for all notes, or the beginning of a source's
name with a level for the notes of such sources. The directive with the longest name decides; of
two with the same name the later one counts. A malformed directive is reported and left out.
-/

namespace TableScript

/-- A level for the notes of some sources. -/
structure LogDirective where
  /-- The beginning of the sources' names; nothing stands for all sources. -/
  source : Option String
  /-- The least important level taken; nothing means no notes at all. -/
  level : Option LogLevel
  deriving DecidableEq, Repr, Inhabited

/-- Which notes are written. -/
structure LogFilter where
  directives : List LogDirective := []
  pattern : Option Pattern.Regex := none

namespace LogFilter

/-- A level by its name, in any case; `off` takes no notes. -/
def readLevel? (word : String) : Option (Option LogLevel) :=
  let word := word.map Char.toUpper
  if word = "OFF" then some none
  else (LogLevel.all.find? (·.name = word)).map some

/-- Reads one directive, or reports what is wrong with it. -/
def readDirective (text : String) : Except String LogDirective :=
  match text.splitOn "=" with
  | [word] =>
    match readLevel? word with
    | some level => .ok ⟨none, level⟩
    | none => .ok ⟨some word, some .trace⟩
  | [source, level] =>
    let level := trim level
    if level = "" then .ok ⟨some source, some .trace⟩
    else match readLevel? level with
      | some level => .ok ⟨some source, level⟩
      | none => .error ("invalid logging spec '" ++ level ++ "'")
  | _ => .error ("invalid logging spec '" ++ text ++ "'")

/-- Adds a directive in place of one with the same name. -/
def insert (f : LogFilter) (d : LogDirective) : LogFilter :=
  if f.directives.any (·.source = d.source) then
    { f with directives := f.directives.map fun e => if e.source = d.source then d else e }
  else { f with directives := f.directives ++ [d] }

/-- Reads directives into a filter; the second component holds the reports. -/
def readDirectives (text : String) : LogFilter × List String :=
  ((text.splitOn ",").map trim).foldl (fun (f, reports) word =>
    if word = "" then (f, reports)
    else match readDirective word with
      | .ok d => (f.insert d, reports)
      | .error report => (f, reports ++ [report])) ({}, [])

/-- Reads a filter; the second component holds the reports. -/
def parse (text : String) : LogFilter × List String :=
  match text.splitOn "/" with
  | [directives] => readDirectives directives
  | [directives, pattern] =>
    let (f, reports) := readDirectives directives
    match Pattern.Regex.compile pattern with
    | .ok p => ({ f with pattern := some p }, reports)
    | .error e => (f, reports ++ ["invalid regex filter - " ++ e.message])
  | _ => ({}, ["invalid logging spec '" ++ text ++ "' (too many '/'s)"])

/-- The least important level that any source's notes may have. -/
def leastLevel (f : LogFilter) : Option LogLevel :=
  if f.directives.isEmpty then some .error
  else (f.directives.filterMap (·.level)).foldl (fun least l =>
    if l.isTaken least then least else some l) none

/-- The level for a source; errors only if there is no directive at all. -/
def level (f : LogFilter) (source : String) : Option LogLevel :=
  if f.directives.isEmpty then some .error
  else
    let fitting := f.directives.filter fun d =>
      match d.source with
      | some name => source.startsWith name
      | none => true
    let longest := fitting.foldl (fun best d =>
      match best with
      | none => some d
      | some b => if (b.source.getD "").utf8ByteSize ≤ (d.source.getD "").utf8ByteSize then some d
        else some b) none
    longest.bind (·.level)

/-- Whether the text of a note may be written. -/
def admits (f : LogFilter) (text : String) : Bool :=
  match f.pattern with
  | some p => p.isMatch text
  | none => true

end LogFilter
end TableScript
