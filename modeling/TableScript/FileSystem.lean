/-!
# Files

A tree of files and directories, by their places. A place is the list of names on the way from the
root; a path is a text that leads from a directory to a place.

1. `locate` follows a path. Every name but the last has to be a directory that is there;
2. the place found may be empty: whether something has to be there is for the operation to say.
-/

namespace TableScript

/-- Why a file cannot be used. -/
inductive FileFault where
  | notFound
  /-- What should be open is not. -/
  | notOpen
  | denied
  | alreadyThere
  | notDirectory
  | isDirectory
  | nameTooLong
  | notEmpty
  deriving DecidableEq, Repr, Inhabited

namespace FileFault

/-- The number the system gives a fault. -/
def number : FileFault → Nat
  | notFound => 2
  | notOpen => 9
  | denied => 13
  | alreadyThere => 17
  | notDirectory => 20
  | isDirectory => 21
  | nameTooLong => 36
  | notEmpty => 39

/-- The system's words for a fault. -/
def text : FileFault → String
  | notFound => "No such file or directory"
  | notOpen => "Bad file descriptor"
  | denied => "Permission denied"
  | alreadyThere => "File exists"
  | notDirectory => "Not a directory"
  | isDirectory => "Is a directory"
  | nameTooLong => "File name too long"
  | notEmpty => "Directory not empty"

/-- The words for a fault together with its number. -/
def message (f : FileFault) : String := f.text ++ " (os error " ++ toString f.number ++ ")"

end FileFault

/-- A file that is no place for data. -/
inductive Device where
  /-- Takes everything and gives nothing. -/
  | null
  /-- Stands for an open descriptor. -/
  | descriptor (number : Nat)
  deriving DecidableEq, Repr, Inhabited

/-- What can be at a place. -/
inductive FileNode where
  | file (bytes : List UInt8) (executable : Bool)
  | directory
  | device (d : Device)
  /-- A program of the system, by its name. -/
  | program (name : String)
  /-- Something that may not be read. -/
  | closed
  deriving DecidableEq, Repr, Inhabited

/-- The names on the way from the root. -/
abbrev Place := List String

/-- A tree of files; the root is always there. -/
structure FileSystem where
  nodes : List (Place × FileNode) := []
  deriving Inhabited

namespace FileSystem

/-- What is at a place. -/
def node? (fs : FileSystem) (p : Place) : Option FileNode :=
  if p.isEmpty then some .directory else fs.nodes.lookup p

/-- The longest name a file may have, in bytes. -/
def longestName : Nat := 255

/-- Follows names from a place. -/
def walk (fs : FileSystem) (here : Place) : List String → Except FileFault Place
  | [] => .ok here
  | name :: rest =>
    match fs.node? here with
    | none => .error .notFound
    | some .directory =>
      if name = "" || name = "." then walk fs here rest
      else if name = ".." then walk fs here.dropLast rest
      else if longestName < name.utf8ByteSize then .error .nameTooLong
      else walk fs (here ++ [name]) rest
    | some _ => .error .notDirectory

/-- The number of bytes that a path has to stay below. -/
def pathLimit : Nat := 4096

/-- Follows a path from a directory, or from the root if it starts with a slash. -/
def locate (fs : FileSystem) (here : Place) (path : String) : Except FileFault Place :=
  if path = "" then .error .notFound
  else if pathLimit ≤ path.utf8ByteSize then .error .nameTooLong
  else fs.walk (if path.startsWith "/" then [] else here) (path.splitOn "/")

/-- What a path leads to. -/
def find (fs : FileSystem) (here : Place) (path : String) :
    Except FileFault (Place × FileNode) := do
  let p ← fs.locate here path
  match fs.node? p with
  | some node => return (p, node)
  | none => throw .notFound

/-- Puts something at a place. -/
def put (fs : FileSystem) (p : Place) (node : FileNode) : FileSystem :=
  if (fs.nodes.lookup p).isSome then
    { nodes := fs.nodes.map fun (q, old) => if q = p then (q, node) else (q, old) }
  else { nodes := fs.nodes ++ [(p, node)] }

/-- Puts a directory at every place on the way to a place, where there is nothing. -/
def makeWay (fs : FileSystem) (p : Place) : FileSystem :=
  (List.range p.length).foldl (fun fs n =>
    let way := p.take n
    if (fs.node? way).isSome then fs else fs.put way .directory) fs

/-- Puts something at a place, with the directories on the way to it. -/
def insert (fs : FileSystem) (p : Place) (node : FileNode) : FileSystem :=
  (fs.makeWay p).put p node

/-- Takes a place and everything below it away. -/
def remove (fs : FileSystem) (p : Place) : FileSystem :=
  { nodes := fs.nodes.filter fun (q, _) => !p.isPrefixOf q }

/-- The names in a directory. -/
def names (fs : FileSystem) (p : Place) : List String :=
  fs.nodes.filterMap fun (q, _) =>
    if q.length = p.length + 1 && p.isPrefixOf q then q.getLast? else none

/-- Moves a place and everything below it. -/
def move (fs : FileSystem) (source target : Place) : FileSystem :=
  { nodes := (fs.remove target).nodes.map fun (q, node) =>
      if source.isPrefixOf q then (target ++ q.drop source.length, node) else (q, node) }

end FileSystem
end TableScript
