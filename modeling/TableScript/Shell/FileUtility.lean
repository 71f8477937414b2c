import TableScript.Shell.Option

/-!
# Programs that change files

The programs of the system that make, copy, move, list and remove files.
-/

namespace TableScript.Shell

/-- The words of some programs for a file that something cannot be done with. -/
def cannot (what path : String) (fault : FileFault) : String :=
  "cannot " ++ what ++ " '" ++ path ++ "': " ++ fault.text

/-- Runs an operation on each operand, of which there has to be one. -/
def eachOperand (program : String) (o : Options) (x : String → ShellM Unit) : ShellM Unit := do
  if o.operands.isEmpty then misuse program "missing operand" 1
  else o.operands.forM x

/-- Makes directories. -/
def runMkdir (args : List String) : ShellM Unit :=
  withOptions "mkdir" "pv" "m" 1 args fun o => eachOperand "mkdir" o fun path => do
    let s ← get
    let parents := o.has 'p'
    let start := if path.startsWith "/" then [] else s.directory
    let names := ((readable path).splitOn "/").filter fun n => n ≠ "" && n ≠ "."
    let located := if parents then .ok (start ++ names)
      else s.files.locate s.directory (readable (String.ofList
        (path.toList.reverse.dropWhile (· = '/')).reverse))
    match located with
    | .error fault => report "mkdir" (cannot "create directory" path fault) 1
    | .ok place =>
      match s.files.node? place with
      | none => set { s with files := s.files.insert place .directory }
      | some .directory =>
        if !parents then report "mkdir" (cannot "create directory" path .alreadyThere) 1
      | some _ => report "mkdir" (cannot "create directory" path .alreadyThere) 1

/-- Removes empty directories. -/
def runRmdir (args : List String) : ShellM Unit :=
  withOptions "rmdir" "pv" "" 1 args fun o => eachOperand "rmdir" o fun path => do
    let s ← get
    let failure (fault : FileFault) : ShellM Unit :=
      report "rmdir" ("failed to remove '" ++ path ++ "': " ++ fault.text) 1
    match s.files.find s.directory (readable path) with
    | .error fault => failure fault
    | .ok (place, .directory) =>
      if (s.files.names place).isEmpty then set { s with files := s.files.remove place }
      else failure .notEmpty
    | .ok _ => failure .notDirectory

/-- Removes files. -/
def runRm (args : List String) : ShellM Unit :=
  withOptions "rm" "rRfvi" "" 1 args fun o => do
    let force := o.has 'f'
    if o.operands.isEmpty && force then setStatus 0
    else eachOperand "rm" o fun path => do
      let s ← get
      match s.files.find s.directory (readable path) with
      | .error fault =>
        if !(force && fault = .notFound) then report "rm" (cannot "remove" path fault) 1
      | .ok (place, .directory) =>
        if o.has 'r' || o.has 'R' then set { s with files := s.files.remove place }
        else report "rm" (cannot "remove" path .isDirectory) 1
      | .ok (place, _) => set { s with files := s.files.remove place }

/-- Makes files where there are none. -/
def runTouch (args : List String) : ShellM Unit :=
  withOptions "touch" "acm" "dtr" 1 args fun o => do
    if o.operands.isEmpty then misuse "touch" "missing file operand" 1
    else o.operands.forM fun path => do
      let s ← get
      match s.files.locate s.directory (readable path) with
      | .error fault => report "touch" ("cannot touch '" ++ path ++ "': " ++ fault.text) 1
      | .ok place =>
        if (s.files.node? place).isNone && !o.has 'c' then
          set { s with files := s.files.put place (.file [] false) }

/-- Where a source goes: into a directory under its own name, else to the target itself. -/
def destination (s : Session) (source : Place) (target : String) : Except FileFault Place := do
  let place ← s.files.locate s.directory (readable target)
  return match s.files.node? place with
    | some .directory => place ++ source.getLast?.toList
    | _ => place

/-- Copies or moves files. -/
def runTransfer (program : String) (moves : Bool) (args : List String) : ShellM Unit :=
  withOptions program "rRfaivnp" "" 1 args fun o => do
    match o.operands.reverse with
    | [] => misuse program "missing file operand" 1
    | [only] =>
      misuse program ("missing destination file operand after '" ++ only ++ "'") 1
    | target :: sources =>
      sources.reverse.forM fun source => do
        let s ← get
        match s.files.find s.directory (readable source) with
        | .error fault => report program (cannot "stat" source fault) 1
        | .ok (place, node) =>
          let isTree := node = .directory
          if isTree && !moves && !(o.has 'r' || o.has 'R' || o.has 'a') then
            report program ("-r not specified; omitting directory '" ++ source ++ "'") 1
          else match destination s place target with
            | .error fault =>
              let what := if moves then "move '" ++ source ++ "' to" else "create regular file"
              report program (if moves then
                  "cannot " ++ what ++ " '" ++ target ++ "': " ++ fault.text
                else cannot what target fault) 1
            | .ok goal =>
              if goal = place then
                report program ("'" ++ source ++ "' and '" ++ target ++ "' are the same file") 1
              else if moves then set { s with files := s.files.move place goal }
              else
                let copies := s.files.nodes.filterMap fun (q, n) =>
                  if place.isPrefixOf q then some (goal ++ q.drop place.length, n) else none
                set { s with files := copies.foldl (fun fs (q, n) => fs.put q n) s.files }

/-- Lists files and directories. -/
def runLs (args : List String) : ShellM Unit :=
  withOptions "ls" "aA1dr" "" 2 args fun o => do
    let s ← get
    let operands := if o.operands.isEmpty then ["."] else o.operands.mergeSort (· ≤ ·)
    let found ← operands.filterMapM fun path => do
      match s.files.find s.directory (readable path) with
      | .ok (place, node) => return some (path, place, node)
      | .error fault =>
        report "ls" (cannot "access" path fault) 2
        return none
    let isListed (node : FileNode) : Bool := node = .directory && !o.has 'd'
    let turned {α : Type} (items : List α) : List α := if o.has 'r' then items.reverse else items
    let plain := found.filter fun (_, _, node) => !isListed node
    let directories := found.filter fun (_, _, node) => isListed node
    (turned plain).forM fun (path, _, _) => writeOut (path ++ "\n")
    let titled := 1 < operands.length
    ((List.range directories.length).zip (turned directories)).forM fun (i, path, place, _) => do
      let names := (s.files.names place).map bytewise
      let names := if o.has 'a' then "." :: ".." :: names
        else if o.has 'A' then names else names.filter fun n => !n.startsWith "."
      if titled then
        writeOut ((if i = 0 && plain.isEmpty then "" else "\n") ++ path ++ ":\n")
      (turned (names.mergeSort (· ≤ ·))).forM fun n => writeOut (n ++ "\n")

/-- Lets files be run as programs, or no longer. -/
def runChmod (args : List String) : ShellM Unit := do
  setStatus 0
  match args with
  | mode :: paths =>
    let allows := match mode.toList with
      | '-' :: _ => false
      | cs => cs.contains 'x' || cs.any fun c => c.isDigit && (c.toNat - '0'.toNat) % 2 = 1
    paths.forM fun path => do
      let s ← get
      match s.files.find s.directory (readable path) with
      | .ok (place, .file bytes _) => set { s with files := s.files.put place (.file bytes allows) }
      | .ok _ => pure ()
      | .error fault => report "chmod" (cannot "access" path fault) 1
  | [] => misuse "chmod" "missing operand" 1

end TableScript.Shell
