import TableScript.Capture.Trie
import TableScript.Eval.Expression
import TableScript.Text.Highlight
import TableScript.Value.Table

/-!
# Blocks

A block fetches a document, captures its fields as columns, changes columns, sorts rows, and shows
the columns as a table or leaves them in their variables.
-/

namespace TableScript.Block

open Run

/-- The declared path of a field. -/
def fieldPath (name : String) : Run (String × Path) := do
  let m ← get
  match m.store.lookupField? m.scope name with
  | some path => return (name, path)
  | none => fail (.unknownIdentifier name (m.store.similarNames m.scope name))

/-- Binds fields to the columns of a capture, one after the other; a column is used once. -/
def bindColumns (capture : Capture) : List String → Run Unit
  | [] => return ()
  | name :: rest => do
    let cells := (capture.column? name).getD []
    let list ← ofStore (modifyGet fun st =>
      let (values, st) := st.ofJsonItems cells
      st.newList values)
    assign name list
    bindColumns (capture.filter (·.1 ≠ name)) rest

/-- Captures fields from a document and binds them. -/
def bindFields (fields : List String) (document : Json) : Run Unit := do
  let paths ← fields.mapM fieldPath
  let capture ← ensure ((Trie.ofFields paths).capture document)
  log .capture .debug ("captured " ++ toString capture.rowCount ++ " row(s) for " ++
    toString fields.length ++ " field(s)")
  bindColumns capture fields

/-- The list a field's variable holds. -/
def columnList (name : String) : Run Nat := do ensure (← lookup name).requireList

/-- Replaces the elements of a list. -/
def replaceItems (list : Nat) (items : List Value) : Run Unit := modifyStore (·.setItems list items)

/-- Replaces every cell of a column by a function's result on it. -/
def mapColumn (ev : Evaluator) (f : Callable) (name : String) : Run Unit := do
  let list ← columnList name
  let cells := (← get).store.items list
  let mapped ← cells.mapM fun cell => do
    let results ← ev.call f { args := [cell] }
    return results.headD .null
  replaceItems list mapped

/-- Styles what matches in the cells of a column that are strings. -/
def colourColumn (pattern : Pattern.Regex) (style : Style) (name : String) : Run Unit := do
  let list ← columnList name
  let cells := (← get).store.items list
  replaceItems list (cells.map fun
    | .str t => .str (t.highlight pattern style)
    | v => v)

/-- The plain text of an expression that has to be a string. -/
def evalText (ev : Evaluator) (e : Expr) : Run String := do
  let v ← ev.expr e
  return (← atSpan e.span (ensure v.requireStr)).plain

/-- Changes columns. -/
def applyMod (ev : Evaluator) : FieldMod → Run Unit
  | .map fields function => do
    let v ← ev.expr function
    let f ← atSpan function.span (ensure v.requireFn)
    fields.forM (mapColumn ev f)
  | .colour fields colour pattern => do
    let name ← evalText ev colour
    let style ← match Style.ofName? name with
      | some style => pure style
      | none => atSpan colour.span (fail (.typeMismatch ("unknown color '" ++ name ++ "'")))
    let text ← evalText ev pattern
    let compiled ← match Pattern.Regex.compile text with
      | .ok r => pure r
      | .error e => atSpan pattern.span (fail (.parse e.message))
    fields.forM (colourColumn compiled style)

/-- Checks that all columns have as many rows as the first. -/
def checkRows (first : String) (rows : Nat) : List (String × List Value) → Run Unit
  | [] => return ()
  | (name, column) :: rest =>
    if column.length ≠ rows then
      fail (.arityMismatch ("columns differ in length: '" ++ first ++ "' has " ++ toString rows ++
        " row(s), '" ++ name ++ "' has " ++ toString column.length))
    else checkRows first rows rest

/-- The rules a block sorts by. -/
def sortRules (fields : List String) : SortSpec → Except Fault (List SortRule)
  | .general direction => .ok (Rows.generalRules fields.length direction)
  | .columns rules => rules.mapM fun (name, direction) =>
    match fields.idxOf? name with
    | some column => .ok ⟨column, direction⟩
    | none => .error (.unknownIdentifier name [])

/-- Sorts columns and puts them back into their lists. -/
def sortColumns (fields : List String) (lists : List Nat) (columns : List (List Value)) :
    Option SortSpec → Run (List (List Value))
  | none => return columns
  | some spec => do
    let rules ← lift (sortRules fields spec)
    let sorted ← lift (Rows.sort columns rules)
    (lists.zip sorted).forM fun (list, column) => replaceItems list column
    return sorted

/-- Fetches the document of a block and binds the fields. -/
def fetchFields (ev : Evaluator) (fields : List String) : Option Expr → Run Unit
  | none => return ()
  | some source => do
    let url ← evalText ev source
    log .block .debug ("rad block fetching " ++ url)
    let document ← atSpan source.span (fetch url)
    bindFields fields document

/-- Shows columns as a table. -/
def showTable (fields : List String) (rows : Nat) (columns : List (List Value)) : Run Unit := do
  let st := (← get).store
  let lines := Table.lines st fields (Rows.ofColumns rows columns) (← colour)
  lines.forM fun line => emit (.out line)

/-- Runs a block. -/
def run (ev : Evaluator) (kind : BlockKind) (source : Option Expr) (fields : List String)
    (sort : Option SortSpec) (mods : List FieldMod) : Run Unit := do
  match fields with
  | [] => fail (.arityMismatch "no fields specified in rad block")
  | first :: _ =>
    fetchFields ev fields source
    mods.forM (applyMod ev)
    let lists ← fields.mapM columnList
    let st := (← get).store
    let columns := lists.map st.items
    let rows := Rows.count columns
    checkRows first rows (fields.zip columns)
    let columns ← noted (sortColumns fields lists columns sort)
    match kind with
    | .request => log .block .debug ("request block bound " ++ toString rows ++ " row(s)")
    | .table => showTable fields rows columns

end TableScript.Block
