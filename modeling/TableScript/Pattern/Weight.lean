import Std.Data.HashMap
import TableScript.Pattern.Basic

/-!
# The weight of patterns

A pattern is refused when the automaton that spells it out takes too many bytes. The automaton reads
UTF-8, one byte at a time. A state takes 32 bytes; a state with a table of byte ranges takes 8 more
for each range, and one with a list of successors 4 more for each.

The automaton is built twice: for reading forwards, where a set of characters shares the ends of its
encodings and groups have states of their own, and for reading backwards, where a set shares the
leading bytes and groups leave no trace.
-/

namespace TableScript.Pattern

/-- Which way an automaton reads. -/
inductive Direction where
  | forward
  | backward
  deriving DecidableEq

/-! ## Encodings -/

/-- The bytes of a code point in UTF-8. -/
def encode (n : Nat) : List Nat :=
  if n < 0x80 then [n]
  else if n < 0x800 then [0xC0 + n / 64, 0x80 + n % 64]
  else if n < 0x10000 then [0xE0 + n / 4096, 0x80 + n / 64 % 64, 0x80 + n % 64]
  else [0xF0 + n / 262144, 0x80 + n / 4096 % 64, 0x80 + n / 64 % 64, 0x80 + n % 64]

/-- A range of bytes at each place of an encoding. -/
abbrev ByteRanges := List (Nat × Nat)

/-- Where a range of code points has to be cut so that its encodings are ranges of bytes: before
this code point. -/
def cut? (lo hi : Nat) : Option Nat :=
  ([0x80, 0x800, 0x10000].find? fun m => lo < m && m ≤ hi).or
    (if hi < 0x80 then none
    else [64, 4096, 262144].findSome? fun m =>
      if lo / m = hi / m then none
      else if lo % m ≠ 0 then some ((lo / m + 1) * m)
      else if hi % m ≠ m - 1 then some (hi / m * m)
      else none)

/-- The encodings of a range of code points, surrogates left out. -/
def encodings (lo hi : Nat) : (fuel : Nat) → List ByteRanges
  | 0 => []
  | fuel + 1 =>
    if hi < lo then []
    else if lo < 0xE000 && 0xD7FF < hi then encodings lo 0xD7FF fuel ++ encodings 0xE000 hi fuel
    else
      match cut? lo hi with
      | some m => encodings lo (m - 1) fuel ++ encodings m hi fuel
      | none => [(encode lo).zip (encode hi)]

/-- The encodings of a set. -/
def setEncodings (s : CharSet) : List ByteRanges :=
  s.ranges.flatMap fun (lo, hi) => encodings lo hi 64

/-- Groups encodings by their first byte range. -/
def byFirst (seqs : List ByteRanges) : List (List ByteRanges) :=
  seqs.splitBy fun a b => a.head? == b.head?

/-- A state with a table of byte ranges: each with the number of the state it leads to. -/
abbrev Table := List (Nat × Nat × Nat)

/-- The states built so far, numbered from one, and their weight. -/
structure Tables where
  known : Std.HashMap Table Nat := {}
  weight : Nat := 0

/-- The number of a state; states with equal tables are shared. -/
def Tables.add (t : Tables) (table : Table) : Nat × Tables :=
  match t.known[table]? with
  | some n => (n, t)
  | none =>
    let n := t.known.size + 1
    (n, { known := t.known.insert table n, weight := t.weight + 32 + 8 * table.length })

/-- Builds the states that read some encodings; state zero is reached after the last byte. -/
def Tables.read (t : Tables) (seqs : List ByteRanges) : (fuel : Nat) → Nat × Tables
  | 0 => (0, t)
  | fuel + 1 =>
    let step (state : Table × Tables) (group : List ByteRanges) : Table × Tables :=
      match group with
      | ((lo, hi) :: tail) :: _ =>
        if tail.isEmpty then ((lo, hi, 0) :: state.1, state.2)
        else
          let (n, t) := state.2.read (group.map (·.drop 1)) fuel
          ((lo, hi, n) :: state.1, t)
      | _ => state
    let (table, t) := (byFirst seqs).foldl step ([], t)
    t.add table.reverse

/-- How many places the encodings have, each counted once for every way to reach it. -/
def placeCount (seqs : List ByteRanges) : (fuel : Nat) → Nat
  | 0 => 0
  | fuel + 1 =>
    (byFirst seqs).foldl (fun n group =>
      n + 1 + placeCount ((group.map (·.drop 1)).filter (!·.isEmpty)) fuel) 0

/-- The weight of a set. -/
def setWeight (d : Direction) (s : CharSet) : Nat :=
  if s.isAscii then 64 + 8 * s.ranges.length
  else
    let seqs := setEncodings s
    match d with
    | .forward => 32 + (({} : Tables).read seqs 5).2.weight
    | .backward => 64 + 4 * seqs.length + 32 * placeCount seqs 5

/-! ## Alternatives of plain text -/

/-- A tree of texts. The branches of a node come in runs: a text that ends at the node closes a run,
so that the texts before it are preferred to those after it. -/
inductive TextTree where
  | node (runs : List (List (Nat × TextTree)))

/-- A tree without texts. -/
def TextTree.empty : TextTree := .node [[]]

/-- The tree of one text. -/
def TextTree.ofBytes : List Nat → TextTree
  | [] => .node [[], []]
  | b :: rest => .node [[(b, ofBytes rest)]]

mutual

/-- Adds a text; runs are last first, and only the open one takes new branches. -/
def TextTree.insert : TextTree → List Nat → TextTree
  | .node [], bytes => .ofBytes bytes
  | .node ([] :: done), [] => if done.isEmpty then .node [[], []] else .node ([] :: done)
  | .node (run :: done), [] => .node ([] :: run :: done)
  | .node (run :: done), b :: rest => .node (insertBranch run b rest :: done)

/-- Adds a text to the branches of a run. -/
def insertBranch : List (Nat × TextTree) → Nat → List Nat → List (Nat × TextTree)
  | [], b, rest => [(b, .ofBytes rest)]
  | (c, t) :: more, b, rest =>
    if c = b then (c, t.insert rest) :: more else (c, t) :: insertBranch more b rest

end

/-- Whether no text goes on from a node. -/
def TextTree.isLeaf : TextTree → Bool
  | .node runs => runs.all List.isEmpty

mutual

/-- The weight of a tree: a list of runs for each node that is no leaf, and a state for each run. -/
def TextTree.weight : TextTree → Nat
  | .node runs =>
    32 + 4 * ((runs.filter (!·.isEmpty)).length + (runs.length - 1)) + runsWeight runs

/-- The weight of the runs of a node. -/
def runsWeight : List (List (Nat × TextTree)) → Nat
  | [] => 0
  | run :: rest =>
    (if run.isEmpty then 0 else if run.length = 1 then 32 else 32 + 8 * run.length) +
      branchesWeight run + runsWeight rest

/-- The weight of what the branches of a run lead to. -/
def branchesWeight : List (Nat × TextTree) → Nat
  | [] => 0
  | (_, t) :: rest => (if t.isLeaf then 0 else t.weight) + branchesWeight rest

end

/-- The bytes of a text. -/
def textBytes (text : List Char) : List Nat := text.flatMap fun c => encode c.toNat

/-- The texts of alternatives that are all plain text. -/
def plainTexts? (branches : List Node) : Option (List (List Char)) :=
  branches.mapM fun n => match n with
    | .literal text => some text
    | _ => none

/-- The weight of alternatives that are all plain text. -/
def textsWeight (d : Direction) (texts : List (List Char)) : Nat :=
  let tree := texts.foldl (fun (t : TextTree) text =>
    t.insert (if d = .forward then textBytes text else (textBytes text).reverse)) .empty
  32 + tree.weight

/-! ## Patterns -/

mutual

/-- The weight of a pattern. -/
def Node.weight (d : Direction) : Node → Nat
  | .empty | .assertion _ => 32
  | .literal text => 32 * (textBytes text).length
  | .set s => setWeight d s
  | .concat parts => weightAll d parts
  | .alternate bs =>
    match plainTexts? bs with
    | some texts => textsWeight d texts
    | none => 64 + 4 * bs.length + weightAll d bs
  | .rep least none _ body =>
    if least = 0 then
      if 0 < body.minLength then body.weight d + 40 else body.weight d + 112
    else least * body.weight d + 40
  | .rep least (some most) _ body =>
    let w := body.weight d
    if least = 0 ∧ most = 1 then w + 72
    else if least = most then least * w
    else (if least = 0 then 32 else least * w) + 32 + (most - least) * (w + 40)
  | .group _ body => body.weight d + if d = .forward then 64 else 0

/-- The weight of several patterns. -/
def weightAll (d : Direction) : List Node → Nat
  | [] => 0
  | n :: rest => n.weight d + weightAll d rest

end

/-- How many bytes an automaton may take. -/
def weightLimit : Nat := 10485760

/-- Whether both automata of a pattern stay within the limit: each also has the states that let a
match start anywhere and the one that ends it, and the forward one those of the whole match. -/
def Node.isLight (n : Node) : Bool :=
  112 + 96 + n.weight .forward ≤ weightLimit && 112 + 32 + n.weight .backward ≤ weightLimit

end TableScript.Pattern
