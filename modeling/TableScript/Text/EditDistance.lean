/-!
# Edit distance

How many insertions, deletions and substitutions of single characters it takes at least to make one
text of another. The table of the distances between prefixes of both is computed row by row, and
only two rows are kept: while one is filled the one above it is read, then they trade places.
-/

namespace TableScript

/-- What it costs to have one character in the place of another. -/
def mismatch (c d : Char) : Nat := if c = d then 0 else 1

/-- Fills the row of a prefix that ends in `c`, from the entry behind `j` on: one entry for each
character of the target still to come. The row above is that of the prefix without its `c`. -/
def fillRow (c : Char) (above : Array Nat) (j : Nat) (row : Array Nat) : List Char → Array Nat
  | [] => row
  | d :: rest =>
    let substituted := above[j]! + mismatch c d
    let entry := min (min substituted (above[j + 1]! + 1)) (row[j]! + 1)
    fillRow c above (j + 1) (row.set! (j + 1) entry) rest

/-- The last row, after the characters still to come. `above` is the row of the first `i`
characters; the entries of `spare` are of no more use. -/
def fillRows (target : List Char) (i : Nat) (above spare : Array Nat) : List Char → Array Nat
  | [] => above
  | c :: rest =>
    let filled := fillRow c above 0 (spare.set! 0 (i + 1)) target
    fillRows target (i + 1) filled above rest

/-- The distance between two texts. -/
def editDistance (a b : String) : Nat :=
  let target := b.toList
  if a = "" then target.length
  else
    let first := Array.range (target.length + 1)
    let spare := Array.replicate (target.length + 1) 0
    (fillRows target 0 first spare a.toList)[target.length]!

end TableScript
