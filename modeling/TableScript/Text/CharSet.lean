/-!
# Sets of characters

A `CharSet` is given by its toggle points in increasing order: the code points at which membership
changes, starting from "not a member". A character belongs to the set when an odd number of toggle
points lie at or below it. Two sets are combined by sweeping over the toggle points of both.
-/

namespace TableScript

/-- A set of characters, as the code points where membership changes. -/
structure CharSet where
  /-- Toggle points, in increasing order. -/
  ofToggles ::
  toggles : Array Nat
  deriving DecidableEq

namespace CharSet

/-- How many elements of a sorted array are at most `n`, known to lie between `lo` and `hi`. -/
def countUpTo (points : Array Nat) (n lo hi : Nat) : (fuel : Nat) → Nat
  | 0 => lo
  | fuel + 1 =>
    if lo < hi then
      let mid := (lo + hi) / 2
      if points.getD mid 0 ≤ n then countUpTo points n (mid + 1) hi fuel
      else countUpTo points n lo mid fuel
    else lo

/-- Whether the set has the code point. -/
def containsPoint (s : CharSet) (n : Nat) : Bool :=
  countUpTo s.toggles n 0 s.toggles.size (s.toggles.size + 1) % 2 == 1

/-- Whether the set has the character. -/
def contains (s : CharSet) (c : Char) : Bool := s.containsPoint c.toNat

/-! ## Set operations -/

/-- No character. -/
def empty : CharSet := .ofToggles #[]

/-- The code points from `lo` to `hi`. -/
def range (lo hi : Nat) : CharSet := .ofToggles #[lo, hi + 1]

/-- One character. -/
def one (c : Char) : CharSet := range c.toNat c.toNat

/-- Every character. -/
def all : CharSet := range 0 0x10FFFF

/-- The characters below 128. -/
def ascii : CharSet := range 0 0x7F

/-- Whether the set is empty. -/
def isEmpty (s : CharSet) : Bool := s.toggles.isEmpty

/-- A toggle point put in front of the points found so far, when membership changes there. -/
def emit (point : Nat) (now before : Bool) (found : List Nat) : List Nat :=
  if now == before then found else point :: found

/-- Sweeps over the toggle points of two sets. `inA` and `inB` say whether the sweep is inside each
of them; `keep` decides from both whether it is inside the result. The points found so far are last
first. -/
def sweep (keep : Bool → Bool → Bool) (inA inB : Bool) (found : List Nat) :
    List Nat → List Nat → List Nat
  | [], [] => found.reverse
  | x :: xs, [] => sweep keep (!inA) inB (emit x (keep (!inA) inB) (keep inA inB) found) xs []
  | [], y :: ys => sweep keep inA (!inB) (emit y (keep inA (!inB)) (keep inA inB) found) [] ys
  | x :: xs, y :: ys =>
    if x < y then
      sweep keep (!inA) inB (emit x (keep (!inA) inB) (keep inA inB) found) xs (y :: ys)
    else if y < x then
      sweep keep inA (!inB) (emit y (keep inA (!inB)) (keep inA inB) found) (x :: xs) ys
    else
      sweep keep (!inA) (!inB) (emit x (keep (!inA) (!inB)) (keep inA inB) found) xs ys
termination_by xs ys => xs.length + ys.length

/-- The set whose members are decided by membership in two others; what is in neither is not in the
result. -/
def combine (keep : Bool → Bool → Bool) (a b : CharSet) : CharSet :=
  .ofToggles (sweep keep false false [] a.toggles.toList b.toggles.toList).toArray

/-- What either set has. -/
def union (a b : CharSet) : CharSet := combine (· || ·) a b

/-- What both sets have. -/
def inter (a b : CharSet) : CharSet := combine (· && ·) a b

/-- What the first set has and the second has not. -/
def diff (a b : CharSet) : CharSet := combine (fun x y => x && !y) a b

/-- What exactly one of the sets has. -/
def symmDiff (a b : CharSet) : CharSet := combine (· != ·) a b

/-- What the set has not. -/
def complement (s : CharSet) : CharSet := all.diff s

/-- What any of several sets has. -/
def unions (sets : List CharSet) : CharSet := sets.foldl union empty

/-- The characters of a list. -/
def ofChars (cs : List Char) : CharSet := unions (cs.map one)

/-- The ranges of a set, from left to right. -/
def rangesOfToggles : List Nat → List (Nat × Nat)
  | lo :: hi :: rest => (lo, hi - 1) :: rangesOfToggles rest
  | [lo] => [(lo, 0x10FFFF)]
  | [] => []

/-- The ranges of a set, from left to right. -/
def ranges (s : CharSet) : List (Nat × Nat) := rangesOfToggles s.toggles.toList

/-- Whether every character of the set is below 128. -/
def isAscii (s : CharSet) : Bool := s.ranges.all (·.2 < 0x80)

/-- The only character of a set, if it has just one. -/
def single? (s : CharSet) : Option Char :=
  match s.ranges with
  | [(lo, hi)] => if lo = hi then some (.ofNat lo) else none
  | _ => none

/-! ## Sets from code points -/

/-- Joins code points in increasing order to toggle points, last first. -/
def joinPoint (toggles : List Nat) (n : Nat) : List Nat :=
  match toggles with
  | stop :: rest => if stop = n then (n + 1) :: rest else if n < stop then toggles
    else (n + 1) :: n :: toggles
  | [] => [n + 1, n]

/-- The set of some code points. -/
def ofPoints (points : List Nat) : CharSet :=
  .ofToggles ((points.mergeSort (· ≤ ·)).foldl joinPoint []).reverse.toArray

/-! ## Sets written as text

A set is written as its code points in hexadecimal, separated by blanks and in increasing order:
`41` for one, `41-5A` for a range, and `100-12E/2` for every second one from the first to the last.
-/

/-- The value of a hexadecimal digit. -/
def hexDigit (c : Char) : Nat :=
  if c.isDigit then c.toNat - '0'.toNat else c.toNat - 'A'.toNat + 10

/-- The number some hexadecimal digits write. -/
def hexNumber (text : String) : Nat := text.toList.foldl (fun n c => 16 * n + hexDigit c) 0

/-- The toggle points of one entry. -/
def togglesOfEntry (entry : String) : List Nat :=
  match entry.splitOn "/" with
  | [extent, stride] =>
    match extent.splitOn "-" with
    | [first, last] =>
      let (first, last, stride) := (hexNumber first, hexNumber last, hexNumber stride)
      (List.range ((last - first) / stride + 1)).flatMap fun i =>
        [first + i * stride, first + i * stride + 1]
    | _ => []
  | _ =>
    match entry.splitOn "-" with
    | [first, last] => [hexNumber first, hexNumber last + 1]
    | _ => [hexNumber entry, hexNumber entry + 1]

/-- The set that lines of text write. -/
def ofText (lines : List String) : CharSet :=
  .ofToggles (lines.flatMap fun line => (line.splitOn " ").flatMap togglesOfEntry).toArray

end CharSet
end TableScript
