import TableScript.Text.Lossy

/-!
# Text without escape sequences

What is left of a text when the sequences that steer a terminal and all control characters but
white space are taken out.

1. `Scan` says inside of what kind of sequence the next byte stands, and `Scan.step` how a byte
   moves it;
2. white space inside a sequence is kept, and so is all text from there to the next byte that is
   not kept; the sequence is taken up again at that byte;
3. a sequence without an end takes everything with it.
-/

namespace TableScript

/-- Inside of what the next byte stands. -/
inductive Scan where
  | ground
  /-- Inside a character of several bytes, with so many to come. -/
  | character (left : Nat)
  | escape
  | escapeIntermediate
  | controlEntry
  | controlParameter
  | controlIntermediate
  | controlIgnored
  | deviceEntry
  | deviceParameter
  | deviceIntermediate
  | deviceData
  | deviceIgnored
  /-- A command for the system, up to a bell. -/
  | systemCommand
  /-- A string that has no meaning to a terminal. -/
  | ignoredString
  deriving DecidableEq, Repr

namespace Scan

/-- What a byte comes to. -/
inductive Effect where
  | print
  /-- A control character that acts at once. -/
  | act
  | drop
  deriving DecidableEq, Repr

/-- Whether a byte is a control character that no state reacts to in its own way. -/
def isControl (b : UInt8) : Bool := b < 0x20

/-- How many more bytes a character has that starts with this byte. -/
def following (b : UInt8) : Nat := if b < 0xe0 then 1 else if b < 0xf0 then 2 else 3

/-- Where a byte after an escape leads. -/
def afterEscape (b : UInt8) : Scan :=
  if b = 0x5b then controlEntry
  else if b = 0x5d then systemCommand
  else if b = 0x50 then deviceEntry
  else if b = 0x58 || b = 0x5e || b = 0x5f then ignoredString
  else ground

/-- Where a byte of a control sequence leads; `onDigit` and `onPrivate` say where digits and the
signs after them lead. -/
def inControl (s onDigit onPrivate : Scan) (b : UInt8) : Scan :=
  if b < 0x30 then controlIntermediate
  else if b < 0x3c then onDigit
  else if b < 0x40 then onPrivate
  else if b < 0x7f then ground
  else s

/-- Where a byte of a device sequence leads. -/
def inDevice (s onDigit onPrivate : Scan) (b : UInt8) : Scan :=
  if b < 0x30 then deviceIntermediate
  else if b < 0x3c then onDigit
  else if b < 0x40 then onPrivate
  else if b < 0x7f then deviceData
  else s

/-- Where a byte leads, and what it comes to. -/
def step (s : Scan) (b : UInt8) : Scan × Effect :=
  if b = 0x1b then (escape, .drop)
  else if b = 0x18 || b = 0x1a then (ground, .act)
  else match s with
    | ground =>
      if isControl b then (ground, .act)
      else if b < 0x7f then (ground, .print)
      else if b < 0xc2 then (ground, .drop)
      else (character (following b), .print)
    | character 0 | character 1 => (ground, .print)
    | character (left + 1) => (character left, .print)
    | escape =>
      if isControl b then (s, .act)
      else if b < 0x30 then (escapeIntermediate, .drop)
      else if b < 0x7f then (afterEscape b, .drop)
      else (s, .drop)
    | escapeIntermediate =>
      if isControl b then (s, .act)
      else if b < 0x30 || 0x7f ≤ b then (s, .drop)
      else (ground, .drop)
    | controlEntry =>
      if isControl b then (s, .act) else (inControl s controlParameter controlParameter b, .drop)
    | controlParameter =>
      if isControl b then (s, .act) else (inControl s s controlIgnored b, .drop)
    | controlIntermediate =>
      if isControl b then (s, .act) else (inControl s controlIgnored controlIgnored b, .drop)
    | controlIgnored =>
      if isControl b then (s, .act)
      else (if 0x40 ≤ b && b < 0x7f then ground else s, .drop)
    | deviceEntry =>
      (if isControl b then s else inDevice s deviceParameter deviceParameter b, .drop)
    | deviceParameter => (if isControl b then s else inDevice s s deviceIgnored b, .drop)
    | deviceIntermediate =>
      (if isControl b then s else inDevice s deviceIgnored deviceIgnored b, .drop)
    | deviceData | deviceIgnored | ignoredString => (if b = 0x9c then ground else s, .drop)
    | systemCommand => (if b = 0x07 then ground else s, .drop)

/-- Whether a byte is white space. -/
def isSpace (b : UInt8) : Bool := b = 0x20 || b = 0x09 || b = 0x0a || b = 0x0c || b = 0x0d

/-- Whether a byte with this effect is kept. -/
def Effect.keeps (e : Effect) (b : UInt8) : Bool :=
  match e with
  | print => true
  | act => isSpace b
  | drop => false

/-- The bytes that are kept. While `printing`, bytes are taken as outside of any sequence, and the
state only follows where they lead. -/
def kept (s : Scan) (printing : Bool) : List UInt8 → List UInt8
  | [] => []
  | b :: rest =>
    let (inside, effect) := s.step b
    if !printing && !effect.keeps b then kept inside false rest
    else
      match s with
      | character _ => b :: kept inside true rest
      | _ =>
        let (outside, effect) := ground.step b
        let next := if outside = ground && b ≠ 0x18 && b ≠ 0x1a then s else outside
        if effect.keeps b then b :: kept next true rest
        else kept (next.step b).1 false rest

end Scan

/-- A text without escape sequences and control characters. -/
def withoutSequences (s : String) : String :=
  textOfBytes (Scan.kept .ground false (bytesOfText s))

end TableScript
