/-!
# Text from bytes

Bytes are read as UTF-8. Where they are none, each longest beginning of a sequence that could have
become a character is replaced by one replacement character, and so is each byte that starts none.
-/

namespace TableScript

/-- What stands for bytes that are no text. -/
def replacementChar : Char := '\ufffd'

/-- The start of a sequence: the bits it gives, how many bytes follow, and the range of the next. -/
structure LeadByte where
  bits : Nat
  following : Nat
  lowest : UInt8 := 0x80
  highest : UInt8 := 0xbf

/-- Reads the first byte of a sequence. -/
def LeadByte.ofByte? (b : UInt8) : Option LeadByte :=
  if b < 0x80 then some { bits := b.toNat, following := 0 }
  else if b < 0xc2 then none
  else if b < 0xe0 then some { bits := (b &&& 0x1f).toNat, following := 1 }
  else if b < 0xf0 then
    some { bits := (b &&& 0x0f).toNat, following := 2
           lowest := if b = 0xe0 then 0xa0 else 0x80
           highest := if b = 0xed then 0x9f else 0xbf }
  else if b < 0xf5 then
    some { bits := (b &&& 0x07).toNat, following := 3
           lowest := if b = 0xf0 then 0x90 else 0x80
           highest := if b = 0xf4 then 0x8f else 0xbf }
  else none

/-- Reads the bytes that follow a first byte, as far as they fit. -/
def readFollowing (lowest highest : UInt8) (value : Nat) :
    (count : Nat) → List UInt8 → Option Nat × List UInt8
  | 0, bytes => (some value, bytes)
  | _ + 1, [] => (none, [])
  | count + 1, b :: bytes =>
    if lowest ≤ b ∧ b ≤ highest then
      readFollowing 0x80 0xbf (value * 64 + (b &&& 0x3f).toNat) count bytes
    else (none, b :: bytes)

/-- Reads one character, and gives back the bytes after it. -/
def readChar (b : UInt8) (bytes : List UInt8) : Char × List UInt8 :=
  match LeadByte.ofByte? b with
  | none => (replacementChar, bytes)
  | some lead =>
    let (value, rest) := readFollowing lead.lowest lead.highest lead.bits lead.following bytes
    ((value.map Char.ofNat).getD replacementChar, rest)

/-- Reads characters; the fuel is the number of bytes. -/
def readChars : (fuel : Nat) → List UInt8 → List Char
  | 0, _ | _, [] => []
  | fuel + 1, b :: bytes =>
    let (c, rest) := readChar b bytes
    c :: readChars fuel rest

/-- The text of bytes. -/
def textOfBytes (bytes : List UInt8) : String := String.ofList (readChars bytes.length bytes)

/-- The bytes of a text. -/
def bytesOfText (s : String) : List UInt8 := s.toUTF8.toList

end TableScript
