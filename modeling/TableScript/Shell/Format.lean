import TableScript.Number.Text
import TableScript.Shell.Arithmetic

/-!
# Texts that commands write

What `echo` and `printf` write. A backslash and a letter or octal digits stand for one byte, and a
percent sign starts a conversion of an argument. All texts are strings of bytes.
-/

namespace TableScript.Shell

/-! ## Escapes -/

/-- The byte a letter after a backslash stands for. -/
def escapedLetter? (c : Char) : Option Char :=
  match c with
  | 'a' => some '\x07'
  | 'b' => some '\x08'
  | 'e' => some '\x1b'
  | 'f' => some '\x0c'
  | 'n' => some '\n'
  | 'r' => some '\r'
  | 't' => some '\t'
  | 'v' => some '\x0b'
  | '\\' => some '\\'
  | _ => none

/-- Whether a character is an octal digit. -/
def isOctal (c : Char) : Bool := '0' ≤ c && c ≤ '7'

/-- Up to three octal digits as a byte, and what follows them. -/
def readOctal (cs : List Char) : Char × List Char :=
  let digits := (cs.take 3).takeWhile isOctal
  (Char.ofNat (Sum.digitsValue 8 digits % 256), cs.drop digits.length)

/-- What follows a backslash, and the rest. With `zeroed` a zero before octal digits is dropped. -/
def readEscape (zeroed : Bool) (cs : List Char) : List Char × List Char :=
  match cs with
  | [] => (['\\'], [])
  | c :: rest =>
    if isOctal c then
      let (byte, rest) := readOctal (if zeroed && c = '0' then rest else cs)
      ([byte], rest)
    else match escapedLetter? c with
      | some byte => ([byte], rest)
      | none => (['\\', c], rest)

/-- A text with its escapes resolved; the second component says whether `\c` cut it off. The fuel
is the number of characters. -/
def unescape : (fuel : Nat) → List Char → List Char × Bool
  | 0, _ | _, [] => ([], false)
  | fuel + 1, c :: rest =>
    if c = '\\' then
      if rest.head? = some 'c' then ([], true)
      else
        let (bytes, rest) := readEscape true rest
        let (more, cut) := unescape fuel rest
        (bytes ++ more, cut)
    else
      let (more, cut) := unescape fuel rest
      (c :: more, cut)

/-- What `echo` writes. -/
def echoText (args : List String) : String :=
  let (newline, args) := match args with
    | "-n" :: rest => (false, rest)
    | args => (true, args)
  let text := " ".intercalate args
  let (bytes, cut) := unescape text.length text.toList
  String.ofList bytes ++ (if newline && !cut then "\n" else "")

/-! ## Decimals with a given number of places -/

/-- A quotient rounded to the nearest integer, a tie to the even one. -/
def roundDiv (num den : Nat) : Nat :=
  let q := num / den
  let r := 2 * (num % den)
  if r < den || (r = den && q % 2 = 0) then q else q + 1

/-- The digits of a number before and after a point, with so many after it. -/
def withPlaces (n places : Nat) : String :=
  let digits := Nat.toDigits 10 n
  let digits := List.replicate (places + 1 - digits.length) '0' ++ digits
  let whole := digits.take (digits.length - places)
  String.ofList whole ++
    (if places = 0 then "" else "." ++ String.ofList (digits.drop whole.length))

/-- A finite double without its sign, with so many places. -/
def fixedText (x : Double) (places : Nat) : String :=
  withPlaces (roundDiv (x.magnitude * Nat.pow 10 places) Double.one) places

/-- The digits of a finite double, so many after the first, and the exponent of the first. -/
def scientificDigits (x : Double) (places : Nat) : Nat × Int :=
  if x.magnitude = 0 then (0, 0)
  else
    let lead := Decimal.leadingExponent (.of x.significand x.shift)
    let shift : Int := places - lead
    let n := roundDiv (x.magnitude * Nat.pow 10 shift.toNat)
      (Double.one * Nat.pow 10 (-shift).toNat)
    if Nat.pow 10 (places + 1) ≤ n then (n / 10, lead + 1) else (n, lead)

/-- An exponent of ten with its sign and at least two digits. -/
def exponentText (e : Int) : String :=
  let digits := toString e.natAbs
  (if e < 0 then "e-" else "e+") ++ (if digits.length < 2 then "0" ++ digits else digits)

/-- A finite double without its sign, with an exponent. -/
def scientificText (x : Double) (places : Nat) : String :=
  let (n, e) := scientificDigits x places
  withPlaces n places ++ exponentText e

/-- A text without zeros at the end of its places. -/
def dropPlaces (s : String) : String :=
  if s.toList.contains '.' then
    let cs := s.toList.reverse.dropWhile (· = '0')
    String.ofList (if cs.head? = some '.' then cs.tail else cs).reverse
  else s

/-- A finite double without its sign in the shorter of two forms, with so many digits. -/
def generalText (x : Double) (digits : Nat) (alternate : Bool) : String :=
  let digits := max digits 1
  let trim := if alternate then id else dropPlaces
  let (n, e) := scientificDigits x (digits - 1)
  if -4 ≤ e && e < digits then trim (fixedText x (digits - 1 - e).toNat)
  else trim (withPlaces n (digits - 1)) ++ exponentText e

/-! ## Conversions -/

/-- A conversion: how an argument is written. -/
structure Conversion where
  leftAligned : Bool := false
  zeroFilled : Bool := false
  signed : Bool := false
  blankSign : Bool := false
  alternate : Bool := false
  width : Nat := 0
  precision : Option Nat := none
  letter : Char := '\x00'
  deriving Repr, Inhabited

namespace Conversion

/-- Fills a text up to the width with blanks. -/
def pad (c : Conversion) (s : String) : String :=
  let blanks := String.ofList (List.replicate (c.width - s.length) ' ')
  if c.leftAligned then s ++ blanks else blanks ++ s

/-- A number with its sign, filled up with zeros to the width if that is asked for. -/
def padSigned (c : Conversion) (sign digits : String) : String :=
  let least := if c.zeroFilled && !c.leftAligned then c.width - sign.length else 0
  c.pad (sign ++ String.ofList (List.replicate (least - digits.length) '0') ++ digits)

/-- An integer with its sign and at least as many digits as asked for. -/
def padNumber (c : Conversion) (sign digits : String) : String :=
  match c.precision with
  | some p => c.pad (sign ++ String.ofList (List.replicate (p - digits.length) '0') ++ digits)
  | none => c.padSigned sign digits

/-- The sign a number is written with. -/
def sign (c : Conversion) (negative : Bool) : String :=
  if negative then "-" else if c.signed then "+" else if c.blankSign then " " else ""

/-- A signed number. -/
def integer (c : Conversion) (n : Int64) : String :=
  c.padNumber (c.sign (n < 0)) (toString n.toInt.natAbs)

/-- A number without a sign in a base. -/
def unsigned (c : Conversion) (base : Nat) (n : Int64) : String :=
  let digits := String.ofList (Nat.toDigits base n.toUInt64.toNat)
  let lead :=
    if !c.alternate || n = 0 then "" else if base = 16 then "0x" else if base = 8 then "0" else ""
  c.padNumber lead digits

/-- A double. -/
def double (c : Conversion) (x : Double) : String :=
  let places := c.precision.getD 6
  if !x.isFinite then
    { c with zeroFilled := false }.padSigned (c.sign x.isNegative)
      (if x.isNaN then "nan" else "inf")
  else
    let digits := match c.letter.toLower with
      | 'f' => fixedText x places
      | 'e' => scientificText x places
      | _ => generalText x places c.alternate
    c.padSigned (c.sign x.isNegative) digits

/-- What is wrong with a numeric argument. -/
def numericReport (arg : String) (rest : List Char) (isEmpty : Bool) : Option String :=
  if isEmpty then some (arg ++ ": expected numeric value")
  else if !rest.isEmpty then some (arg ++ ": not completely converted")
  else none

/-- The integer an argument stands for, and what is wrong with it. A quote gives the number of the
byte after it. -/
def integerArgument (arg : String) : Int64 × Option String :=
  match arg.toList with
  | [] => (0, none)
  | c :: rest =>
    if c = '\'' || c = '"' then (.ofNat ((rest.headD '\x00').toNat), none)
    else
      let (negative, cs) := match arg.toList.dropWhile Sum.isBlank with
        | '-' :: cs => (true, cs)
        | '+' :: cs => (false, cs)
        | cs => (false, cs)
      let (n, after) := Sum.takeNumeral cs
      let tooLarge := if negative then Nat.pow 2 63 < n else Nat.pow 2 63 ≤ n
      let value : Int64 := if tooLarge then (if negative then Int64.minValue else Int64.maxValue)
        else .ofInt (if negative then -(n : Int) else n)
      if !(cs.head?.map Char.isDigit).getD false then (0, some (arg ++ ": expected numeric value"))
      else if tooLarge then (value, some (arg ++ ": Numerical result out of range"))
      else (value, numericReport arg after false)

/-- The longest start of a text that is a decimal number, and the rest. -/
def takeDecimal (cs : List Char) : List Char × List Char :=
  let (sign, body) := cs.span fun c => c = '-' || c = '+'
  let (whole, rest) := body.span Char.isDigit
  let (places, rest) := match rest with
    | '.' :: more =>
      let (digits, after) := more.span Char.isDigit
      if whole.isEmpty && digits.isEmpty then ([], rest) else ('.' :: digits, after)
    | _ => ([], rest)
  if 1 < sign.length || (whole.isEmpty && places.isEmpty) then ([], cs)
  else
    let (mark, more) := rest.span fun c => c = 'e' || c = 'E'
    let (expSign, more) := more.span fun c => c = '-' || c = '+'
    let (digits, after) := more.span Char.isDigit
    if mark.length = 1 && expSign.length ≤ 1 && !digits.isEmpty then
      (sign ++ whole ++ places ++ mark ++ expSign ++ digits, after)
    else (sign ++ whole ++ places, rest)

/-- The double an argument stands for, and what is wrong with it. -/
def doubleArgument (arg : String) : Double × Option String :=
  match arg.toList with
  | [] => (.zero, none)
  | c :: rest =>
    if c = '\'' || c = '"' then (.ofInt ((rest.headD '\x00').toNat), none)
    else
      let (number, after) := takeDecimal (arg.toList.dropWhile Sum.isBlank)
      match NumberText.readFloat? (String.ofList number) with
      | some x => (x, numericReport arg after number.isEmpty)
      | none =>
        match NumberText.readFloat? arg with
        | some x => (x, none)
        | none => (.zero, some (arg ++ ": expected numeric value"))

/-- A text cut to the precision. -/
def cut (c : Conversion) (s : String) : String :=
  match c.precision with
  | some p => String.ofList (s.toList.take p)
  | none => s

/-- What a conversion makes of an argument. -/
structure Converted where
  text : String
  report : Option String := none
  /-- Whether nothing may follow. -/
  isLast : Bool := false

/-- A text in capitals. -/
def upper (s : String) : String := s.map Char.toUpper

/-- What a conversion makes of an argument; nothing for a letter without a meaning. -/
def convert? (c : Conversion) (arg : String) : Option Converted :=
  let ofInteger (write : Int64 → String) : Option Converted :=
    let (n, report) := integerArgument arg
    some { text := write n, report }
  let ofDouble (write : Double → String) : Option Converted :=
    let (x, report) := doubleArgument arg
    some { text := write x, report }
  match c.letter with
  | 's' => some { text := c.pad (c.cut arg) }
  | 'b' =>
    let (bytes, isLast) := unescape arg.length arg.toList
    some { text := c.pad (c.cut (String.ofList bytes)), isLast }
  | 'c' => some { text := c.pad (String.ofList [arg.toList.headD '\x00']) }
  | 'd' | 'i' => ofInteger c.integer
  | 'u' => ofInteger (c.unsigned 10)
  | 'o' => ofInteger (c.unsigned 8)
  | 'x' => ofInteger (c.unsigned 16)
  | 'X' => ofInteger fun n => upper (c.unsigned 16 n)
  | 'f' | 'e' | 'g' => ofDouble c.double
  | 'F' | 'E' | 'G' => ofDouble fun x => upper (c.double x)
  | _ => none

end Conversion

/-! ## Formats -/

/-- What a run of `printf` has left so far. -/
structure Printed where
  text : String := ""
  reports : List String := []
  args : List String := []
  /-- Whether an argument was asked for. -/
  usedArgument : Bool := false
  /-- Whether nothing may follow. -/
  isDone : Bool := false
  /-- An error that stopped the run. -/
  fault : Option String := none

namespace Printed

/-- Takes the next argument. -/
def takeArg (p : Printed) : String × Printed :=
  (p.args.headD "", { p with args := p.args.tail, usedArgument := true })

/-- Adds a text. -/
def add (p : Printed) (s : String) : Printed := { p with text := p.text ++ s }

/-- Reads a number, or takes an argument for a star. -/
def readCount (p : Printed) : List Char → Option Int64 × List Char × Printed
  | '*' :: rest =>
    let (arg, p) := p.takeArg
    (some (Conversion.integerArgument arg).1, rest, p)
  | cs =>
    let (digits, rest) := cs.span Char.isDigit
    (if digits.isEmpty then none else some (.ofNat (Sum.digitsValue 10 digits)), rest, p)

/-- Carries out a conversion, after its percent sign. -/
def convert (p : Printed) (cs : List Char) : Printed × List Char :=
  let (flags, rest) := cs.span fun c => "-0+ #".toList.contains c
  let (width, rest, p) := p.readCount rest
  let (precision, rest, p) := match rest with
    | '.' :: more =>
      let (n, rest, p) := p.readCount more
      (some (n.getD 0), rest, p)
    | rest => (none, rest, p)
  match rest with
  | [] => ({ p with isDone := true, fault := some "missing format character" }, [])
  | letter :: rest =>
    let width := width.getD 0
    let c : Conversion :=
      { leftAligned := flags.contains '-' || width < 0
        zeroFilled := flags.contains '0'
        signed := flags.contains '+'
        blankSign := flags.contains ' '
        alternate := flags.contains '#'
        width := width.toInt.natAbs
        precision := precision.bind fun n => if n < 0 then none else some n.toInt.natAbs
        letter }
    match c.convert? (p.args.headD "") with
    | none =>
      ({ p with isDone := true
                fault := some ("%" ++ letter.toString ++ ": invalid directive") }, [])
    | some made =>
      let (_, p) := p.takeArg
      ({ p.add made.text with
          reports := p.reports ++ made.report.toList, isDone := made.isLast }, rest)

/-- Goes through a format once. The fuel is the number of its characters. -/
def once (p : Printed) : (fuel : Nat) → List Char → Printed
  | 0, _ | _, [] => p
  | fuel + 1, c :: rest =>
    if c = '\\' then
      let (bytes, rest) := readEscape false rest
      (p.add (String.ofList bytes)).once fuel rest
    else if c = '%' then
      if rest.head? = some '%' then (p.add "%").once fuel rest.tail
      else
        let (p, rest) := p.convert rest
        if p.isDone then p else p.once fuel rest
    else (p.add c.toString).once fuel rest

/-- Goes through a format until the arguments are used up. The fuel is their number. -/
def all (format : List Char) (p : Printed) : (fuel : Nat) → Printed
  | 0 => p
  | fuel + 1 =>
    let q := { p with usedArgument := false }.once format.length format
    if q.isDone || q.args.isEmpty || !q.usedArgument then q else all format q fuel

end Printed

/-- What `printf` writes. -/
def printfText (format : String) (args : List String) : Printed :=
  Printed.all format.toList { args } (args.length + 1)

end TableScript.Shell
