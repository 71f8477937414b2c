import TableScript.Unicode.Property
import TableScript.Unicode.Script

/-!
# Boundaries in text

The properties that say where graphemes, words and sentences end: Grapheme_Cluster_Break, Word_Break
and Sentence_Break of Unicode 16, from their definitions. Each is a list of classes in order of
precedence; a character belongs to the first class that claims it.
-/

namespace TableScript.Unicode

open CharSet

/-- A class of a boundary property: its names in lower case without separators, and the characters
it claims. -/
structure BreakClass where
  names : List String
  claims : CharSet

/-- The characters of the class of a name: what it claims and no class before it does. -/
def findBreak? (name : String) (taken : CharSet) : List BreakClass → Option CharSet
  | [] => none
  | c :: rest =>
    if c.names.contains name then some (c.claims.diff taken)
    else findBreak? name (taken.union c.claims) rest

/-- The line feed, the carriage return and the joiner, which are classes of their own. -/
def lineFeed : CharSet := .ofText ["A"]

/-- The carriage return. -/
def carriageReturn : CharSet := .ofText ["D"]

/-- The joiner of zero width. -/
def zeroWidthJoiner : CharSet := .ofText ["200D"]

/-! ## Graphemes -/

/-- Characters that form a grapheme with the one after them. -/
def prepend : CharSet :=
  prependedConcatenationMark.union
    (.ofText ["D4E 111C2-111C3 113D1 1193F 11941 11A3A 11A84-11A89 11D46 11F02"])

/-- Spacing marks that stand on their own. -/
def looseSpacingMark : CharSet :=
  .ofText ["102B-102C 1038 1062-1064 1067-106D 1083 1087-108C 108F 109A-109C 1A61 1A63-1A64",
    "AA7B AA7D 11720-11721"]

/-- Hangul syllables. -/
def hangulSyllable : CharSet := .ofText ["AC00-D7A3"]

/-- The classes of Grapheme_Cluster_Break. -/
def graphemeBreaks : List BreakClass := [
  ⟨["cr"], carriageReturn⟩,
  ⟨["lf"], lineFeed⟩,
  ⟨["zwj"], zeroWidthJoiner⟩,
  ⟨["ex", "extend"], graphemeExtend.union emojiModifier⟩,
  ⟨["pp", "prepend"], prepend⟩,
  ⟨["cn", "control"], unions [lineSeparator, paragraphSeparator, control, format,
    unassigned.inter defaultIgnorable]⟩,
  ⟨["ri", "regionalindicator"], regionalIndicator⟩,
  ⟨["sm", "spacingmark"], (spacingMark.diff looseSpacingMark).union (.ofText ["E33 EB3"])⟩,
  ⟨["l"], .ofText ["1100-115F A960-A97C"]⟩,
  ⟨["v"], .ofText ["1160-11A7 D7B0-D7C6 16D63 16D67-16D6A"]⟩,
  ⟨["t"], .ofText ["11A8-11FF D7CB-D7FB"]⟩,
  ⟨["lv"], .ofText ["AC00-D788/1C"]⟩,
  ⟨["lvt"], hangulSyllable⟩]

/-! ## Words -/

/-- The characters of a script. -/
def scriptChars (name : String) : CharSet := (script? name).getD empty

/-- Numbers in text: decimal digits, and the signs and separators written with them. -/
def numericChars : CharSet :=
  decimalNumber.union (.ofText ["600-605 66B 6DD 890-891 8E2 110BD 110CD"])

/-- Letters of scripts that are written without blanks between words. -/
def complexContext : CharSet :=
  .ofText ["E01-E3A E40-E4E E81-E82 E84 E86-E8A E8C-EA3 EA5 EA7-EBD EC0-EC4 EC6 EC8-ECE EDC-EDF",
    "1000-103F 1050-108F 109A-109F 1780-17D3 17D7 17DC-17DD 1950-196D 1970-1974 1980-19AB",
    "19B0-19C9 19DA 19DE-19DF 1A20-1A5E 1A60-1A7C 1AA0-1AAD A9E0-A9EF A9FA-A9FE AA60-AAC2",
    "AADB-AADF 11700-1171A 1171D-1172B 1173A-1173B 1173F-11746"]

/-- Characters that are treated as letters though they are none. -/
def extraWordLetter : CharSet :=
  .ofText ["2C2-2C5 2D2-2D7 2DE-2DF 2E5-2EB 2ED 2EF-2FF 55A-55C 55E 58A 5F3 A708-A716 A720-A721",
    "A789-A78A AB5B"]

/-- The classes of Word_Break. -/
def wordBreaks : List BreakClass := [
  ⟨["cr"], carriageReturn⟩,
  ⟨["lf"], lineFeed⟩,
  ⟨["nl", "newline"], .ofText ["B-C 85 2028-2029"]⟩,
  ⟨["zwj"], zeroWidthJoiner⟩,
  ⟨["extend"], unions [graphemeExtend, spacingMark, emojiModifier]⟩,
  ⟨["fo", "format"], (format.diff prepend).diff (.ofText ["200B"])⟩,
  ⟨["ri", "regionalindicator"], regionalIndicator⟩,
  ⟨["ka", "katakana"], (scriptChars "kana").union
    (.ofText ["3031-3035 309B-309C 30A0 30FC FF70"])⟩,
  ⟨["hl", "hebrewletter"], (scriptChars "hebr").inter otherLetter⟩,
  ⟨["sq", "singlequote"], .ofText ["27"]⟩,
  ⟨["dq", "doublequote"], .ofText ["22"]⟩,
  ⟨["mb", "midnumlet"], .ofText ["2E 2018-2019 2024 FE52 FF07 FF0E"]⟩,
  ⟨["ml", "midletter"], .ofText ["3A B7 387 55F 5F4 2027 FE13 FE55 FF1A"]⟩,
  ⟨["nu", "numeric"], numericChars⟩,
  ⟨["mn", "midnum"], .ofText ["2C 3B 37E 589 60C-60D 66C 7F8 2044 FE10 FE14 FE50 FE54 FF0C FF1B"]⟩,
  ⟨["ex", "extendnumlet"], connectorPunctuation.union (.ofText ["202F"])⟩,
  ⟨["wsegspace"], .ofText ["20 1680 2000-2006 2008-200A 205F 3000"]⟩,
  ⟨["le", "aletter"], (unions [alphabetic, extraWordLetter, prepend]).diff
    (unions [ideographic, complexContext, scriptChars "hira"])⟩]

/-! ## Sentences -/

/-- Letters of the Georgian script that have case but form sentences as if they had none. -/
def georgianSmall : CharSet := .ofText ["10D0-10FA 10FD-10FF"]

/-- Their capitals. -/
def georgianCapital : CharSet := .ofText ["1C90-1CBA 1CBD-1CBF"]

/-- The classes of Sentence_Break. -/
def sentenceBreaks : List BreakClass := [
  ⟨["cr"], carriageReturn⟩,
  ⟨["lf"], lineFeed⟩,
  ⟨["ex", "extend"], unions [graphemeExtend, spacingMark, zeroWidthJoiner]⟩,
  ⟨["se", "sep"], .ofText ["85 2028-2029"]⟩,
  ⟨["fo", "format"], format.diff prependedConcatenationMark⟩,
  ⟨["sp"], blank⟩,
  ⟨["lo", "lower"], lowercase.diff georgianSmall⟩,
  ⟨["up", "upper"], (titlecaseLetter.union uppercase).diff georgianCapital⟩,
  ⟨["le", "oletter"], alphabetic.union (.ofText ["A0 5F3 70F"])⟩,
  ⟨["nu", "numeric"], numericChars.union (.ofText ["66C"])⟩,
  ⟨["at", "aterm"], .ofText ["2E 2024 FE52 FF0E"]⟩,
  ⟨["st", "sterm"], sentenceTerminal⟩,
  ⟨["cl", "close"], unions [openPunctuation, closePunctuation, initialPunctuation,
    finalPunctuation, .ofText ["22 27 275B-2760 2E00-2E01 2E06-2E08 2E0B 1F676-1F678"]]⟩,
  ⟨["sc", "scontinue"], .ofText ["2C-2D 3A-3B 37E 55D 60C-60D 7F8 1802 1808 2013-2014 3001",
    "FE10-FE11 FE13-FE14 FE31-FE32 FE50-FE51 FE54-FE55 FE58 FE63 FF0C-FF0D FF1A-FF1B FF64"]⟩]

/-- The class of a name in one of the boundary properties. -/
def graphemeBreak? (name : String) : Option CharSet := findBreak? name empty graphemeBreaks

/-- The class of a name in Word_Break. -/
def wordBreak? (name : String) : Option CharSet := findBreak? name empty wordBreaks

/-- The class of a name in Sentence_Break. -/
def sentenceBreak? (name : String) : Option CharSet := findBreak? name empty sentenceBreaks

end TableScript.Unicode
