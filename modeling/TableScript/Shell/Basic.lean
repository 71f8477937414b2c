import TableScript.FileSystem
import TableScript.Text.Lossy

/-!
# Shell commands

What a command finds around it and what it leaves behind. Commands work on bytes, so inside a shell
a text is a string each of whose characters stands for one byte.
-/

namespace TableScript

/-- The result of a command. -/
structure ShellReply where
  stdout : String := ""
  stderr : String := ""
  code : Int32 := 0
  deriving DecidableEq, Repr, Inhabited

namespace Shell

/-- What a shell finds around it. -/
structure Host where
  files : FileSystem := {}
  /-- Where relative paths start. -/
  directory : Place := []
  /-- The variables of the environment. -/
  environment : List (String × String) := []
  /-- What is left to read from standard input. -/
  input : List UInt8 := []
  deriving Inhabited

/-- The string whose characters are these bytes. -/
def ofBytes (bytes : List UInt8) : String := String.ofList (bytes.map fun b => Char.ofNat b.toNat)

/-- The bytes that a string of bytes stands for. -/
def bytesOf (s : String) : List UInt8 := s.toList.map fun c => UInt8.ofNat c.toNat

/-- A text as a string of bytes. -/
def bytewise (s : String) : String := ofBytes (bytesOfText s)

/-- The text that a string of bytes writes. -/
def readable (s : String) : String := textOfBytes (bytesOf s)

end Shell
end TableScript
