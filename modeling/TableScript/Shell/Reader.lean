import TableScript.Shell.Word

/-!
# Reading commands

Commands are read from text one complete line at a time, so that what stands before a mistake is
run before the mistake is found.

1. `readParts` reads the parts of a word, each `Mode` with its own end and its own quoting;
2. `readToken` reads a word, an operator or a redirection sign; a token can be put back;
3. the readers of lists, pipelines and commands follow the grammar, and fail at the first token that
   does not fit it;
4. a text that stands among the commands is read at the end of the line that asks for it.

The readers call each other on a fuel that bounds how deep they stand inside each other.
-/

namespace TableScript.Shell

/-- Why a command cannot be read. -/
inductive ReadFault where
  | unexpected (token : String) (expecting : Option String)
  | unterminatedQuote
  | unterminatedBackquote
  | missingBrace
  | missingParentheses
  | badLoopVariable
  | badFunctionName
  | exhausted
  deriving DecidableEq, Repr

/-- The wording of a fault. -/
def ReadFault.message : ReadFault → String
  | unexpected token none => token ++ " unexpected"
  | unexpected token (some wanted) => token ++ " unexpected (expecting " ++ wanted ++ ")"
  | unterminatedQuote => "Unterminated quoted string"
  | unterminatedBackquote => "EOF in backquote substitution"
  | missingBrace => "Missing '\x7d'"
  | missingParentheses => "Missing '))'"
  | badLoopVariable => "Bad for loop variable"
  | badFunctionName => "Bad function name"
  | exhausted => "too deep"

/-- A token. -/
inductive Token where
  | word (w : Word)
  | keyword (name : String)
  | operator (sign : String)
  | redirect (descriptor : Nat) (sign : String)
  | newline
  | stop

/-- A text among the commands that is still to be read. -/
structure AwaitedDocument where
  number : Nat
  delimiter : String
  /-- Whether tabs at the start of its lines are dropped. -/
  dropsTabs : Bool
  /-- Whether its parameters and commands are expanded. -/
  expands : Bool

/-- What is left to read. -/
structure Input where
  rest : List Char
  line : Nat := 1
  /-- A token that was put back. -/
  pushed : Option Token := none
  awaited : List AwaitedDocument := []
  /-- The texts read so far. -/
  documents : Array Word := #[]

/-- A fault and the line it was found on. -/
structure Misreading where
  fault : ReadFault
  line : Nat

/-- A reader of commands. -/
abbrev Reader := StateT Input (Except Misreading)

namespace Reader

/-- Fails. -/
def fail {α : Type} (fault : ReadFault) : Reader α := do throw ⟨fault, (← get).line⟩

/-- A token in a report. -/
def tokenText : Token → String
  | .word _ => "word"
  | .keyword name => "\"" ++ name ++ "\""
  | .operator sign => "\"" ++ sign ++ "\""
  | .redirect .. => "redirection"
  | .newline => "newline"
  | .stop => "end of file"

/-- Fails at a token. -/
def unexpected {α : Type} (t : Token) (expecting : Option String) : Reader α :=
  fail (.unexpected (tokenText t) (expecting.map fun s => "\"" ++ s ++ "\""))

/-- Puts a token back. -/
def pushBack (t : Token) : Reader Unit := modify fun s => { s with pushed := some t }

/-- Drops line breaks that a backslash hides. -/
def dropJoints (line : Nat) : List Char → List Char × Nat
  | '\\' :: '\n' :: rest => dropJoints (line + 1) rest
  | cs => (cs, line)

/-- The next character, after hidden line breaks. -/
def peek : Reader (Option Char) := do
  let s ← get
  let (rest, line) := dropJoints s.line s.rest
  set { s with rest, line }
  return rest.head?

/-- Drops the next character. -/
def advance : Reader Unit := modify fun s =>
  match s.rest with
  | [] => s
  | c :: rest => { s with rest, line := if c = '\n' then s.line + 1 else s.line }

/-- Drops the next character; a line break is not counted. -/
def dropUncounted : Reader Unit := modify fun s => { s with rest := s.rest.tail }

/-- Drops the next character if it is this one; the result says whether it was. -/
def accept (c : Char) : Reader Bool := do
  if (← peek) = some c then
    advance
    return true
  else return false

/-- Takes characters as long as they satisfy a condition. -/
def takeWhile (p : Char → Bool) : (fuel : Nat) → Reader (List Char)
  | 0 => return []
  | fuel + 1 => do
    match ← peek with
    | some c =>
      if p c then
        advance
        return c :: (← takeWhile p fuel)
      else return []
    | none => return []

/-- Drops blanks, hidden line breaks and a comment. -/
def dropBlanks (line : Nat) : List Char → List Char × Nat
  | '\\' :: '\n' :: rest => dropBlanks (line + 1) rest
  | ' ' :: rest | '\t' :: rest => dropBlanks line rest
  | '#' :: rest => (rest.dropWhile (· ≠ '\n'), line)
  | cs => (cs, line)

/-- The words with a meaning of their own at the start of a command. -/
def keywords : List String :=
  ["!", "\x7b", "\x7d", "case", "do", "done", "elif", "else", "esac", "fi", "for", "if", "in",
    "then", "until", "while"]

/-- Whether a token ends a list of commands. -/
def endsList : Token → Bool
  | .stop => true
  | .operator sign => sign = ")" || sign = ";;"
  | .keyword name => ["do", "done", "elif", "else", "esac", "fi", "then", "\x7d"].contains name
  | _ => false

/-- Whether a character ends a word. -/
def isBreak (c : Char) : Bool := " \t\n;&|<>()".toList.contains c

/-- Special parameters of one character. -/
def isSpecial (c : Char) : Bool := c.isDigit || "?$#@*!-".toList.contains c

/-- What kind of text parts are read from. -/
inductive Mode where
  /-- A word, up to a character that ends it. -/
  | word
  /-- Up to a double quote. -/
  | double
  /-- The argument of a parameter, up to a closing brace. -/
  | brace (isQuoted : Bool)
  /-- A sum, up to two closing parentheses; `depth` are open inside it. -/
  | sum (depth : Nat)
  /-- A text among the commands. -/
  | document
  deriving DecidableEq

/-- Whether parts are read as quoted. -/
def Mode.isQuoted : Mode → Bool
  | word => false
  | brace isQuoted => isQuoted
  | double | sum _ | document => true

/-- The characters that a backslash quotes. -/
def Mode.quotable : Mode → List Char
  | double | sum _ => ['$', '\x60', '"', '\\']
  | brace _ => ['$', '\x60', '"', '\\', '\x7d']
  | document | word => ['$', '\x60', '\\']

/-- What the end of the text means. -/
def atStop : Mode → Reader Word
  | .word | .document => return []
  | .double => fail .unterminatedQuote
  | .brace isQuoted => fail (if isQuoted then .unterminatedQuote else .missingBrace)
  | .sum _ => fail .missingParentheses

/-- The text between single quotes, after the first. -/
def readSingleQuoted : Reader Word := do
  let s ← get
  let (inner, rest) := s.rest.span (· ≠ '\'')
  set { s with rest := rest.tail, line := s.line + inner.count '\n' }
  if rest.isEmpty then fail .unterminatedQuote
  return .quotes :: inner.map (.char · true)

/-- The text of a command in backquotes, after the first, and the rest. A backslash quotes itself,
a backquote, a dollar sign, and in double quotes a double quote. -/
def takeBackquoted (isQuoted : Bool) : List Char → Option (List Char × List Char)
  | [] => none
  | '\x60' :: rest => some ([], rest)
  | '\\' :: c :: rest => do
    let (inner, after) ← takeBackquoted isQuoted rest
    if c = '\n' then some (inner, after)
    else if ['\\', '\x60', '$'].contains c || (isQuoted && c = '"') then some (c :: inner, after)
    else some ('\\' :: c :: inner, after)
  | c :: rest => do
    let (inner, after) ← takeBackquoted isQuoted rest
    some (c :: inner, after)

/-- The lines up to a delimiter or the end, the rest, and how many lines were read. The fuel is the
number of characters. -/
def takeDocument (delimiter : List Char) (dropsTabs : Bool) :
    (fuel : Nat) → List Char → List Char × List Char × Nat
  | 0, cs => ([], cs, 0)
  | _, [] => ([], [], 0)
  | fuel + 1, cs =>
    let cs := if dropsTabs then cs.dropWhile (· = '\t') else cs
    let (line, rest) := cs.span (· ≠ '\n')
    if line = delimiter then ([], rest.tail, 1)
    else
      let (more, after, count) := takeDocument delimiter dropsTabs fuel rest.tail
      (line ++ rest.take 1 ++ more, after, count + 1)

/-- The sign of a redirection, after its first character. -/
def readSign (first : Char) : Reader String := do
  if first = '>' then
    if ← accept '>' then return ">>"
    else if ← accept '&' then return ">&"
    else if ← accept '|' then return ">|"
    else return ">"
  else if ← accept '<' then
    if ← accept '-' then return "<<-" else return "<<"
  else if ← accept '&' then return "<&"
  else if ← accept '>' then return "<>"
  else return "<"

/-- The descriptor that stands before a redirection sign, if only that stands there. -/
def descriptorOf? (w : Word) (sign : Char) : Option Nat :=
  match w with
  | [] => some (if sign = '<' then 0 else 1)
  | [.char c false] => if c.isDigit then some (c.toNat - '0'.toNat) else none
  | _ => none

/-- Two commands after each other. -/
def join (acc : Option Command) (c : Command) : Command :=
  match acc with
  | some first => .sequence first c
  | none => c

/-- How a file is opened for a sign. -/
def openMode (sign : String) : OpenMode :=
  match sign with
  | "<" => .read
  | ">>" => .append
  | "<>" => .both
  | ">|" => .replace
  | _ => .write

/-- The built-in commands whose names no function can take. -/
def specialNames : List String :=
  [":", ".", "break", "continue", "eval", "exec", "exit", "export", "local", "readonly", "return",
    "set", "shift", "times", "trap", "unset"]

mutual

/-- Reads the parts up to the end of their kind of text. -/
def readParts : (fuel : Nat) → Mode → Reader Word
  | 0, _ => fail .exhausted
  | fuel + 1, mode => do
    match ← peek with
    | none => atStop mode
    | some c =>
      let q := mode.isQuoted
      match mode, c with
      | .double, '"' | .brace _, '\x7d' =>
        advance
        return []
      | .sum 0, ')' =>
        advance
        if ← accept ')' then return [] else return .char ')' true :: (← readParts fuel mode)
      | .sum (depth + 1), ')' =>
        advance
        return .char ')' true :: (← readParts fuel (.sum depth))
      | .sum depth, '(' =>
        advance
        return .char '(' true :: (← readParts fuel (.sum (depth + 1)))
      | mode, c =>
        if mode = .word && isBreak c then return []
        else
          advance
          if c = '\\' then
            match (← get).rest with
            | [] => return .char '\\' q :: (← readParts fuel mode)
            | e :: _ =>
              advance
              if !q || mode.quotable.contains e then
                return .char e true :: (← readParts fuel mode)
              else return .char '\\' true :: .char e true :: (← readParts fuel mode)
          else if c = '\'' && !q then
            let inner ← readSingleQuoted
            return inner ++ (← readParts fuel mode)
          else if c = '"' && (!q || mode = .brace true) then
            let inner ← readParts fuel .double
            return .quotes :: inner ++ (← readParts fuel mode)
          else if c = '$' then
            let parts ← readDollar fuel q
            return parts ++ (← readParts fuel mode)
          else if c = '\x60' then
            let part ← readBackquoted fuel q
            return part :: (← readParts fuel mode)
          else return .char c q :: (← readParts fuel mode)

/-- Reads what follows a dollar sign. -/
def readDollar : (fuel : Nat) → Bool → Reader Word
  | 0, _ => fail .exhausted
  | fuel + 1, isQuoted => do
    match ← peek with
    | some '(' =>
      advance
      if ← accept '(' then return [.arithmetic (← readParts fuel (.sum 0)) isQuoted]
      else return [.command (← readSubstitution fuel) isQuoted]
    | some '\x7b' =>
      advance
      return [← readBraced fuel isQuoted]
    | some c =>
      if Word.isNameStart c then
        let name ← takeWhile Word.isNameChar fuel
        return [.parameter (String.ofList name) .value [] isQuoted]
      else if isSpecial c then
        advance
        return [.parameter c.toString .value [] isQuoted]
      else return [.char '$' isQuoted]
    | none => return [.char '$' isQuoted]

/-- Reads a command up to its closing parenthesis. -/
def readSubstitution : (fuel : Nat) → Reader Command
  | 0 => fail .exhausted
  | fuel + 1 => do
    let outer := (← get).awaited
    modify fun s => { s with awaited := [] }
    let body ← readList fuel false true none
    match ← readToken fuel false false with
    | .operator ")" =>
      modify fun s => { s with awaited := outer }
      return body.getD .nothing
    | t => unexpected t (some ")")

/-- Reads a command in backquotes, after the first. -/
def readBackquoted : (fuel : Nat) → Bool → Reader Part
  | 0, _ => fail .exhausted
  | fuel + 1, isQuoted => do
    let s ← get
    match takeBackquoted isQuoted s.rest with
    | none =>
      set { s with line := s.line + s.rest.count '\n' }
      fail .unterminatedBackquote
    | some (inner, rest) =>
      -- lines are counted anew inside the quotes
      set { s with rest := inner, awaited := [], line := 1 }
      let body ← readList fuel false true none
      let line := s.line + s.rest.count '\n' - rest.count '\n'
      modify fun t => { t with rest, line, pushed := none, awaited := s.awaited }
      return .command (body.getD .nothing) isQuoted

/-- Reads a parameter in braces, after the first. -/
def readBraced : (fuel : Nat) → Bool → Reader Part
  | 0, _ => fail .exhausted
  | fuel + 1, isQuoted => do
    match ← peek with
    | some '#' =>
      advance
      match (← peek), (← get).rest.tail.head? with
      | some c, after =>
        if c.isAlphanum || c = '_' then
          let name ← takeWhile Word.isNameChar fuel
          readLength fuel isQuoted (String.ofList name)
        else if isSpecial c && after = some '\x7d' then
          advance
          readLength fuel isQuoted c.toString
        else readOperation fuel isQuoted "#"
      | none, _ => readOperation fuel isQuoted "#"
    | some c =>
      if Word.isNameStart c then
        let name ← takeWhile Word.isNameChar fuel
        readOperation fuel isQuoted (String.ofList name)
      else if c.isDigit then
        let name ← takeWhile Char.isDigit fuel
        readOperation fuel isQuoted (String.ofList name)
      else if isSpecial c then
        advance
        readOperation fuel isQuoted c.toString
      else
        if c ≠ '\x7d' then dropUncounted
        return .parameter "" .bad (← readParts fuel (.brace isQuoted)) isQuoted
    | none => readParts fuel (.brace isQuoted) >>= fun _ => fail .missingBrace

/-- Reads the end of a parameter whose length is asked for. -/
def readLength : (fuel : Nat) → Bool → String → Reader Part
  | 0, _, _ => fail .exhausted
  | fuel + 1, isQuoted, name => do
    if ← accept '\x7d' then return .parameter name .length [] isQuoted
    else return .parameter name .bad (← readParts fuel (.brace isQuoted)) isQuoted

/-- Reads what is done with a parameter, and its argument. -/
def readOperation : (fuel : Nat) → Bool → String → Reader Part
  | 0, _, _ => fail .exhausted
  | fuel + 1, isQuoted, name => do
    let finish (op : ParamOp) : Reader Part := do
      return .parameter name op (← readParts fuel (.brace isQuoted)) isQuoted
    let cut (op : ParamOp) : Reader Part := do
      return .parameter name op (← readParts fuel (.brace false)) isQuoted
    let spoilt : Reader Part := do
      dropUncounted
      finish .bad
    let orEmpty ← accept ':'
    match ← peek with
    | some '\x7d' =>
      advance
      if orEmpty then finish .value else return .parameter name .value [] isQuoted
    | some '-' =>
      advance
      finish (.otherwise orEmpty)
    | some '+' =>
      advance
      finish (.instead orEmpty)
    | some '=' =>
      advance
      finish (.assign orEmpty)
    | some '?' =>
      advance
      finish (.demand orEmpty)
    | some '%' =>
      if orEmpty then spoilt
      else
        advance
        cut (.cutEnd (← accept '%'))
    | some '#' =>
      if orEmpty then spoilt
      else
        advance
        cut (.cutStart (← accept '#'))
    | some _ => spoilt
    | none => readParts fuel (.brace isQuoted) >>= fun _ => fail .missingBrace

/-- Reads the texts that the commands of a line asked for. -/
def readDocuments : (fuel : Nat) → List AwaitedDocument → Reader Unit
  | 0, _ => fail .exhausted
  | _, [] => return ()
  | fuel + 1, d :: more => do
    let s ← get
    let (body, rest, count) :=
      takeDocument d.delimiter.toList d.dropsTabs (s.rest.length + 1) s.rest
    let word ← if d.expands then do
        set { s with rest := body }
        readParts fuel .document
      else pure (body.map (.char · true))
    modify fun t =>
      { t with rest, line := s.line + count, pushed := none
               documents := t.documents.setIfInBounds d.number word }
    readDocuments fuel more

/-- Reads a new token. -/
def readNewToken : (fuel : Nat) → Reader Token
  | 0 => fail .exhausted
  | fuel + 1 => do
    modify fun s =>
      let (rest, line) := dropBlanks s.line s.rest
      { s with rest, line }
    match ← peek with
    | none =>
      let awaited := (← get).awaited
      modify fun s => { s with awaited := [] }
      readDocuments fuel awaited
      return .stop
    | some '\n' =>
      advance
      let awaited := (← get).awaited
      modify fun s => { s with awaited := [] }
      readDocuments fuel awaited
      return .newline
    | some '&' =>
      advance
      if ← accept '&' then return .operator "&&" else return .operator "&"
    | some '|' =>
      advance
      if ← accept '|' then return .operator "||" else return .operator "|"
    | some ';' =>
      advance
      if ← accept ';' then return .operator ";;" else return .operator ";"
    | some '(' =>
      advance
      return .operator "("
    | some ')' =>
      advance
      return .operator ")"
    | some _ =>
      let w ← readParts fuel .word
      match ← peek with
      | some sign =>
        if sign = '<' || sign = '>' then
          match descriptorOf? w sign with
          | some n =>
            advance
            return .redirect n (← readSign sign)
          | none => return .word w
        else return .word w
      | none => return .word w

/-- Reads a token, perhaps one that was put back; line breaks may be skipped, and words may be taken
as keywords. -/
def readToken : (fuel : Nat) → (newlines : Bool) → (asKeyword : Bool) → Reader Token
  | 0, _, _ => fail .exhausted
  | fuel + 1, newlines, asKeyword => do
    let t ← match (← get).pushed with
      | some t =>
        modify fun s => { s with pushed := none }
        pure t
      | none => readNewToken fuel
    match t with
    | .newline => if newlines then readToken fuel newlines asKeyword else return t
    | .word w =>
      match Word.bare? w with
      | some s => if asKeyword && keywords.contains s then return .keyword s else return t
      | none => return t
    | t => return t

/-- Reads a list of commands after those read already. At the top a line break ends it; elsewhere a
token that closes the surrounding command does, once there may be an end. The result is nothing at
the end of the text. -/
def readList : (fuel : Nat) → (top : Bool) → (mayEnd : Bool) → Option Command →
    Reader (Option Command)
  | 0, _, _, _ => fail .exhausted
  | fuel + 1, top, mayEnd, acc => do
    match ← readToken fuel (!top) true with
    | .newline => return some (acc.getD .nothing)
    | .stop =>
      pushBack .stop
      return if top then acc else some (acc.getD .nothing)
    | t =>
      pushBack t
      if !top && mayEnd && endsList t then return some (acc.getD .nothing)
      let next ← readAndOr fuel
      let t ← readToken fuel false false
      match t with
      | .operator "&" => readList fuel top true (some (join acc (.background next)))
      | .operator ";" => readList fuel top true (some (join acc next))
      | .newline =>
        pushBack t
        readList fuel top true (some (join acc next))
      | .stop =>
        pushBack t
        return some (join acc next)
      | t =>
        if top then unexpected t none
        else
          pushBack t
          return some (join acc next)

/-- Reads a list of commands that is not empty. -/
def readBody : (fuel : Nat) → Reader Command
  | 0 => fail .exhausted
  | fuel + 1 => do return (← readList fuel false false none).getD .nothing

/-- Reads pipelines joined by `&&` and `||`. -/
def readAndOr : (fuel : Nat) → Reader Command
  | 0 => fail .exhausted
  | fuel + 1 => do readAndOrRest fuel (← readPipeline fuel)

/-- Reads what is joined to a command by `&&` and `||`. -/
def readAndOrRest : (fuel : Nat) → Command → Reader Command
  | 0, _ => fail .exhausted
  | fuel + 1, c => do
    match ← readToken fuel false false with
    | .operator "&&" => do readAndOrRest fuel (.both c (← readPipeline fuel))
    | .operator "||" => do readAndOrRest fuel (.either c (← readPipeline fuel))
    | t =>
      pushBack t
      return c

/-- Reads commands joined by pipes, perhaps negated. -/
def readPipeline : (fuel : Nat) → Reader Command
  | 0 => fail .exhausted
  | fuel + 1 => do
    match ← readToken fuel true true with
    | .keyword "!" => do return .negated (← readPipes fuel false)
    | t =>
      pushBack t
      readPipes fuel false

/-- Reads commands joined by pipes. -/
def readPipes : (fuel : Nat) → (newlines : Bool) → Reader Command
  | 0, _ => fail .exhausted
  | fuel + 1, newlines => do
    let first ← readCommand fuel newlines
    match ← readToken fuel false false with
    | .operator "|" => do return .pipe first (← readPipes fuel true)
    | t =>
      pushBack t
      return first

/-- Reads a token that has to be this one. -/
def expect : (fuel : Nat) → (newlines : Bool) → String → Reader Unit
  | 0, _, _ => fail .exhausted
  | fuel + 1, newlines, wanted => do
    match ← readToken fuel newlines true with
    | .keyword s => if s = wanted then return () else unexpected (.keyword s) (some wanted)
    | .operator s => if s = wanted then return () else unexpected (.operator s) (some wanted)
    | t => unexpected t (some wanted)

/-- Reads one command. -/
def readCommand : (fuel : Nat) → (newlines : Bool) → Reader Command
  | 0, _ => fail .exhausted
  | fuel + 1, newlines => do
    let t ← readToken fuel newlines true
    let line := (← get).line
    match t with
    | .keyword "if" => do
      let c ← readBranch fuel
      readRedirects fuel line c
    | .keyword "while" => do
      let c ← readLoop fuel false
      readRedirects fuel line c
    | .keyword "until" => do
      let c ← readLoop fuel true
      readRedirects fuel line c
    | .keyword "for" => do
      let c ← readEach fuel line
      readRedirects fuel line c
    | .keyword "case" => do
      let c ← readChoice fuel line
      readRedirects fuel line c
    | .operator "(" => do
      let body ← readBody fuel
      expect fuel false ")"
      readRedirects fuel line (.subshell body)
    | .keyword "\x7b" => do
      let body ← readBody fuel
      expect fuel false "\x7d"
      readRedirects fuel line body
    | .word _ | .redirect .. => do
      pushBack t
      readSimple fuel line [] [] []
    | t => unexpected t none

/-- Reads the redirections after a command that is no simple one. -/
def readRedirects : (fuel : Nat) → (line : Nat) → Command → Reader Command
  | 0, _, _ => fail .exhausted
  | fuel + 1, line, body => do
    match ← readToken fuel false true with
    | .redirect n sign => do
      let first ← readTarget fuel n sign
      match ← readRedirects fuel line body with
      | .redirected _ _ more => return .redirected line body (first :: more)
      | _ => return .redirected line body [first]
    | t =>
      pushBack t
      return body

/-- Reads where a redirection leads. -/
def readTarget : (fuel : Nat) → (descriptor : Nat) → (sign : String) → Reader Redirect
  | 0, _, _ => fail .exhausted
  | fuel + 1, descriptor, sign => do
    match ← readToken fuel false false with
    | .word w =>
      if sign = "<<" || sign = "<<-" then
        let (delimiter, isQuoted) := Word.unquoted w
        let number := (← get).documents.size
        modify fun s =>
          { s with
            documents := s.documents.push []
            awaited := s.awaited ++
              [{ number, delimiter, dropsTabs := sign = "<<-", expands := !isQuoted }] }
        return .document descriptor number
      else if sign = ">&" || sign = "<&" then return .duplicate descriptor w
      else return .file descriptor (openMode sign) w
    | t => unexpected t none

/-- Reads a simple command after what was read of it already, latest first. -/
def readSimple : (fuel : Nat) → (line : Nat) → List (String × Word) → List Word →
    List Redirect → Reader Command
  | 0, _, _, _, _ => fail .exhausted
  | fuel + 1, line, assignments, words, redirects => do
    match ← readToken fuel false false with
    | .word w =>
      match words, Word.assignment? w with
      | [], some a => readSimple fuel line (a :: assignments) words redirects
      | _, _ => readSimple fuel line assignments (w :: words) redirects
    | .redirect n sign => do
      let r ← readTarget fuel n sign
      readSimple fuel line assignments words (r :: redirects)
    | t =>
      match t, assignments, words, redirects with
      | .operator "(", [], [w], [] =>
        expect fuel false ")"
        match Word.bare? w with
        | some name =>
          if Word.isName name && !specialNames.contains name then
            let line := (← get).line
            return .define line name (← readCommand fuel true)
          else fail .badFunctionName
        | none => fail .badFunctionName
      | t, _, _, _ =>
        pushBack t
        return .simple line assignments.reverse words.reverse redirects.reverse

/-- Reads a condition and its branches, after the word that starts them. -/
def readBranch : (fuel : Nat) → Reader Command
  | 0 => fail .exhausted
  | fuel + 1 => do
    let condition ← readBody fuel
    expect fuel false "then"
    let yes ← readBody fuel
    match ← readToken fuel false true with
    | .keyword "elif" => do return .branch condition yes (← readBranch fuel)
    | .keyword "else" => do
      let no ← readBody fuel
      expect fuel false "fi"
      return .branch condition yes no
    | t =>
      pushBack t
      expect fuel false "fi"
      return .branch condition yes .nothing

/-- Reads the condition and body of a loop. -/
def readLoop : (fuel : Nat) → (untilTrue : Bool) → Reader Command
  | 0, _ => fail .exhausted
  | fuel + 1, untilTrue => do
    let condition ← readBody fuel
    expect fuel false "do"
    let body ← readBody fuel
    expect fuel false "done"
    return .loop untilTrue condition body

/-- Reads words up to another token, which is given back too. -/
def readWords : (fuel : Nat) → Reader (List Word × Token)
  | 0 => fail .exhausted
  | fuel + 1 => do
    match ← readToken fuel false false with
    | .word w => do
      let (more, t) ← readWords fuel
      return (w :: more, t)
    | t => return ([], t)

/-- Reads the name, words and body of a loop over words. -/
def readEach : (fuel : Nat) → (line : Nat) → Reader Command
  | 0, _ => fail .exhausted
  | fuel + 1, line => do
    let name ← match ← readToken fuel false false with
      | .word w =>
        match Word.bare? w with
        | some name => if Word.isName name then pure name else fail .badLoopVariable
        | none => fail .badLoopVariable
      | _ => fail .badLoopVariable
    let words ← match ← readToken fuel true true with
      | .keyword "in" => do
        let (words, t) ← readWords fuel
        match t with
        | .newline | .operator ";" => pure (some words)
        | t => unexpected t none
      | .operator ";" => pure none
      | t => do
        pushBack t
        pure none
    expect fuel true "do"
    let body ← readBody fuel
    expect fuel false "done"
    return .each line name words body

/-- Reads the word and items of a choice. -/
def readChoice : (fuel : Nat) → (line : Nat) → Reader Command
  | 0, _ => fail .exhausted
  | fuel + 1, line => do
    match ← readToken fuel false false with
    | .word w => do
      expect fuel true "in"
      return .choose line w (← readItems fuel)
    | t => unexpected t none

/-- Reads the items of a choice up to the word that ends it. -/
def readItems : (fuel : Nat) → Reader (List (List Word × Command))
  | 0 => fail .exhausted
  | fuel + 1 => do
    match ← readToken fuel true true with
    | .keyword "esac" => return []
    | t => do
      let t ← match t with
        | .operator "(" => readToken fuel false false
        | t => pure t
      let patterns ← readPatterns fuel t
      let body ← readList fuel false true none
      let item := (patterns, body.getD .nothing)
      match ← readToken fuel true true with
      | .keyword "esac" => return [item]
      | .operator ";;" => do return item :: (← readItems fuel)
      | t => unexpected t (some ";;")

/-- Reads the patterns of an item, the first of which is known, up to the parenthesis. -/
def readPatterns : (fuel : Nat) → Token → Reader (List Word)
  | 0, _ => fail .exhausted
  | fuel + 1, t => do
    let first : Word := match t with
      | .word w => w
      | .keyword s => s.toList.map (.char · false)
      | _ => []
    match ← readToken fuel false false with
    | .operator "|" => do return first :: (← readPatterns fuel (← readToken fuel false false))
    | .operator ")" => return [first]
    | t => unexpected t (some ")")

end

end Reader

/-- Reads the commands of the next line; nothing at the end of the text. -/
def Input.readLine (s : Input) : Except Misreading (Option Command × Input) :=
  (Reader.readList (8 * s.rest.length + 64) true false none).run { s with pushed := none }

end TableScript.Shell
