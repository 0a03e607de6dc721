import KeyRelay.Shell.Syntax

/-!
The script as it is read: what is left of it, the line it stands on, and the texts that redirections
wait for. Reading is a state machine over it that ends at the first fault.
-/

namespace KeyRelay.Shell

/-- Words with a meaning of their own where a command may start. -/
def reservedWords : List String :=
  ["!", "case", "do", "done", "elif", "else", "esac", "fi", "for", "if", "in", "then", "until",
    "while", "\x7b", "\x7d"]

inductive Token where
  | endOfFile
  | newline
  | semicolon
  | ampersand
  | andThen
  | orElse
  | pipe
  | openParen
  | closeParen
  | endCase
  | redirect (r : Redirect)
  /-- A word, and whether any of it is quoted. -/
  | word (w : Word) (quoted : Bool)
  | reserved (name : String)

namespace Token

/-- A token as faults name it. -/
def shown : Token → String
  | .endOfFile => "end of file"
  | .newline => "newline"
  | .semicolon => "\";\""
  | .ampersand => "\"&\""
  | .andThen => "\"&&\""
  | .orElse => "\"||\""
  | .pipe => "\"|\""
  | .openParen => "\"(\""
  | .closeParen => "\")\""
  | .endCase => "\";;\""
  | .redirect _ => "redirection"
  | .word .. => "word"
  | .reserved name => "\"" ++ name ++ "\""

/-- The reserved word or operator that ends a list of commands. -/
def endsList : Token → Bool
  | .endOfFile | .closeParen | .endCase => true
  | .reserved name => ["do", "done", "elif", "else", "esac", "fi", "then", "\x7d"].contains name
  | _ => false

def isReserved (t : Token) (name : String) : Bool :=
  match t with
  | .reserved n => n = name
  | _ => false

end Token

/-- What is wrong with a script. -/
inductive SyntaxCause where
  | unexpected (found : String) (expected : Option String)
  | openQuote
  | openBrace
  | openArithmetic
  | openBackquote
  | badLoopName
  | badFunctionName
  | badStream
  deriving DecidableEq, Repr

structure SyntaxFault where
  line : Nat
  cause : SyntaxCause
  deriving DecidableEq, Repr

def SyntaxFault.message (f : SyntaxFault) : String :=
  "Syntax error: " ++
    match f.cause with
    | .unexpected found none => found ++ " unexpected"
    | .unexpected found (some expected) => found ++ " unexpected (expecting " ++ expected ++ ")"
    | .openQuote => "Unterminated quoted string"
    | .openBrace => "Missing '\x7d'"
    | .openArithmetic => "Missing '))'"
    | .openBackquote => "EOF in backquote substitution"
    | .badLoopName => "Bad for loop variable"
    | .badFunctionName => "Bad function name"
    | .badStream => "Bad fd number"

/-- A redirection that waits for the text that follows its line. -/
structure PendingDocument where
  id : Nat
  mark : Octets
  quoted : Bool
  dropTabs : Bool

/-- Texts of redirections by their number. -/
abbrev Documents := List (Nat × Word)

structure Source where
  rest : Octets
  line : Nat := 1
  /-- A token that was read and put back. -/
  pushed : Option Token := none
  pending : List PendingDocument := []
  documents : Documents := []
  /-- How many texts were announced so far. -/
  opened : Nat := 0
  /-- Other names of words that start a command. -/
  aliases : List (Octets × Octets) := []
  /-- Aliases that are being read, each with how much follows it. -/
  busy : List (Octets × Nat) := []

abbrev Reading := StateT Source (Except SyntaxFault)

namespace Reading

def refuse {α : Type} (cause : SyntaxCause) : Reading α := do
  throw ⟨(← get).line, cause⟩

/-- Moves past characters that hold this many line ends. -/
def moveTo (rest : Octets) (lineEnds : Nat) : Reading Unit :=
  modify fun s => { s with rest, line := s.line + lineEnds }

/-- Without the line ends that a backslash hides, and how many there were. -/
def joined : Nat → Octets → Octets × Nat
  | n, '\\' :: '\n' :: rest => joined (n + 1) rest
  | n, rest => (rest, n)

/-- The next character, hidden line ends passed over; it is not consumed. -/
def peek : Reading (Option Char) := do
  let (rest, n) := joined 0 (← get).rest
  if n ≠ 0 then moveTo rest n
  return rest.head?

/-- Consumes a character that was looked at. -/
def skip : Reading Unit :=
  modify fun s => { s with rest := s.rest.drop 1 }

/-- The next character, consumed. -/
def next : Reading (Option Char) := do
  let c ← peek
  if c.isSome then skip
  return c

/-- Characters that satisfy a test, hidden line ends passed over. -/
def takeWhile (p : Char → Bool) : Nat → Octets → Reading Octets
  | 0, taken => return taken.reverse
  | fuel + 1, taken => do
    match ← peek with
    | some c =>
      if p c then
        skip
        takeWhile p fuel (c :: taken)
      else return taken.reverse
    | none => return taken.reverse

/-- A bound on the steps that reading what is left can take. -/
def bound : Reading Nat := do
  return (← get).rest.length + 2

def putBack (t : Token) : Reading Unit :=
  modify fun s => { s with pushed := some t }

/-- Refuses a token, with what was expected where that is known. -/
def unexpected {α : Type} (t : Token) (expected : Option Token) : Reading α :=
  refuse (.unexpected t.shown (expected.map Token.shown))

end Reading

end KeyRelay.Shell
