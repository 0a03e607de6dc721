import KeyRelay.Shell.Tokens

/-!
Commands from tokens: lists of and-or lists of pipelines of commands. Each reader is given the
reader of the commands inside (`inner`), so that only `command` recurs, with fuel for how deep
commands stand in each other. A script is read and run one complete line at a time: `nextCommand?`
gives the command up to a line end.
-/

namespace KeyRelay.Shell
open Reading

/-- Where a list of commands stands. -/
inductive ListKind where
  /-- A whole line of a script. -/
  | line
  /-- At least one command, up to a word or operator that ends lists. -/
  | filled
  /-- Such a list that may also be empty. -/
  | possiblyEmpty
  deriving DecidableEq, Repr

/-- A list of commands, from the reader of one command. -/
structure Readers where
  command : Reading Command
  /-- What stands in command substitutions. -/
  script : Reading Command

namespace Readers

def next (r : Readers) (l : Looking) : Reading Token := do
  token r.script l (← bound)

/-- Looks for everything, line ends passed over. -/
def anywhere : Looking := { passLines := true, reserved := true, aliases := true }

def here : Looking := { reserved := true, aliases := true }

/-- Takes a token that has to be there. -/
def expect (r : Readers) (l : Looking) (wanted : Token) (matching : Token → Bool) :
    Reading Unit := do
  let t ← r.next l
  if matching t then return () else unexpected t (some wanted)

def expectWord (r : Readers) (l : Looking) (name : String) : Reading Unit :=
  r.expect l (.reserved name) (·.isReserved name)

/-! ### Simple commands -/

/-- The redirection that an operator begins, with the word after it. -/
def redirection (r : Readers) (x : Redirect) : Reading Redirect := do
  let .mk stream target := x
  let isDocument := match target with | .document _ => true | _ => false
  match ← r.next { mark := isDocument } with
  | .word w quoted =>
    match target with
    | .file mode _ => return .mk stream (.file mode w)
    | .stream _ => return .mk stream (.stream w)
    | .document id =>
      let mark := w.flatMap fun p => match p with | .text _ cs => cs | _ => []
      modify fun s =>
        { s with
          pending := s.pending.map fun d => if d.id = id then { d with mark, quoted } else d }
      return x
  | t => unexpected t none

/-- Redirections in front of other tokens. -/
def redirections (r : Readers) (l : Looking) : Nat → List Redirect → Reading (List Redirect)
  | 0, read => return read
  | fuel + 1, read => do
    match ← r.next l with
    | .redirect x =>
      let x ← r.redirection x
      r.redirections {} fuel (read ++ [x])
    | t =>
      putBack t
      return read

/-- A name and an equality sign at the front of a word, and the word after them. -/
def assignment? (w : Word) : Option (Octets × Word) :=
  match w with
  | .text false cs :: more =>
    let name := cs.takeWhile isNameChar
    match cs.dropWhile isNameChar with
    | '=' :: value =>
      if isName name then some (name, (if value.isEmpty then [] else [.text false value]) ++ more)
        else none
    | _ => none
  | _ => none

/-- Commands that functions cannot be named after. -/
def specialNames : List String :=
  [".", ":", "break", "continue", "eval", "exec", "exit", "export", "readonly", "return", "set",
    "shift", "times", "trap", "unset"]

/-- What was read of a simple command. -/
structure Simple where
  assigned : List (Octets × Word) := []
  words : List Word := []
  redirects : List Redirect := []

/-- Words, assignments in front of them and redirections among them; or a function's name and
body. -/
def simple (r : Readers) (line : Nat) : Nat → Simple → Reading Command
  | 0, s => return .simple line s.assigned s.words s.redirects
  | fuel + 1, s => do
    match ← r.next { aliases := s.words.isEmpty } with
    | .word w _ =>
      match if s.words.isEmpty then assignment? w else none with
      | some a => r.simple line fuel { s with assigned := s.assigned ++ [a] }
      | none => r.simple line fuel { s with words := s.words ++ [w] }
    | .redirect x =>
      let x ← r.redirection x
      r.simple line fuel { s with redirects := s.redirects ++ [x] }
    | .openParen =>
      match s.words, s.assigned, s.redirects with
      | [w], [], [] =>
        r.expect {} .closeParen fun t => match t with | .closeParen => true | _ => false
        match plain? w with
        | some name =>
          if !isName name || specialNames.contains (String.ofList name) then refuse .badFunctionName
          let t ← r.next anywhere
          putBack t
          return .define name (← r.command)
        | none => refuse .badFunctionName
      | _, _, _ =>
        putBack .openParen
        return .simple line s.assigned s.words s.redirects
    | t =>
      putBack t
      return .simple line s.assigned s.words s.redirects

/-! ### Lists -/

/-- Parts of a pipeline after the first. -/
def piped (r : Readers) : Nat → List Command → Reading Command
  | 0, read => return .pipeline read
  | fuel + 1, read => do
    match ← r.next {} with
    | .pipe =>
      let t ← r.next anywhere
      putBack t
      let c ← r.command
      r.piped fuel (read ++ [c])
    | t =>
      putBack t
      match read with
      | [c] => return c
      | cs => return .pipeline cs

/-- A pipeline, whose first token is looked for as told. -/
def pipeline (r : Readers) (l : Looking) : Reading Command := do
  let t ← r.next l
  let negated := t.isReserved "!"
  if negated then
    let t ← r.next here
    putBack t
  else putBack t
  let c ← r.command
  let c ← r.piped (← bound) [c]
  return if negated then .negate c else c

/-- Pipelines joined from the left. -/
def joined (r : Readers) : Nat → Command → Reading Command
  | 0, first => return first
  | fuel + 1, first => do
    match ← r.next {} with
    | .andThen => r.joined fuel (.both first (← r.pipeline anywhere))
    | .orElse => r.joined fuel (.either first (← r.pipeline anywhere))
    | t =>
      putBack t
      return first

def sequenceOf (read : List Command) : Command :=
  match read with
  | [] => .nothing
  | [c] => c
  | cs => .sequence cs

/-- The commands of a list after those that are read. -/
def listFrom (r : Readers) (kind : ListKind) : Nat → List Command → Reading Command
  | 0, read => return sequenceOf read
  | fuel + 1, read => do
    let t ← r.next { here with passLines := kind ≠ .line }
    match t with
    | .newline =>
      readPending r.script
      return sequenceOf read
    | .endOfFile =>
      readPending r.script
      putBack t
      return sequenceOf read
    | t =>
      putBack t
      if kind ≠ .line && (kind = .possiblyEmpty || !read.isEmpty) && t.endsList
        then return sequenceOf read
      let first ← r.pipeline here
      let c ← r.joined (← bound) first
      match ← r.next {} with
      | .semicolon => r.listFrom kind fuel (read ++ [c])
      | .ampersand => r.listFrom kind fuel (read ++ [.background c])
      | .newline =>
        putBack .newline
        r.listFrom kind fuel (read ++ [c])
      | .endOfFile =>
        readPending r.script
        putBack .endOfFile
        return sequenceOf (read ++ [c])
      | t =>
        if kind = .line then unexpected t none
        putBack t
        return sequenceOf (read ++ [c])

def list (r : Readers) (kind : ListKind) : Reading Command := do
  r.listFrom kind (← bound) []

/-! ### Compound commands -/

/-- Branches after a condition's first word, up to the closing word. -/
def branches (r : Readers) : Nat → Reading Command
  | 0 => return .nothing
  | fuel + 1 => do
    let condition ← r.list .filled
    r.expectWord {} "then"
    let yes ← r.list .filled
    let t ← r.next {}
    if t.isReserved "elif" then return .choose condition yes (← r.branches fuel)
    else if t.isReserved "else" then
      let no ← r.list .filled
      r.expectWord {} "fi"
      return .choose condition yes no
    else if t.isReserved "fi" then return .choose condition yes .nothing
    else unexpected t (some (.reserved "fi"))

/-- The words of a loop, up to a separator. -/
def loopWords (r : Readers) : Nat → List Word → Reading (List Word)
  | 0, read => return read
  | fuel + 1, read => do
    match ← r.next {} with
    | .word w _ => r.loopWords fuel (read ++ [w])
    | .newline => readPending r.script; return read
    | .semicolon => return read
    | t => unexpected t none

/-- The parameters as the words of a loop. -/
def everyParameter : List Word :=
  [[.parameter true ['@'] .value]]

def forEach (r : Readers) (line : Nat) : Reading Command := do
  match ← r.next {} with
  | .word w quoted =>
    let name := (plain? w).getD []
    if quoted || !isName name then refuse .badLoopName
    let t ← r.next anywhere
    let words ←
      if t.isReserved "in" then r.loopWords (← bound) []
      else
        match t with
        | .semicolon => pure everyParameter
        | t =>
          putBack t
          pure everyParameter
    r.expectWord anywhere "do"
    let body ← r.list .filled
    r.expectWord {} "done"
    return .forEach line name words body
  | _ => refuse .badLoopName

/-- The word of a token that may stand in a pattern; of marks, only what follows them is looked
at. -/
def patternOf (t : Token) : Word :=
  match t with
  | .word w _ => w
  | .reserved name => [.text false name.toList]
  | _ => []

/-- The patterns of an arm, from its first token up to the closing parenthesis. -/
def patterns (r : Readers) : Nat → Token → List Word → Reading (List Word)
  | 0, _, read => return read
  | fuel + 1, t, read => do
    let read := read ++ [patternOf t]
    match ← r.next {} with
    | .pipe => r.patterns fuel (← r.next {}) read
    | .closeParen => return read
    | t => unexpected t (some .closeParen)

/-- The arms of a selection, from the first token of one. -/
def arms (r : Readers) : Nat → List (List Word × Command) → Reading (List (List Word × Command))
  | 0, read => return read
  | fuel + 1, read => do
    let looking : Looking := { passLines := true, reserved := true }
    let t ← r.next looking
    if t.isReserved "esac" then return read
    let t ← match t with
      | .openParen => r.next {}
      | t => pure t
    let ps ← r.patterns (← bound) t []
    let body ← r.list .possiblyEmpty
    let read := read ++ [(ps, body)]
    let t ← r.next looking
    match t with
    | .endCase => r.arms fuel read
    | t => if t.isReserved "esac" then return read else unexpected t (some .endCase)

def select (r : Readers) (line : Nat) : Reading Command := do
  match ← r.next {} with
  | .word w _ =>
    r.expectWord anywhere "in"
    return .select line w (← r.arms (← bound) [])
  | t => unexpected t (some (.word [] false))

/-- A command that is not simple, after its first token; none where the token starts no such
command. -/
def compound? (r : Readers) (line : Nat) (t : Token) : Reading (Option Command) := do
  match t with
  | .openParen =>
    let c ← r.list .filled
    r.expect {} .closeParen fun t => match t with | .closeParen => true | _ => false
    return some (.subshell line c [])
  | .reserved "\x7b" =>
    let c ← r.list .filled
    r.expectWord {} "\x7d"
    return some c
  | .reserved "if" => return some (← r.branches (← bound))
  | .reserved "while" | .reserved "until" =>
    let condition ← r.list .filled
    r.expectWord {} "do"
    let body ← r.list .filled
    r.expectWord {} "done"
    return some (.repeatWhile (t.isReserved "while") condition body)
  | .reserved "for" => return some (← r.forEach line)
  | .reserved "case" => return some (← r.select line)
  | _ => return none

/-- One command; its first token was put back. -/
def one (r : Readers) : Reading Command := do
  let t ← r.next {}
  let line := (← get).line
  match t with
  | .word .. | .redirect _ =>
    putBack t
    r.simple line (← bound) {}
  | t =>
    match ← r.compound? line t with
    | none => unexpected t none
    | some c =>
      match ← r.redirections here (← bound) [], c with
      | [], c => return c
      | rs, .subshell line c _ => return .subshell line c rs
      | rs, c => return .redirected line c rs

end Readers

/-- Readers for commands that stand in each other up to a depth. -/
def readers : Nat → Readers
  | 0 => { command := return .nothing, script := return .nothing }
  | depth + 1 =>
    let r := readers depth
    { command := r.one, script := r.list .possiblyEmpty }

/-- How deep commands may stand in each other. -/
def deepest : Nat := 400

/-- The next complete command of a script: none at its end. -/
def nextCommand? : Reading (Option Command) := do
  let c ← (readers deepest).list .line
  match (← get).pushed, c with
  | some .endOfFile, .nothing => return none
  | _, c => return some c

end KeyRelay.Shell
