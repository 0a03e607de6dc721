import KeyRelay.Shell.Words

/-!
Reading tokens: operators, redirections and words. What a word means depends on where it stands, so
the reader of commands says whether reserved words and aliases are looked for, and whether line ends
are passed over.
-/

namespace KeyRelay.Shell
open Reading

/-- What is looked for in front of the next token and in it. -/
structure Looking where
  passLines : Bool := false
  reserved : Bool := false
  aliases : Bool := false
  /-- The mark of a text, in which nothing is substituted. -/
  mark : Bool := false

/-- A redirection operator after the stream it is for, which `<` and `>` have defaults for. -/
def readRedirect (stream : Option Nat) : Reading Token := do
  let file (usual : Nat) (mode : OpenMode) : Token :=
    .redirect (.mk (stream.getD usual) (.file mode []))
  if (← next) = some '>' then
    match ← peek with
    | some '>' => skip; return file 1 .append
    | some '|' => skip; return file 1 .overwrite
    | some '&' => skip; return .redirect (.mk (stream.getD 1) (.stream []))
    | _ => return file 1 .write
  else
    match ← peek with
    | some '<' =>
      skip
      let dropTabs := (← peek) = some '-'
      if dropTabs then skip
      let id := (← get).opened
      let d : PendingDocument := ⟨id, [], false, dropTabs⟩
      modify fun s => { s with opened := id + 1, pending := s.pending ++ [d] }
      return .redirect (.mk (stream.getD 0) (.document id))
    | some '&' => skip; return .redirect (.mk (stream.getD 0) (.stream []))
    | some '>' => skip; return file 0 .readWrite
    | _ => return file 0 .read

/-- A word, or a redirection that a digit may stand in front of. -/
def readWordToken (inner : Reading Command) (mark : Bool) : Reading Token := do
  let b ← readWord inner { plain := mark }
  let c ← peek
  let word := b.word
  if (c = some '<' || c = some '>') && !b.quoted then
    match word with
    | [] => readRedirect none
    | [.text false [d]] =>
      if d.isDigit then readRedirect (some (Octets.digitValue d)) else return .word word false
    | _ => return .word word false
  else return .word word b.quoted

/-- The next token as it stands. -/
def rawToken (inner : Reading Command) (mark : Bool) : Nat → Reading Token
  | 0 => return .endOfFile
  | fuel + 1 => do
    let orDouble (c : Char) (one two : Token) : Reading Token := do
      skip
      if (← peek) = some c then
        skip
        return two
      else return one
    match ← peek with
    | none => return .endOfFile
    | some ' ' | some '\t' => skip; rawToken inner mark fuel
    | some '#' =>
      let s ← get
      moveTo (s.rest.dropWhile (· ≠ '\n')) 0
      rawToken inner mark fuel
    | some '\n' => moveTo ((← get).rest.drop 1) 1; return .newline
    | some '&' => orDouble '&' .ampersand .andThen
    | some '|' => orDouble '|' .pipe .orElse
    | some ';' => orDouble ';' .semicolon .endCase
    | some '(' => skip; return .openParen
    | some ')' => skip; return .closeParen
    | some _ => readWordToken inner mark

/-- Reads the texts that are due after a line end. -/
def readPending (inner : Reading Command) : Reading Unit := do
  let s ← get
  readDocuments (wordParts inner (2 * (← bound))) s.pending

/-- The characters of a word of which nothing is quoted or substituted. -/
def plain? (w : Word) : Option Octets :=
  match w with
  | [.text false cs] => some cs
  | _ => none

/-- A token, with what is looked for. -/
def token (inner : Reading Command) (l : Looking) : Nat → Reading Token
  | 0 => return .endOfFile
  | fuel + 1 => do
    let s ← get
    let t ← match s.pushed with
      | some t => set { s with pushed := none }; pure t
      | none => rawToken inner l.mark (← bound)
    match t with
    | .newline =>
      if l.passLines then
        readPending inner
        token inner l fuel
      else return t
    | .word w false =>
      match plain? w with
      | none => return t
      | some cs =>
        let name := String.ofList cs
        if l.reserved && reservedWords.contains name then return .reserved name
        let s ← get
        let left := s.rest.length
        let busy := s.busy.filter fun b => b.2 < left
        match if l.aliases then s.aliases.find? fun a => a.1 = cs else none with
        | some (_, value) =>
          if busy.any fun b => b.1 = cs then return t
          set { s with rest := value ++ s.rest, busy := (cs, left) :: busy }
          token inner l fuel
        | none => return t
    | t => return t

end KeyRelay.Shell
