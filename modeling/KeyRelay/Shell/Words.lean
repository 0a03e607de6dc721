import KeyRelay.Shell.Source

/-!
Reading words. A word is read in a context: bare, between double quotes, as the text of a
redirection or as arithmetic, and each of them also as an operand in braces. What stands in a
command substitution is read by the reader of commands, which these functions are given.
-/

namespace KeyRelay.Shell

inductive Style where
  | bare
  | doubled
  | document
  | arithmetic
  deriving DecidableEq, Repr

structure Context where
  style : Style := .bare
  /-- An operand, which ends at a closing brace. -/
  inBraces : Bool := false
  /-- Within double quotes of its own in an operand that stands between double quotes. -/
  toggled : Bool := false
  /-- Parentheses that are open in arithmetic. -/
  parens : Nat := 0
  /-- Nothing is substituted. -/
  plain : Bool := false

/-- Ends a word where it is not quoted. -/
def isMeta (c : Char) : Bool :=
  c = ' ' || c = '\t' || c = '\n' || c = ';' || c = '&' || c = '|' || c = '(' || c = ')' || c =
    '<' || c = '>'

def isNameStart (c : Char) : Bool :=
  c.isAlpha || c = '_'

def isNameChar (c : Char) : Bool :=
  c.isAlphanum || c = '_'

def isName (cs : Octets) : Bool :=
  match cs with
  | c :: rest => isNameStart c && rest.all isNameChar
  | [] => false

/-- A parameter of one character. -/
def isSpecial (c : Char) : Bool :=
  c.isDigit || c = '#' || c = '@' || c = '*' || c = '?' || c = '$' || c = '!' || c = '-'

/-- A word that is being read; parts and characters newest first. -/
structure Building where
  parts : Word := []
  run : Octets := []
  runQuoted : Bool := false
  /-- Some of it was quoted. -/
  quoted : Bool := false

namespace Building

def close (b : Building) : Building :=
  if b.run.isEmpty then b else
    { b with parts := .text b.runQuoted b.run.reverse :: b.parts, run := [] }

def char (quoted : Bool) (c : Char) (b : Building) : Building :=
  if b.runQuoted = quoted then { b with run := c :: b.run }
  else { b.close with run := [c], runQuoted := quoted }

def part (p : Part) (b : Building) : Building :=
  { b.close with parts := p :: b.close.parts }

/-- Parts between quotes; nothing between quotes still makes a word. -/
def quotedParts (w : Word) (b : Building) : Building :=
  let b := { b.close with quoted := true }
  if w.isEmpty then b.part (.text true []) else { b with parts := w.reverse ++ b.parts }

def word (b : Building) : Word :=
  b.close.parts.reverse

end Building

open Reading

/-- The characters of a backquoted script; a backslash guards few characters there. -/
def backquoted (doubled : Bool) : Nat → Octets → Reading Octets
  | 0, _ => refuse .openBackquote
  | fuel + 1, taken => do
    match ← next with
    | none => refuse .openBackquote
    | some '`' => return taken.reverse
    | some '\\' =>
      let s ← get
      match s.rest with
      | [] => refuse .openBackquote
      | c :: rest =>
        moveTo rest 0
        if c = '\\' ∨ c = '`' ∨ c = '$' ∨ (doubled ∧ c = '"')
          then backquoted doubled fuel (c :: taken)
        else backquoted doubled fuel (c :: '\\' :: taken)
    | some c =>
      if c = '\n' then modify fun s => { s with line := s.line + 1 }
      backquoted doubled fuel (c :: taken)

/-- The command of a script that is given as characters; what follows the command is ignored. -/
def commandOf (inner : Reading Command) (script : Octets) : Reading Command := do
  let outer ← get
  set { outer with rest := script, line := 1, pushed := none, pending := [] }
  let c ← inner
  modify fun s => { outer with documents := s.documents, opened := s.opened }
  return c

/-- The lines of a text up to its mark, and what follows; a line that a backslash joins to the one
before it is not looked at. The count is that of the lines taken. -/
def documentLines (d : PendingDocument) : Nat → Octets → Bool → Nat → Octets → Octets × Octets × Nat
  | 0, taken, _, n, rest => (taken, rest, n)
  | _ + 1, taken, _, n, [] => (taken, [], n)
  | fuel + 1, taken, continued, n, rest =>
    let raw := rest.takeWhile (· ≠ '\n')
    let after := rest.drop (raw.length + 1)
    let line := if d.dropTabs && !continued then raw.dropWhile (· = '\t') else raw
    if !continued && line = d.mark then (taken, after, n + 1)
    else
      let continues := !d.quoted && (line.reverse.takeWhile (· = '\\')).length % 2 = 1
      let lineEnd := if raw.length < rest.length then ['\n'] else []
      documentLines d fuel (taken ++ line ++ lineEnd) continues (n + 1) after

/-- Reads the texts that redirections wait for. -/
def readDocuments (self : Context → Building → Reading Building) :
    List PendingDocument → Reading Unit
  | [] => modify fun s => { s with pending := [] }
  | d :: more => do
    let outer ← get
    let (body, rest, n) := documentLines d (← bound) [] false 0 outer.rest
    let w ←
      if d.quoted then pure [.text true body]
      else
        set { outer with rest := body }
        pure (← self { style := .document } {}).word
    modify fun s =>
      { outer with
        rest, line := outer.line + n, documents := (d.id, w) :: s.documents, opened := s.opened }
    readDocuments self more

/-- What follows a dollar sign and a parenthesis, up to the one that closes it. -/
def substituted (inner : Reading Command) (self : Context → Building → Reading Building) :
    Reading Command := do
  let pending := (← get).pending
  modify fun s => { s with pending := [] }
  let c ← inner
  let s ← get
  match s.pushed with
  | some .closeParen => set { s with pushed := none }
  | some t => unexpected t (some .closeParen)
  | none => refuse .openBackquote
  readDocuments self s.pending
  modify fun s => { s with pending }
  return c

/-- The operator after a parameter's name, by its first character; `none` where there is no
operand. -/
def operator? (c : Char) : Option (Bool → Word → Use) :=
  if c = '-' then some .orElse
  else if c = '=' then some .orAssign
  else if c = '?' then some .orFail
  else if c = '+' then some .ifSet
  else none

/-- What follows a parameter's name in braces. -/
def use (operand : Context → Reading Word) (style : Style) : Reading Use := do
  let same : Context := { style, inBraces := true }
  let bare : Context := { inBraces := true }
  let cut (how : Bool → Cut) (mark : Char) : Reading Use := do
    if (← peek) = some mark then
      skip
      return .cut (how true) (← operand bare)
    else return .cut (how false) (← operand bare)
  match ← next with
  | some '\x7d' => return .value
  | some '#' => cut .front '#'
  | some '%' => cut .back '%'
  | some ':' =>
    match ← next with
    | some '\x7d' => return .value
    | c =>
      match c.bind operator? with
      | some make => return make true (← operand same)
      | none => let _ ← operand same; return .unknown
  | c =>
    match c.bind operator? with
    | some make => return make false (← operand same)
    | none => let _ ← operand same; return .unknown

/-- A parameter after a dollar sign; its first character is still to be read. -/
def parameter (operand : Context → Reading Word) (style : Style) : Reading Part := do
  let quoted := style ≠ .bare
  let fuel ← bound
  match ← peek with
  | some '\x7b' =>
    skip
    let unknown (name : Octets) : Reading Part := do
      let _ ← operand { style, inBraces := true }
      return .parameter quoted name .unknown
    match ← peek with
    | none => unknown []
    | some c =>
      if isNameStart c then
        let name ← takeWhile isNameChar fuel []
        return .parameter quoted name (← use operand style)
      else if c.isDigit then
        let name ← takeWhile Char.isDigit fuel []
        return .parameter quoted name (← use operand style)
      else if c = '#' then
        skip
        match ← peek with
        | none => unknown []
        | some d =>
          if isNameChar d then
            let name ← takeWhile (if d.isDigit then Char.isDigit else isNameChar) fuel []
            if (← peek) = some '\x7d' then
              skip
              return .parameter quoted name .size
            else unknown name
          else
            match (← get).rest.drop 1 with
            | '\x7d' :: rest =>
              if d ≠ '\x7d' ∧ isSpecial d then
                moveTo rest 0
                return .parameter quoted [d] .size
              else return .parameter quoted ['#'] (← use operand style)
            | _ => return .parameter quoted ['#'] (← use operand style)
      else if c = '\x7d' then unknown []
      else
        skip
        if isSpecial c then return .parameter quoted [c] (← use operand style) else unknown []
  | some c =>
    if isNameStart c then return .parameter quoted (← takeWhile isNameChar fuel []) .value
    else
      skip
      return .parameter quoted [c] .value
  | none => return .text quoted ['$']

/-- What a dollar sign starts; the sign itself is consumed. -/
def dollar (inner : Reading Command) (self : Context → Building → Reading Building)
    (ctx : Context) :
    Reading Part := do
  let quoted := ctx.style ≠ .bare
  let operand (ctx : Context) : Reading Word := return (← self ctx {}).word
  match ← peek with
  | some '(' =>
    skip
    if (← peek) = some '(' then
      skip
      return .arithmetic quoted (← operand { style := .arithmetic })
    else return .output quoted (← substituted inner self)
  | some c =>
    if c = '\x7b' || isNameStart c || isSpecial c then parameter operand ctx.style
      else return .text quoted ['$']
  | none => return .text quoted ['$']

/-- The end of the script inside a word. -/
def atEnd (ctx : Context) (b : Building) : Reading Building :=
  match ctx.style with
  | .arithmetic => refuse .openArithmetic
  | .doubled => refuse .openQuote
  | .document => if ctx.inBraces then refuse .openBrace else return b
  | .bare => if ctx.inBraces then refuse .openBrace else return b

/-- Whether a backslash guards this character between double quotes. -/
def isGuarded (ctx : Context) (c : Char) : Bool :=
  c = '\\' || c = '`' || c = '$' || (c = '"' && (ctx.style = .doubled || ctx.inBraces)) ||
    (c = '\x7d' && ctx.inBraces)

/-- One step of reading a word; `self` reads on, in the same context or in one inside it. -/
def wordStep (inner : Reading Command) (self : Context → Building → Reading Building)
    (ctx : Context) (b : Building) : Reading Building := do
  let quoted := ctx.style ≠ .bare
  match ← peek with
  | none => atEnd ctx b
  | some c =>
    if c = '\n' then
      if ctx.style = .bare && !ctx.inBraces then return b
      moveTo ((← get).rest.drop 1) 1
      self ctx (b.char quoted c)
    else if c = '\\' then
      skip
      match (← get).rest with
      | [] => self ctx (b.char true '\\')
      | d :: rest =>
        moveTo rest 0
        let b := { b with quoted := true }
        if quoted && !isGuarded ctx d then self ctx ((b.char true '\\').char true d)
          else self ctx (b.char true d)
    else if c = '\'' && ctx.style = .bare then
      skip
      let s ← get
      let chars := s.rest.takeWhile (· ≠ '\'')
      moveTo (s.rest.drop chars.length) (chars.count '\n')
      if (← get).rest.isEmpty then refuse .openQuote
      skip
      self ctx (b.quotedParts (if chars.isEmpty then [] else [.text true chars]))
    else if c = '"' && (ctx.style = .bare || ctx.style = .doubled) &&
        !(ctx.style = .doubled && ctx.inBraces) then
      skip
      if ctx.style = .doubled then return b
      let inside ← self { style := .doubled, plain := ctx.plain } {}
      self ctx (b.quotedParts inside.word)
    else if c = '"' && ctx.inBraces && ctx.style ≠ .arithmetic then
      skip
      self { ctx with toggled := !ctx.toggled } { b with quoted := true }
    else if c = '$' && !ctx.plain then
      skip
      self ctx (b.part (← dollar inner self ctx))
    else if c = '`' && !ctx.plain then
      skip
      let script ← backquoted quoted (← bound) []
      self ctx (b.part (.output quoted (← commandOf inner script)))
    else if c = '\x7d' && ctx.inBraces && !ctx.toggled then
      skip
      return b
    else if ctx.style = .arithmetic && !ctx.inBraces && c = '(' then
      skip
      self { ctx with parens := ctx.parens + 1 } (b.char quoted c)
    else if ctx.style = .arithmetic && !ctx.inBraces && c = ')' then
      skip
      if ctx.parens ≠ 0 then self { ctx with parens := ctx.parens - 1 } (b.char quoted c)
      else if (← peek) = some ')' then
        skip
        return b
      else self ctx (b.char quoted c)
    else if ctx.style = .bare && !ctx.inBraces && isMeta c then return b
    else
      skip
      self ctx (b.char quoted c)

/-- Reads parts of a word up to where its context ends. -/
def wordParts (inner : Reading Command) : Nat → Context → Building → Reading Building
  | 0, _, b => return b
  | fuel + 1, ctx, b => wordStep inner (wordParts inner fuel) ctx b

/-- Reads a word in a context. -/
def readWord (inner : Reading Command) (ctx : Context) : Reading Building := do
  wordParts inner (2 * (← bound)) ctx {}

end KeyRelay.Shell
