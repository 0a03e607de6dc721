import KeyRelay.Tools.Edit.Command

/-!
Reading scripts that edit lines. A fault tells how much of the script had been read.
-/

namespace KeyRelay.Tools.Edit
open Shell

/-- Where reading stands: what is left, and how much came before it. -/
structure Place where
  rest : Octets
  taken : Nat := 0

/-- Readers; a fault comes with what had been taken. -/
abbrev Reading := StateT Place (Except (Nat × Fault))

namespace Reading

def fail {α : Type} (f : Fault) : Reading α := do
  throw ((← get).taken, f)

def peek? : Reading (Option Char) := do
  return (← get).rest.head?

def take? : Reading (Option Char) := do
  let p ← get
  match p.rest with
  | [] => return none
  | c :: rest =>
    set ({ rest, taken := p.taken + 1 } : Place)
    return some c

def drop (n : Nat) : Reading Unit :=
  modify fun p => { rest := p.rest.drop n, taken := p.taken + (p.rest.take n).length }

def takeWhile (f : Char → Bool) : Reading Octets := do
  let cs := (← get).rest.takeWhile f
  drop cs.length
  return cs

def skipBlanks : Reading Unit := do
  let _ ← takeWhile fun c => Octets.isSpace c && c ≠ '\n'

def number : Reading Nat := do
  return Octets.valueOf 10 (← takeWhile Char.isDigit)

/-- The end of a command: a line end, a semicolon, or something that starts by itself. -/
def endCommand : Reading Unit := do
  skipBlanks
  match ← peek? with
  | none => return ()
  | some c =>
    if c = '\x7d' ∨ c = '#' then return ()
    else
      drop 1
      if c ≠ '\n' ∧ c ≠ ';' then fail .extraCharacters

end Reading

open Reading

/-! ### Texts between marks -/

/-- A text up to a mark. A quoted mark stands for itself; in patterns, so does a quoted line end for
one. -/
def delimited (mark : Char) (isPattern : Bool) : Nat → Octets → Reading (Option Octets)
  | 0, _ => return none
  | fuel + 1, done => do
    match ← peek? with
    | none => return none
    | some '\n' =>
      if isPattern then return none
      else
        drop 1
        delimited mark isPattern fuel ('\n' :: done)
    | some c =>
      drop 1
      if c = mark then return some done.reverse
      else if c = '\\' then
        match ← take? with
        | none => return none
        | some d =>
          if d = mark then
            let keep := !isPattern && d = '&'
            delimited mark isPattern fuel (if keep then d :: '\\' :: done else d :: done)
          else if d = 'n' && isPattern then delimited mark isPattern fuel ('\n' :: done)
          else if d = '\n' && isPattern then delimited mark isPattern fuel ('\n' :: done)
          else delimited mark isPattern fuel (d :: '\\' :: done)
      else delimited mark isPattern fuel (c :: done)

/-- The character that a backslash and a letter stand for in every text, and what follows it. -/
def escape? (c : Char) (rest : Octets) : Option (Char × Octets) :=
  let coded (base most : Nat) : Option (Char × Octets) :=
    let ds := (rest.take most).takeWhile (Octets.digitValue · < base)
    if ds.isEmpty then none else some (Octets.octet (Octets.valueOf base ds), rest.drop ds.length)
  match c with
  | 'a' => some ('\x07', rest)
  | 'f' => some ('\x0c', rest)
  | 'n' => some ('\n', rest)
  | 'r' => some ('\r', rest)
  | 't' => some ('\t', rest)
  | 'v' => some ('\x0b', rest)
  | 'd' => coded 10 3
  | 'o' => coded 8 3
  | 'x' => coded 16 2
  | 'c' => rest.head?.map fun d => (Octets.octet (Nat.xor d.toUpper.toNat 64), rest.drop 1)
  | _ => none

/-- A pattern with its escapes resolved; characters that would mean something stay quoted. -/
def resolved : Nat → Octets → Octets
  | 0, cs => cs
  | _ + 1, [] => []
  | fuel + 1, '\\' :: c :: rest =>
    match escape? c rest with
    | some (d, rest) =>
      if c ≠ 'n' && "$*.[\\]^".toList.contains d then '\\' :: d :: resolved fuel rest
        else d :: resolved fuel rest
    | none => '\\' :: c :: resolved fuel rest
  | fuel + 1, c :: rest => c :: resolved fuel rest

/-- How expressions of a script are written. -/
abbrev Style := RegexNotation

def pattern (n : Style) (cs : Octets) (fold lines : Bool) : Reading Pattern := do
  if cs.isEmpty then return none
  match Regex.read n (resolved (cs.length + 1) cs) with
  | .ok r => return some (Regex.program r { fold, lines })
  | .error e => fail (.regex e)

/-! ### Addresses -/

/-- Letters behind the pattern of an address. -/
def addressFlags : Nat → Bool → Bool → Reading (Bool × Bool)
  | 0, fold, lines => return (fold, lines)
  | fuel + 1, fold, lines => do
    match ← peek? with
    | some 'I' =>
      drop 1
      addressFlags fuel true lines
    | some 'M' =>
      drop 1
      addressFlags fuel fold true
    | _ => return (fold, lines)

def address? (n : Style) : Reading (Option Address) := do
  match ← peek? with
  | some '$' =>
    drop 1
    return some .last
  | some '/' =>
    drop 1
    found '/'
  | some '\\' =>
    drop 1
    match ← take? with
    | some mark => found mark
    | none => fail .unterminatedAddress
  | some c =>
    if c.isDigit then
      let first ← number
      skipBlanks
      match ← peek? with
      | some '~' =>
        drop 1
        skipBlanks
        let step ← number
        return some (.every first step)
      | _ => return some (if first = 0 then .start else .line first)
    else if c = '+' ∨ c = '~' then
      drop 1
      let _ ← number
      fail .relativeFirst
    else return none
  | none => return none
where
  found (mark : Char) : Reading (Option Address) := do
    match ← delimited mark true ((← get).rest.length + 1) [] with
    | none => fail .unterminatedAddress
    | some cs =>
      let (fold, lines) ← addressFlags 100 false false
      return some (.found (← pattern n cs fold lines))

def rangeEnd (n : Style) : Reading RangeEnd := do
  match ← peek? with
  | some '+' =>
    drop 1
    return .further (← number)
  | some '~' =>
    drop 1
    return .multiple (← number)
  | _ =>
    match ← address? n with
    | some a => return .address a
    | none =>
      fail .unexpectedComma

/-! ### Texts and names behind commands -/

/-- A text that may go over several lines, each but the last ending with a backslash. -/
def lineText : Nat → Octets → Reading Octets
  | 0, done => return done.reverse
  | fuel + 1, done => do
    match ← take? with
    | none => return ('\n' :: done).reverse
    | some '\n' => return ('\n' :: done).reverse
    | some '\\' =>
      match ← take? with
      | none => return ('\n' :: done).reverse
      | some c =>
        let rest := (← get).rest
        match if c = 'n' then none else escape? c rest with
        | some (d, rest') =>
          drop (rest.length - rest'.length)
          lineText fuel (d :: done)
        | none => lineText fuel (c :: done)
    | some c => lineText fuel (c :: done)

/-- The text of a command that adds lines. -/
def addedText : Reading Octets := do
  skipBlanks
  match ← peek? with
  | none => fail .noText
  | some '\\' =>
    drop 1
    let rest := (← get).rest
    let blanks := (rest.takeWhile Octets.isBlank).length
    if (rest.drop blanks).head? = some '\n' then drop (blanks + 1)
    if (← peek?).isNone then return []
    lineText ((← get).rest.length + 1) []
  | _ => lineText ((← get).rest.length + 1) []

/-- A name up to the end of the line. -/
def fileName : Reading Octets := do
  skipBlanks
  let name ← takeWhile (· ≠ '\n')
  if name.isEmpty then fail .missingFile
  drop 1
  return name

/-- A label up to a blank or a semicolon. -/
def label : Reading Octets := do
  skipBlanks
  takeWhile fun c => !Octets.isSpace c && c ≠ ';'

/-! ### Replacements -/

/-- The pieces of a replacement; text is collected newest first. -/
def pieces : Nat → Octets → Octets → List Piece
  | 0, held, _ => flush held
  | _ + 1, held, [] => flush held
  | fuel + 1, held, '\\' :: c :: rest =>
    if c.isDigit then flush held ++ .group (c.toNat - 48) :: pieces fuel [] rest
    else
      match c with
      | '&' => pieces fuel ('&' :: held) rest
      | 'L' => flush held ++ .case .lower :: pieces fuel [] rest
      | 'U' => flush held ++ .case .upper :: pieces fuel [] rest
      | 'E' => flush held ++ .case .keep :: pieces fuel [] rest
      | 'l' => flush held ++ .nextCase .lower :: pieces fuel [] rest
      | 'u' => flush held ++ .nextCase .upper :: pieces fuel [] rest
      | c =>
        match escape? c rest with
        | some (d, rest) => pieces fuel (d :: held) rest
        | none => pieces fuel (c :: held) rest
  | fuel + 1, held, '&' :: rest => flush held ++ .group 0 :: pieces fuel [] rest
  | fuel + 1, held, c :: rest => pieces fuel (c :: held) rest
where
  flush (held : Octets) : List Piece :=
    if held.isEmpty then [] else [.text held.reverse]

/-- Options of a substitution. -/
structure Options where
  all : Bool := false
  print : Bool := false
  nth : Option Nat := none
  fold : Bool := false
  lines : Bool := false
  file : Option Octets := none

def options : Nat → Options → Reading Options
  | 0, o => return o
  | fuel + 1, o => do
    match ← peek? with
    | none => return o
    | some c =>
      if c = '\x7d' ∨ c = '#' then return o
      drop 1
      match c with
      | 'g' => if o.all then fail (.twice 'g') else options fuel { o with all := true }
      | 'p' => if o.print then fail (.twice 'p') else options fuel { o with print := true }
      | 'i' | 'I' => options fuel { o with fold := true }
      | 'm' | 'M' => options fuel { o with lines := true }
      | 'w' => return { o with file := some (← fileName) }
      | '\n' | ';' => return o
      | ' ' | '\t' | '\r' => options fuel o
      | c =>
        if c.isDigit then
          if o.nth.isSome then
            let _ ← number
            fail .twoNumbers
          let more ← takeWhile Char.isDigit
          let n := Octets.valueOf 10 (c :: more)
          if n = 0 then fail .zeroNumber
          options fuel { o with nth := some n }
        else fail .unknownOption

def substitution (n : Style) : Reading Substitution := do
  match ← take? with
  | none => fail .unterminatedSubstitution
  | some mark =>
    let size := (← get).rest.length + 1
    let some cs ← delimited mark true size [] | fail .unterminatedSubstitution
    let some replacement ← delimited mark false size [] | fail .unterminatedSubstitution
    let o ← options size {}
    let ps := pieces (replacement.length + 1) [] replacement
    let p ← pattern n cs o.fold o.lines
    let highest := ps.foldl (fun m q => match q with | .group k => max m k | _ => m) 0
    if let some r := p then
      if r.slots / 2 - 1 < highest then fail (.noSuchGroup highest)
    return { pattern := p, pieces := ps, nth := o.nth.getD 1, all := o.all, print := o.print
             file := o.file }

/-- Characters of a list for transliteration; marks are already resolved. -/
def listed : Nat → Octets → Octets
  | 0, cs => cs
  | _ + 1, [] => []
  | fuel + 1, '\\' :: c :: rest =>
    if c = '\\' then '\\' :: listed fuel rest
    else
      match escape? c rest with
      | some (d, rest) => d :: listed fuel rest
      | none => '\\' :: c :: listed fuel rest
  | fuel + 1, c :: rest => c :: listed fuel rest

def transliteration : Reading (List (Char × Char)) := do
  match ← take? with
  | none => fail .unterminatedTransliteration
  | some mark =>
    let size := (← get).rest.length + 1
    let some from' ← delimited mark false size [] | fail .unterminatedTransliteration
    let some into ← delimited mark false size [] | fail .unterminatedTransliteration
    let a := listed (from'.length + 1) from'
    let z := listed (into.length + 1) into
    if a.length ≠ z.length then fail .unequalTransliteration
    return a.zip z

/-! ### Commands -/

/-- What was read: commands with the blocks that are still open, innermost first. -/
structure Draft where
  commands : Array Command := #[]
  blocks : List Nat := []
  labels : List (Octets × Nat) := []

/-- A number behind a command, if there is one. -/
def amount? : Reading (Option Nat) := do
  skipBlanks
  let ds ← takeWhile Char.isDigit
  return if ds.isEmpty then none else some (Octets.valueOf 10 ds)

/-- An action without more words. -/
def plain? (c : Char) : Option Action :=
  match c with
  | '=' => some .lineNumber
  | 'd' => some .delete
  | 'D' => some .deleteFirst
  | 'F' => some .fileName
  | 'g' => some .getHold
  | 'G' => some .addHold
  | 'h' => some .hold
  | 'H' => some .holdMore
  | 'n' => some .next
  | 'N' => some .join
  | 'p' => some .print
  | 'P' => some .printFirst
  | 'x' => some .exchange
  | 'z' => some .empty
  | _ => none

/-- The action of a command's letter. -/
def action (n : Style) (c : Char) (ranged : Bool) : Reading Action := do
  match plain? c with
  | some a =>
    endCommand
    return a
  | none =>
    match c with
    | 'a' => return .append (← addedText)
    | 'i' => return .insert (← addedText)
    | 'c' => return .change (← addedText)
    | 'b' => return .branch (← branchLabel)
    | 't' => return .branchIfReplaced (← branchLabel)
    | 'T' => return .branchUnlessReplaced (← branchLabel)
    | 'l' =>
      let w ← amount?
      endCommand
      return .list w
    | 'q' | 'Q' =>
      if ranged then fail .oneAddress
      let status := (← amount?).getD 0
      endCommand
      return if c = 'q' then .quit status else .quitSilently status
    | 'r' => return .readFile (← fileName)
    | 'R' => return .readLine (← fileName)
    | 'w' => return .writeFile (← fileName)
    | 'W' => return .writeFirst (← fileName)
    | 's' => return .substitute (← substitution n)
    | 'y' =>
      let pairs ← transliteration
      endCommand
      return .transliterate pairs
    | 'v' =>
      let version ← label
      if Octets.order "4.9".toList version = .lt then fail .newerVersion
      endCommand
      return .nothing
    | c => fail (.unknownCommand [c])
where
  branchLabel : Reading Octets := do
    let l ← label
    let _ ← takeWhile fun c => Octets.isSpace c || c = ';'
    return l

/-- The commands of a script, from where reading stands. -/
def commands (n : Style) : Nat → Draft → Reading Draft
  | 0, d => return d
  | fuel + 1, d => do
    let _ ← takeWhile fun c => Octets.isSpace c || c = ';'
    if (← peek?).isNone then return d
    let first ← address? n
    skipBlanks
    let last : Option RangeEnd ← match first, ← peek? with
      | some _, some ',' =>
        drop 1
        skipBlanks
        pure (some (← rangeEnd n))
      | _, _ => pure none
    match first, last with
    | some .start, some (.address (.found _)) => pure ()
    | some .start, _ =>
      let _ ← take?
      fail .zeroAddress
    | _, _ => pure ()
    skipBlanks
    let negated ← match ← peek? with
      | some '!' =>
        drop 1
        skipBlanks
        if (← peek?) = some '!' then
          drop 1
          fail .twoNegations
        pure true
      | _ => pure false
    let add (a : Action) : Draft :=
      { d with commands := d.commands.push { first, last, negated, action := a } }
    match ← take? with
    | none => fail .missingCommand
    | some '#' =>
      if first.isSome then fail .addressForComment
      let _ ← takeWhile (· ≠ '\n')
      commands n fuel d
    | some ':' =>
      if first.isSome then fail .addressForLabel
      skipBlanks
      let l ← takeWhile fun c => !Octets.isSpace c && c ≠ ';'
      if l.isEmpty then fail .noLabel
      commands n fuel { d with labels := d.labels ++ [(l, d.commands.size)] }
    | some '\x7b' =>
      let e := add (.openBlock 0)
      commands n fuel { e with blocks := d.commands.size :: d.blocks }
    | some '\x7d' =>
      match d.blocks with
      | [] => fail .unexpectedClose
      | b :: blocks =>
        if first.isSome then fail .addressForComment
        endCommand
        let closed := d.commands.modify b fun c => { c with action := .openBlock d.commands.size }
        commands n fuel { d with commands := closed, blocks }
    | some '\n' | some ';' => fail .missingCommand
    | some c =>
      let a ← action n c last.isSome
      commands n fuel (add a)

/-- The label that a command jumps to, if it is not the end. -/
def target? (a : Action) : Option Octets :=
  match a with
  | .branch l | .branchIfReplaced l | .branchUnlessReplaced l => if l.isEmpty then none else some l
  | _ => none

/-- Reads a script; faults that have no place in it tell that nothing was taken. -/
def read (n : Style) (cs : Octets) : Except (Nat × Fault) Script := do
  let (cs, quiet) := match cs with
    | '#' :: 'n' :: '\n' :: rest => (rest, true)
    | ['#', 'n'] => ([], true)
    | cs => (cs, false)
  let (d, _) ← (commands n (cs.length + 1) {}).run { rest := cs }
  if !d.blocks.isEmpty then throw (0, .unmatchedOpen)
  match d.commands.toList.find? fun c => (target? c.action).any fun l => !d.labels.any fun e =>
    e.1 = l with
  | some c => throw (0, .noSuchLabel ((target? c.action).getD []))
  | none => return { commands := d.commands, labels := d.labels, quiet }

end KeyRelay.Tools.Edit
