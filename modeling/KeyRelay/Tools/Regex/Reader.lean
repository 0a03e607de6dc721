import KeyRelay.Tools.Regex.Syntax

/-!
Reading regular expressions. In the basic notation groups, bounds and alternatives are marked with
backslashes, in the extended one they are not; a third notation is the extended one without
references.
-/

namespace KeyRelay.Tools
open Shell

/-- How operators are written. -/
inductive RegexNotation where
  | basic
  | extended
  /-- Extended, where a repetition with nothing before it is left out. -/
  | lenient
  /-- Extended, with the escapes of strings, without references. -/
  | plain
  deriving DecidableEq, Repr

namespace Regex

/-- A piece of the text of an expression. -/
inductive Piece where
  | regex (r : Regex)
  | openGroup
  | closeGroup
  | bar
  | times (least : Nat) (most : Option Nat)
  deriving Repr

/-! ### Sets -/

/-- The name of a class up to its end mark. -/
def bracketName (mark : Char) : Octets → Option (Octets × Octets)
  | [] => none
  | c :: rest =>
    if c = mark && rest.head? = some ']' then some ([], rest.drop 1)
    else (bracketName mark rest).map fun (name, rest) => (c :: name, rest)

/-- One end of a range. -/
def rangeEnd (cs : Octets) : Except RegexFault (Char × Octets) :=
  match cs with
  | '[' :: '.' :: rest =>
    match bracketName '.' rest with
    | some ([c], rest) => .ok (c, rest)
    | _ => .error .unmatchedBracket
  | c :: rest => .ok (c, rest)
  | [] => .error .unmatchedBracket

/-- Members of a set up to its closing bracket, which may come first; `escapes` where a backslash
quotes. -/
def members (escapes : Bool) :
    Nat → List SetItem → Octets → Except RegexFault (List SetItem × Octets)
  | 0, _, _ => .error .unmatchedBracket
  | _ + 1, _, [] => .error .unmatchedBracket
  | fuel + 1, read, cs =>
    match cs with
    | ']' :: rest => if read.isEmpty then member fuel read cs else .ok (read, rest)
    | '[' :: ':' :: rest =>
      match bracketName ':' rest with
      | some (name, rest) =>
        match CharClass.ofName? name with
        | some k => members escapes fuel (read ++ [.named k]) rest
        | none => .error .badClass
      | none => .error .unmatchedBracket
    | '[' :: '=' :: rest =>
      match bracketName '=' rest with
      | some ([c], rest) => members escapes fuel (read ++ [.range c c]) rest
      | _ => .error .unmatchedBracket
    | cs => member fuel read cs
where
  /-- A character or a range. -/
  member (fuel : Nat) (read : List SetItem) (cs : Octets) :
      Except RegexFault (List SetItem × Octets) := do
    let (a, rest) ← single cs
    match rest with
    | '-' :: ']' :: _ => members escapes fuel (read ++ [.range a a]) rest
    | '-' :: more =>
      let (z, rest) ← single more
      if z < a then throw .badRange
      members escapes fuel (read ++ [.range a z]) rest
    | rest => members escapes fuel (read ++ [.range a a]) rest
  single (cs : Octets) : Except RegexFault (Char × Octets) :=
    match cs with
    | '\\' :: c :: rest => if escapes then .ok (stringEscape c rest) else rangeEnd cs
    | cs => rangeEnd cs
  stringEscape (c : Char) (rest : Octets) : Char × Octets :=
    match c with
    | 'n' => ('\n', rest)
    | 't' => ('\t', rest)
    | 'r' => ('\r', rest)
    | 'f' => ('\x0c', rest)
    | 'v' => ('\x0b', rest)
    | 'a' => ('\x07', rest)
    | 'b' => ('\x08', rest)
    | c => (c, rest)

/-- Whether members look like the name of a class: colons around other characters. -/
def isBareClass (items : List SetItem) : Bool :=
  let letters := items.filterMap fun i =>
    match i with | .range a z => if a = z then some a else none | _ => none
  letters.length = items.length && letters.head? = some ':' && letters.getLast? = some ':' &&
    letters.any (· ≠ ':')

def bracket (escapes : Bool) (cs : Octets) : Except RegexFault (Regex × Octets) := do
  let (negated, inside) := match cs with
    | '^' :: rest => (true, rest)
    | cs => (false, cs)
  if inside.isEmpty then throw .unfinished
  let (items, rest) ← members escapes (inside.length + 1) [] inside
  if !escapes && isBareClass items then throw .bareClass
  return (.set negated items, rest)

/-! ### Pieces -/

/-- Bounds up to the closing brace. -/
def bounds (n : RegexNotation) (cs : Octets) : Except RegexFault (Piece × Octets) := do
  let closing : Octets := if n = .basic then ['\\', '\x7d'] else ['\x7d']
  let least := cs.takeWhile Char.isDigit
  let rest := cs.drop least.length
  let low := Octets.valueOf 10 least
  let (most, rest) : Option Nat × Octets := match rest with
    | ',' :: more =>
      let ds := more.takeWhile Char.isDigit
      (if ds.isEmpty then none else some (Octets.valueOf 10 ds), more.drop ds.length)
    | rest => (some low, rest)
  if least.isEmpty && rest.length = cs.length
    then throw (if rest.isEmpty then .unmatchedBrace else .badBrace)
  match Octets.after? closing rest with
  | none => throw (if rest.isEmpty then .unmatchedBrace else .badBrace)
  | some rest =>
    if most.any (· < low) then throw .boundsInverted
    if 255 < low ∨ most.any (255 < ·) then throw .tooBig
    return (.times low most, rest)

/-- What a backslash and a character mean in every notation, if anything. -/
def escaped? (c : Char) : Option Regex :=
  match c with
  | 'w' => some (.set false wordItems)
  | 'W' => some (.set true wordItems)
  | 's' => some (.set false [.named .space])
  | 'S' => some (.set true [.named .space])
  | 'b' => some (.boundary .word)
  | 'B' => some (.boundary .noWord)
  | '<' => some (.boundary .wordStart)
  | '>' => some (.boundary .wordEnd)
  | '\x60' => some (.boundary .textStart)
  | '\'' => some (.boundary .textEnd)
  | _ => none

/-- The next piece; `first` where nothing stands before it that could be repeated. -/
def piece (n : RegexNotation) (first : Bool) (cs : Octets) :
    Except RegexFault (Option (Piece × Octets)) :=
  match cs with
  | [] => .ok none
  | '\\' :: [] =>
    if n = .plain then .ok (some (.regex (char '\\'), [])) else .error .trailingBackslash
  | '\\' :: c :: rest =>
    if n = .basic then
      match c with
      | '(' => .ok (some (.openGroup, rest))
      | ')' => .ok (some (.closeGroup, rest))
      | '|' => .ok (some (.bar, rest))
      | '\x7b' => if first then .error .nothingRepeated else (bounds n rest).map some
      | '+' => .ok (some (if first then .regex (char '+') else .times 1 none, rest))
      | '?' => .ok (some (if first then .regex (char '?') else .times 0 (some 1), rest))
      | c => .ok (some (.regex (common c), rest))
    else if n = .plain then
      match c with
      | 'n' => .ok (some (.regex (char '\n'), rest))
      | 't' => .ok (some (.regex (char '\t'), rest))
      | 'r' => .ok (some (.regex (char '\r'), rest))
      | 'f' => .ok (some (.regex (char '\x0c'), rest))
      | 'v' => .ok (some (.regex (char '\x0b'), rest))
      | 'a' => .ok (some (.regex (char '\x07'), rest))
      | 'b' => .ok (some (.regex (char '\x08'), rest))
      | c =>
        let ds := ((c :: rest).take 3).takeWhile fun d => '0' ≤ d && d ≤ '7'
        if ds.isEmpty then .ok (some (.regex (char c), rest))
        else .ok (some (.regex (char (Octets.octet (Octets.valueOf 8 ds))),
          (c :: rest).drop ds.length))
    else .ok (some (.regex (common c), rest))
  | '[' :: rest => (bracket (n = .plain) rest).map fun (r, rest) => some (.regex r, rest)
  | '.' :: rest => .ok (some (.regex .any, rest))
  | '*' :: rest =>
    .ok (some (if first && n = .basic then .regex (char '*') else .times 0 none, rest))
  | '^' :: rest =>
    .ok (some (.regex (if n ≠ .basic || first then .boundary .lineStart else char '^'), rest))
  | '$' :: rest =>
    let last := rest.isEmpty || ['\\', ')'].isPrefixOf rest || ['\\', '|'].isPrefixOf rest
    .ok (some (.regex (if n ≠ .basic || last then .boundary .lineEnd else char '$'), rest))
  | c :: rest =>
    if n = .basic then .ok (some (.regex (char c), rest))
    else
      match c with
      | '(' => .ok (some (.openGroup, rest))
      | ')' => .ok (some (.closeGroup, rest))
      | '|' => .ok (some (.bar, rest))
      | '+' => .ok (some (.times 1 none, rest))
      | '?' => .ok (some (.times 0 (some 1), rest))
      | '\x7b' =>
        match bounds n rest with
        | .ok r => .ok (some r)
        | .error .tooBig => .error .tooBig
        | .error e =>
          if e ≠ .boundsInverted && (n = .lenient || n = .plain)
            then .ok (some (.regex (char c), rest)) else .error e
      | c => .ok (some (.regex (char c), rest))
where
  common (c : Char) : Regex :=
    match escaped? c with
    | some r => r
    | none => if c.isDigit && c ≠ '0' then .again (c.toNat - 48) else char c

/-! ### Expressions -/

/-- Where reading stands: groups opened so far, and those that are closed. -/
structure Place where
  rest : Octets
  opened : Nat := 0
  closed : List Nat := []

/-- Whether an expression has no part. -/
def isEmpty (r : Regex) : Bool :=
  match r with
  | .empty => true
  | _ => false

/-- Whether an expression is only the start of a line, behind which a star stands for itself. -/
def isAnchor (r : Regex) : Bool :=
  match r with
  | .boundary .lineStart => true
  | _ => false

/-- Alternatives up to a closing mark or the end; `depth` counts the groups around. What is read of
the branch at hand is kept with the last piece in front. -/
def alternatives (n : RegexNotation) (depth : Nat) : Nat → List Regex → Place →
    Except RegexFault (Regex × Place)
  | 0, _, _ => .error .tooBig
  | fuel + 1, branch, p => do
    let bare := match branch with
      | [] => true
      | r :: _ => n = .basic && branch.length = 1 && isAnchor r
    match ← piece n bare p.rest with
    | none => if depth = 0 then return (ofList branch.reverse, p) else throw .unmatchedOpen
    | some (.bar, rest) =>
      let (r, p) ← alternatives n depth fuel [] { p with rest }
      if n = .plain && (branch.isEmpty || r.isEmpty) then throw .nothingRepeated
      return (.either (ofList branch.reverse) r, p)
    | some (.closeGroup, rest) =>
      if depth ≠ 0 then
        if n = .plain && branch.isEmpty then throw .nothingRepeated
        return (ofList branch.reverse, { p with rest })
      else if n = .plain || n = .lenient
        then alternatives n depth fuel (char ')' :: branch) { p with rest }
      else throw .unmatchedClose
    | some (.openGroup, rest) =>
      let number := p.opened + 1
      let (r, q) ← alternatives n (depth + 1) fuel [] { p with rest, opened := number }
      alternatives n depth fuel (.group number r :: branch) { q with closed := number :: q.closed }
    | some (.times low most, rest) =>
      match branch with
      | r :: others =>
        if bare && isAnchor r then alternatives n depth fuel (char '*' :: branch) { p with rest }
        else if isAnchor r && n = .extended then throw .nothingRepeated
        else if isAnchor r && n = .plain then throw .anchorRepeated
        else alternatives n depth fuel (.repeated r low most :: others) { p with rest }
      | [] =>
        if n = .extended || n = .plain then throw .nothingRepeated
        else alternatives n depth fuel [] { p with rest }
    | some (.regex (.again k), rest) =>
      if p.closed.contains k then alternatives n depth fuel (.again k :: branch) { p with rest }
      else throw .badReference
    | some (.regex r, rest) => alternatives n depth fuel (r :: branch) { p with rest }

/-- Reads an expression. -/
def read (n : RegexNotation) (cs : Octets) : Except RegexFault Regex := do
  let (r, _) ← alternatives n 0 (cs.length + 2) [] { rest := cs }
  return r

end Regex

end KeyRelay.Tools
