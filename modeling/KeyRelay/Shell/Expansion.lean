import KeyRelay.Shell.Arithmetic
import KeyRelay.Shell.Pattern

/-!
What words stand for. Expanding a word gives pieces: characters that remember whether they were
quoted and whether fields may be split at them. From the pieces come a text, a pattern, or fields,
which are matched with the names of files. What command substitutions print is found by a runner
that these functions are given.
-/

namespace KeyRelay.Shell

inductive Piece where
  | char (c : Char) (quoted split : Bool)
  /-- Something quoted, which makes a field even if it is empty. -/
  | present
  /-- Between parameters that are fields of their own. -/
  | gap
  deriving DecidableEq, Repr

/-- How a word is expanded. -/
structure Manner where
  /-- It is split into fields. -/
  fields : Bool := false
  /-- Its own text is split as well, where it is an operand. -/
  ownText : Bool := false
  /-- A tilde at its start stands for a directory. -/
  tilde : Bool := true
  /-- So does one after a colon. -/
  tildes : Bool := false
  deriving DecidableEq, Repr

namespace Expansion

def textOf (ps : List Piece) : Octets :=
  ps.filterMap fun p => match p with | .char c _ _ => some c | _ => none

def patternOf (ps : List Piece) : List PatternChar :=
  ps.filterMap fun p => match p with | .char c quoted _ => some (c, quoted) | _ => none

def pieces (quoted : Bool) (cs : Octets) : List Piece :=
  if quoted && cs.isEmpty then [.present] else cs.map fun c => .char c quoted !quoted

/-! ### Directories -/

/-- The directory that a name after a tilde stands for. -/
def home? (p : Process) (user : Octets) : Option Octets :=
  if user.isEmpty then p.valueOf? "HOME".toList
  else if user = "root".toList then some "/root".toList
  else none

/-- Text that starts with a tilde, with the directory in place of it. -/
def withHome (p : Process) (colons : Bool) (complete : Bool) (cs : Octets) : List Piece :=
  let plain (cs : Octets) : List Piece := cs.map fun c => .char c false false
  match cs with
  | '~' :: rest =>
    let user := rest.takeWhile fun c => c ≠ '/' && !(colons && c = ':')
    if user.length = rest.length && !complete then plain cs
    else
      match home? p user with
      | some directory => pieces true directory ++ plain (rest.drop user.length)
      | none => plain cs
  | _ => plain cs

/-- Text of an assignment, where each part between colons may start with a tilde. -/
def withHomes (p : Process) (complete : Bool) (cs : Octets) : List Piece :=
  let parts := Octets.splitAt (· = ':') cs
  (parts.map (withHome p true complete)).intersperse [.char ':' false false] |>.flatten

/-! ### Parameters -/

/-- The value of a parameter as pieces, and its length; none where it has no value. -/
def parameterValue (m : Manner) (quoted : Bool) (name : Octets) :
    Run (Option (List Piece × Nat)) := do
  let p ← Run.process
  if name = ['@'] || name = ['*'] then
    let separate := m.fields && (!quoted || name = ['@'])
    let joint := (p.separators.head?).toList
    let total := p.params.flatten.length + (if separate || !joint.isEmpty then p.params.length - 1
      else 0)
    if separate then return some (((p.params.map (pieces quoted)).intersperse [.gap]).flatten,
      total)
    else if p.params.isEmpty && name = ['@'] then return some ([], 0)
    else return some (pieces quoted (Octets.joinWith joint p.params), total)
  else
    match p.parameter? name with
    | some value => return some (pieces quoted value, value.length)
    | none => return none

def refuseUnset (name : Octets) : Run Unit := do
  if (← Run.process).hasOption 'u' then Run.fail (name ++ ": parameter not set".toList)

/-- A value less what a pattern matches at an end of it. -/
def cutValue (how : Cut) (pattern : List Glob) (value : Octets) : Octets :=
  let lengths := List.range (value.length + 1)
  match how with
  | .front longest =>
    let order := if longest then lengths.reverse else lengths
    ((order.find? fun n => Glob.matchesAll pattern (value.take n)).map (value.drop ·)).getD value
  | .back longest =>
    let order := if longest then lengths.reverse else lengths
    let hit := order.find? fun n => Glob.matchesAll pattern (value.drop (value.length - n))
    (hit.map fun n => value.take (value.length - n)).getD value

/-! ### Command substitution -/

/-- What a process prints, without the line ends at its end. -/
def printed (act : Run Unit) : Run Octets := do
  let n ← Run.addPipe
  let i ← Run.addOpening { channel := .pipe n, readable := false }
  let status ← Run.apart do
    Run.connect 1 (some i)
    Run.modifyProcess fun p => { p with traps := p.traps.filter fun t => t.2.isEmpty }
    act
  Run.modifyProcess fun p => { p with substituted := status }
  Run.modifyWorld fun w => { w with elapsed := max w.elapsed (w.heldUntil n) }
  let text := ((← get).world.pipes[n]!).content
  return Octets.dropEndWhile (· = '\n') (text.filter (· ≠ '\x00'))

/-! ### Words -/

/-- One part of a word; `self` expands operands. -/
def part (exec : Command → Run Unit) (self : Manner → Word → Run (List Piece)) (m : Manner)
    (p : Part) :
    Run (List Piece) := do
  let kept (quoted : Bool) (ps : List Piece) : List Piece :=
    if quoted && ps.isEmpty then [.present] else ps
  match p with
  | .text true cs => return pieces true cs
  | .text false cs => return cs.map fun c => .char c false m.ownText
  | .output quoted c => return pieces quoted (← printed (exec c))
  | .arithmetic quoted w =>
    let text := textOf (← self { tilde := false } w)
    return pieces quoted (Octets.ofInt (← Arithmetic.evaluate text))
  | .parameter quoted name u =>
    let value ← parameterValue m quoted name
    let lacking (empty : Bool) : Bool := match value with
      | none => true
      | some (_, n) => empty && n = 0
    let operand (w : Word) : Run (List Piece) := do
      return kept quoted (← self { m with ownText := !quoted, tilde := true, tildes := false } w)
    match u with
    | .unknown => Run.fail "Bad substitution".toList
    | .value =>
      match value with
      | some (ps, _) => return ps
      | none =>
        refuseUnset name
        return pieces quoted []
    | .size =>
      match value with
      | some (_, n) => return pieces quoted (Octets.ofNat n)
      | none =>
        refuseUnset name
        return pieces quoted ['0']
    | .orElse empty w => if lacking empty then operand w else return (value.map (·.1)).getD []
    | .ifSet empty w => if lacking empty then return kept quoted [] else operand w
    | .orAssign empty w =>
      if lacking empty then
        let text := textOf (← self {} w)
        if !isName name then Run.fail (name ++ ": bad variable name".toList)
        Run.assign name text
        return pieces quoted text
      else return (value.map (·.1)).getD []
    | .orFail empty w =>
      if lacking empty then
        let usual := "parameter not set" ++ if empty then " or null" else ""
        let why ← if w.isEmpty then pure usual.toList else do pure (textOf (← self {} w))
        Run.fail (name ++ [':', ' '] ++ why)
      else return (value.map (·.1)).getD []
    | .cut how w =>
      match value with
      | none =>
        refuseUnset name
        return pieces quoted []
      | some (ps, _) =>
        let pattern := Glob.read (patternOf (← self { tilde := true } w))
        return pieces quoted (cutValue how pattern (textOf ps))

/-- The pieces of a word, with operands in braces up to a depth. -/
def word (exec : Command → Run Unit) : Nat → Manner → Word → Run (List Piece)
  | 0, _, _ => return []
  | depth + 1, m, w => do
    let process ← Run.process
    let self := word exec depth
    let ps ← w.zipIdx.mapM fun (p, i) => do
      match p with
      | .text false cs =>
        let complete := i + 1 = w.length
        if m.tildes && (i = 0 || cs.contains ':') then
          let (first, rest) := if i = 0 then ([], cs)
            else (cs.takeWhile (· ≠ ':'), cs.dropWhile (· ≠ ':'))
          return first.map (fun c => .char c false m.ownText) ++ withHomes process complete rest
        else if m.tilde && i = 0 && cs.head? = some '~'
          then return withHome process false complete cs
        else part exec self m p
      | p => part exec self m p
    return ps.flatten

/-- How deep operands may stand in braces. -/
def deepest : Nat := 60

/-- The text of a word that is not split. -/
def text (exec : Command → Run Unit) (m : Manner) (w : Word) : Run Octets := do
  return textOf (← word exec deepest m w)

/-- The pattern of a word. -/
def pattern (exec : Command → Run Unit) (w : Word) : Run (List Glob) := do
  return Glob.read (patternOf (← word exec deepest {} w))

/-! ### Fields -/

/-- Fields that are complete, newest first; the characters of the one at hand, newest first; and
whether only blanks came after the last one. -/
structure Splitting where
  complete : List (List PatternChar) := []
  current : Option (List PatternChar) := none
  afterBlank : Bool := false

namespace Splitting

def finish (s : Splitting) : Splitting :=
  match s.current with
  | some cs => { complete := cs.reverse :: s.complete }
  | none => s

def step (separators : Octets) (s : Splitting) (p : Piece) : Splitting :=
  match p with
  | .present => { s with current := some (s.current.getD []), afterBlank := false }
  | .gap => { s.finish with afterBlank := false }
  | .char c quoted split =>
    if split && separators.contains c then
      if c = ' ' || c = '\t' || c = '\n' then
        if s.current.isSome then { s.finish with afterBlank := true } else s
      else if s.current.isSome then { s.finish with afterBlank := false }
      else if s.afterBlank then { s with afterBlank := false }
      else { s with complete := [] :: s.complete }
    else { s with current := some ((c, quoted) :: s.current.getD []), afterBlank := false }

end Splitting

/-- The fields of pieces. -/
def split (separators : Octets) (ps : List Piece) : List (List PatternChar) :=
  (ps.foldl (Splitting.step separators) {}).finish.complete.reverse

/-- Pieces between slashes. -/
def components (cs : List PatternChar) : List (List PatternChar) :=
  let (done, last) := cs.foldl (fun (done, now) c =>
    if c.1 = '/' then (now.reverse :: done, []) else (done, c :: now))
    (([] : List (List PatternChar)), ([] : List PatternChar))
  (last.reverse :: done).reverse

/-- Names of files that components of a pattern match, after the text of those before. -/
def filesFrom (files : Files) (current : Path) (front : Octets) :
    List (List PatternChar) → List Octets
  | [] => [front]
  | c :: more =>
    let ending : Octets := if more.isEmpty then [] else ['/']
    let glob := Glob.read c
    if Glob.isPlain glob then
      let name := glob.filterMap fun g => match g with | .char c => some c | _ => none
      let next := front ++ name ++ ending
      if more.isEmpty then
        match files.resolve current (if next.isEmpty then ['.'] else next) false with
        | .ok p => if (files.inode? p).isSome then [next] else []
        | .error _ => []
      else filesFrom files current next more
    else
      match files.find current (if front.isEmpty then ['.'] else front) with
      | .error _ => []
      | .ok (p, _) =>
        let hidden := match glob with
          | .char '.' :: _ => true
          | _ => false
        let names := (if hidden then [['.'], ['.', '.']] else []) ++ files.entries p
        let hits := names.filter fun n => (hidden || n.head? ≠ some '.') && Glob.matchesAll glob n
        hits.flatMap fun n => filesFrom files current (front ++ n ++ ending) more

/-- The names of files that a field matches, or its text where there are none. -/
def matchFiles (p : Process) (files : Files) (field : List PatternChar) : List Octets :=
  let text := field.map (·.1)
  let special := field.any fun c => !c.2 && (c.1 = '*' || c.1 = '?' || c.1 = '[')
  if !special || p.hasOption 'f' then [text]
  else
    match filesFrom files p.directory [] (components field) with
    | [] => [text]
    | names => names.mergeSort fun a b => (Octets.order a b).isLE

/-- The fields that a word stands for. -/
def fields (exec : Command → Run Unit) (w : Word) : Run (List Octets) := do
  let ps ← word exec deepest { fields := true } w
  let s ← get
  return (split s.process.separators ps).flatMap (matchFiles s.process s.world.files)

end Expansion

end KeyRelay.Shell
