import KeyRelay.Tools.Edit.Reader
import KeyRelay.Tools.Flags

/-!
Editing lines by a script. Each line has its turn: it becomes the text at hand, the commands that
are for it are carried out in order, and the text is printed, unless that is not wanted.
-/

namespace KeyRelay.Tools.Edit
open Shell

structure Line where
  text : Octets
  /-- The line has its end. -/
  ended : Bool
  file : Octets

/-- What is printed after a turn. -/
inductive Later where
  | text (cs : Octets)
  | file (name : Octets)
  | line (name : Octets)

/-- An editor at work. -/
structure Editor where
  text : Octets := []
  ended : Bool := true
  file : Octets := ['-']
  held : Octets := []
  number : Nat := 0
  waiting : List Line
  later : List Later := []
  replaced : Bool := false
  /-- For the range of each command: it is on, and the line it ends with where that is known. -/
  ranges : Array (Option (Option Nat))
  lastPattern : Pattern := none
  /-- What was printed, newest first. -/
  printed : List Octets := []
  /-- The last line printed has no end yet. -/
  owed : Bool := false
  /-- What was written to files, newest first. -/
  written : List (Octets × Octets) := []
  /-- Lines left of the files that are read by lines. -/
  sources : List (Octets × List Line) := []
  readFile : Octets → Option Octets
  lineEnd : Char := '\n'
  quiet : Bool := false
  width : Nat := 70
  fault : Option Fault := none

abbrev Editing := StateM Editor

/-- How a turn ends. -/
inductive TurnEnd where
  /-- With the next line, the text printed unless that is not wanted. -/
  | finished (print : Bool)
  /-- With another turn of what is left of the text. -/
  | again
  | quit (status : Nat) (print : Bool)
  /-- It never ends. -/
  | endless

namespace Editing

/-- Lines of a text with the name of its file. -/
def linesOf (lineEnd : Char) (file text : Octets) : List Line :=
  let pieces := Octets.splitAt (· = lineEnd) text
  let count := pieces.length
  (pieces.zipIdx.filter fun e => e.2 + 1 < count || !e.1.isEmpty).map fun e =>
    ⟨e.1, e.2 + 1 < count, file⟩

/-! ### Printing -/

def put (cs : Octets) (ended : Bool) : Editing Unit :=
  modify fun e =>
    let gap := if e.owed then [e.lineEnd] else []
    { e with
      printed := (gap ++ cs ++ if ended then [e.lineEnd] else []) :: e.printed, owed := !ended }

/-- Prints text that has its own line ends. -/
def putPlain (cs : Octets) : Editing Unit :=
  if cs.isEmpty then return ()
  else modify fun e =>
    { e with printed := ((if e.owed then [e.lineEnd] else []) ++ cs) :: e.printed, owed := false }

def printText : Editing Unit := do
  let e ← get
  put e.text e.ended

/-- Writes a line to a file, or where the name of a stream says. -/
def writeTo (name cs : Octets) : Editing Unit := do
  if name = "/dev/stdout".toList then put cs true
  else modify fun e => { e with written := (name, cs ++ [e.lineEnd]) :: e.written }

/-- What was kept for after the turn. -/
def flushLater : Editing Unit := do
  let items := (← get).later
  modify fun e => { e with later := [] }
  for i in items do
    match i with
    | .text cs => putPlain cs
    | .file name => putPlain (((← get).readFile name).getD [])
    | .line name =>
      let e ← get
      let lines := match e.sources.find? fun s => s.1 = name with
        | some (_, ls) => ls
        | none => ((e.readFile name).map (linesOf e.lineEnd name)).getD []
      match lines with
      | [] => pure ()
      | l :: more =>
        modify fun e => { e with sources := (name, more) :: e.sources.filter fun s => s.1 ≠ name }
        put l.text l.ended

/-! ### Reading -/

/-- Makes the next line the text at hand, or adds it; `false` where there is none. -/
def readLine (add : Bool) : Editing Bool := do
  let e ← get
  match e.waiting with
  | [] => return false
  | l :: more =>
    set { e with
      waiting := more, number := e.number + 1, ended := l.ended, file := l.file
      text := if add then e.text ++ e.lineEnd :: l.text else l.text }
    return true

/-! ### Which lines -/

/-- The first match of a pattern in a text from a place on; a missing pattern is the last one. -/
def search? (p : Pattern) (text : Array Char) (i : Nat) : Editing (Option Regex.Program.Found) := do
  match p with
  | some r =>
    modify fun e => { e with lastPattern := p }
    return r.search? text i
  | none =>
    match (← get).lastPattern with
    | some r => return r.search? text i
    | none =>
      modify fun e => { e with fault := some .noPattern }
      return none

def fits (a : Address) : Editing Bool := do
  let e ← get
  match a with
  | .line n => return e.number = n
  | .every first step =>
    return if step = 0 then e.number = first else first ≤ e.number && (e.number - first) % step = 0
  | .last => return e.waiting.isEmpty
  | .start => return false
  | .found p => return (← search? p e.text.toArray 0).isSome

/-- Whether a range that is on goes on to the line at hand; it may end with it. -/
def continues (i : Nat) (last : RangeEnd) (known : Option Nat) : Editing Bool := do
  let e ← get
  let off : Editing Unit := modify fun e => { e with ranges := e.ranges.setIfInBounds i none }
  match known, last with
  | some n, _ =>
    if n ≤ e.number then off
    return e.number ≤ n
  | none, .address a =>
    if ← fits a then off
    return true
  | none, _ =>
    off
    return true

/-- Whether a command is for the line at hand. -/
def selected (i : Nat) (c : Command) : Editing Bool := do
  match c.first, c.last with
  | none, _ => return true
  | some a, none => fits a
  | some a, some last =>
    match (← get).ranges[i]?.join with
    | some known => continues i last known
    | none =>
      if !(← fits a) then return false
      let e ← get
      let on (known : Option Nat) : Editing Unit :=
        modify fun e => { e with ranges := e.ranges.setIfInBounds i (some known) }
      match last with
      | .address (.line n) => if e.number < n then on (some n)
      | .further n => if n ≠ 0 then on (some (e.number + n))
      | .multiple n => if n ≠ 0 && e.number % n ≠ 0 then on (some ((e.number / n + 1) * n))
      | .address _ => on none
      return true

/-! ### Changing the text -/

/-- Puts letters into their case; the rule for the next letter holds once. -/
def cased (rule : CaseRule) (once : Option CaseRule) (cs : Octets) : Octets × Option CaseRule :=
  let change (r : CaseRule) (c : Char) : Char :=
    match r with
    | .keep => c
    | .upper => c.toUpper
    | .lower => c.toLower
  match once, cs with
  | some r, c :: rest => (change r c :: rest.map (change rule), none)
  | once, cs => (cs.map (change rule), once)

/-- The text of a replacement. -/
def replacement (text : Array Char) (f : Regex.Program.Found) (ps : List Piece) : Octets :=
  let (done, _, _) := ps.foldl (fun (done, rule, once) p =>
    match p with
    | .text cs =>
      let (cs, once) := cased rule once cs
      (cs :: done, rule, once)
    | .group n =>
      let (cs, once) := cased rule once (f.group text n)
      (cs :: done, rule, once)
    | .case r => (done, r, none)
    | .nextCase r =>
      (done, rule, some r)) (([] : List Octets), CaseRule.keep, (none : Option CaseRule))
  done.reverse.flatten

/-- Replaces matches from a place on; `behind` where another match ends there, `count` have been
found. Gives the pieces of the new text, newest first, and whether anything was replaced. -/
def replace (s : Substitution) (text : Array Char) :
    Nat → Nat → Bool → Nat → Bool → List Octets → Editing (List Octets × Bool)
  | 0, _, _, _, did, done => return (done, did)
  | fuel + 1, i, behind, count, did, done => do
    match ← search? s.pattern text i with
    | none => return ((text.extract i text.size).toList :: done, did)
    | some f =>
      let next : Octets := (text.extract f.stop (f.stop + 1)).toList
      if behind && f.stop = i then
        if next.isEmpty then return (done, did)
          else replace s text fuel (i + 1) false count did (next :: done)
      else
        let before : Octets := (text.extract i f.start).toList
        let chosen := s.nth ≤ count + 1
        let new := if chosen then replacement text f s.pieces else f.group text 0
        let done := new :: before :: done
        let did := did || chosen
        if chosen && !s.all then return ((text.extract f.stop text.size).toList :: done, did)
        else if f.start < f.stop then replace s text fuel f.stop true (count + 1) did done
        else if next.isEmpty then return (done, did)
        else replace s text fuel (f.stop + 1) false (count + 1) did (next :: done)

def substitute (s : Substitution) : Editing Unit := do
  let text := (← get).text.toArray
  let (done, did) ← replace s text (2 * text.size + 4) 0 false 0 false []
  if did then
    modify fun e => { e with text := done.reverse.flatten, replaced := true }
    if s.print then printText
    if let some file := s.file then writeTo file (← get).text

/-- A text as it is shown without doubt: with escapes, and lines broken at a width. -/
def shown (width : Nat) (lineEnd : Char) (text : Octets) : Octets :=
  let escaped (c : Char) : Octets :=
    match c with
    | '\\' => ['\\', '\\']
    | '\x07' => ['\\', 'a']
    | '\x08' => ['\\', 'b']
    | '\x0c' => ['\\', 'f']
    | '\n' => ['\\', 'n']
    | '\r' => ['\\', 'r']
    | '\t' => ['\\', 't']
    | '\x0b' => ['\\', 'v']
    | c =>
      if ' ' ≤ c && c ≤ '~' then [c] else '\\' :: Octets.fill false '0' 3 (Nat.toDigits 8 c.toNat)
  let (lines, last, _) := text.foldl (fun (lines, line, size) c =>
    let cs := escaped c
    if 1 < width && width - 1 < size + cs.length
      then (lines ++ line.reverse ++ ['\\', lineEnd], cs.reverse, cs.length)
    else (lines, cs.reverse ++ line, size + cs.length)) (([] : Octets), ([] : Octets), 0)
  lines ++ last.reverse ++ ['$', lineEnd]

/-! ### Turns -/

/-- Steps that a turn may take. -/
def plenty : Nat := 100000

/-- The rest of a turn from a command on. -/
def turn (s : Script) : Nat → Nat → Editing TurnEnd
  | 0, _ => return .endless
  | fuel + 1, i => do
    match s.commands[i]? with
    | none => return .finished true
    | some c =>
      let chosen := (← selected i c) ≠ c.negated
      if (← get).fault.isSome then return .quit 1 false
      let go : Editing TurnEnd := turn s fuel (i + 1)
      let jump (label : Octets) : Editing TurnEnd :=
        if label.isEmpty then return .finished true
        else turn s fuel (((s.labels.find? fun l => l.1 = label).map (·.2)).getD s.commands.size)
      match c.action with
      | .openBlock ending => if chosen then go else turn s fuel ending
      | action =>
        if !chosen then go
        else
          let e ← get
          match action with
          | .nothing | .openBlock _ => go
          | .lineNumber =>
            putPlain (Octets.ofNat e.number ++ ['\n'])
            go
          | .append text =>
            modify fun e => { e with later := e.later ++ [Later.text text] }
            go
          | .insert text =>
            putPlain text
            go
          | .change text =>
            let inRange := c.last.isSome && !c.negated && (e.ranges[i]?.join).isSome
            if !inRange then putPlain text
            return .finished false
          | .branch label => jump label
          | .branchIfReplaced label =>
            if e.replaced then
              set { e with replaced := false }
              jump label
            else go
          | .branchUnlessReplaced label =>
            if e.replaced then
              set { e with replaced := false }
              go
            else jump label
          | .delete => return .finished false
          | .deleteFirst =>
            if e.text.contains '\n' then
              set { e with text := (e.text.dropWhile (· ≠ '\n')).drop 1 }
              return .again
            else return .finished false
          | .fileName =>
            putPlain (e.file ++ ['\n'])
            go
          | .getHold =>
            set { e with text := e.held }
            go
          | .addHold =>
            set { e with text := e.text ++ '\n' :: e.held }
            go
          | .hold =>
            set { e with held := e.text }
            go
          | .holdMore =>
            set { e with held := e.held ++ '\n' :: e.text }
            go
          | .exchange =>
            set { e with text := e.held, held := e.text }
            go
          | .list width =>
            putPlain (shown (width.getD e.width) e.lineEnd e.text)
            go
          | .next =>
            if e.waiting.isEmpty then return .quit 0 true
            if !e.quiet then printText
            flushLater
            let _ ← readLine false
            go
          | .join =>
            if e.waiting.isEmpty then return .quit 0 true
            flushLater
            let _ ← readLine true
            go
          | .print =>
            printText
            go
          | .printFirst =>
            put (e.text.takeWhile (· ≠ '\n')) true
            go
          | .quit status => return .quit status true
          | .quitSilently status => return .quit status false
          | .readFile name =>
            set { e with later := e.later ++ [Later.file name] }
            go
          | .readLine name =>
            set { e with later := e.later ++ [Later.line name] }
            go
          | .writeFile name =>
            writeTo name e.text
            go
          | .writeFirst name =>
            writeTo name (e.text.takeWhile (· ≠ '\n'))
            go
          | .substitute sub =>
            substitute sub
            if (← get).fault.isSome then return .quit 1 false
            go
          | .transliterate pairs =>
            let change (ch : Char) : Char := ((pairs.find? fun p => p.1 = ch).map (·.2)).getD ch
            set { e with text := e.text.map change }
            go
          | .empty =>
            set { e with text := [] }
            go

/-- All turns; gives the status, or none where a turn never ends. -/
def turns (s : Script) : Nat → Bool → Editing (Option Nat)
  | 0, _ => return none
  | fuel + 1, again => do
    if !again then
      if !(← readLine false) then return some 0
      modify fun e => { e with replaced := false }
    match ← turn s plenty 0 with
    | .endless => return none
    | .finished print =>
      if print && !(← get).quiet then printText
      flushLater
      turns s fuel false
    | .again =>
      flushLater
      turns s fuel true
    | .quit status print =>
      if print && !(← get).quiet then printText
      flushLater
      return some status

end Editing

/-! ### The editor as a tool -/

open Job

def rules : FlagRules where
  letters := "bsnrzuEe:f:l:i::V:hs"
  names := [("binary", "b"), ("debug", "debug"), ("expression", "e:"), ("file", "f:"),
    ("follow-symlinks", "follow-symlinks"), ("in-place", "i::"), ("line-length", "l:"),
    ("null-data", "z"), ("zero-terminated", "z"), ("posix", "posix"), ("quiet", "n"),
    ("silent", "n"), ("regexp-extended", "E"), ("sandbox", "sandbox"), ("separate", "s"),
    ("unbuffered", "u")]

def usageText (name : Octets) : Octets :=
  "Usage: ".toList ++ name ++
    " [OPTION]... \x7bscript-only-if-no-other-script\x7d [input-file]...\n".toList

/-- A part of a script, by how it was given. -/
structure Part where
  /-- The name of the file that it is from. -/
  file : Option Octets
  text : Octets

/-- The part that an amount of joined text ends in, with its number among those that are no files,
and how much of it is taken. -/
def partAt (number : Nat) (taken : Nat) : List Part → Nat × Option Octets × Octets
  | [] => (number, none, [])
  | [p] => (if p.file.isSome then number else number + 1, p.file, p.text.take taken)
  | p :: more =>
    let n := if p.file.isSome then number else number + 1
    if taken ≤ p.text.length then (n, p.file, p.text.take taken)
      else partAt n (taken - p.text.length - 1) more

/-- Where a fault is, and what it is. -/
def faultText (parts : List Part) (taken : Nat) (f : Fault) : Octets :=
  match f with
  | .noSuchLabel _ | .regex .bareClass => f.text
  | _ =>
    let (number, file, before) :=
      if taken = 0 then ((parts.filter (·.file.isNone)).length, none, []) else partAt 0 taken parts
    match file with
    | some name =>
      "file ".toList ++ name ++ " line ".toList ++
        Octets.ofNat ((before.filter (· = '\n')).length + 1) ++ [':', ' '] ++ f.text
    | none =>
      "-e expression #".toList ++ Octets.ofNat number ++ ", char ".toList ++
        Octets.ofNat before.length ++ [':', ' '] ++ f.text

/-- Parts of the script in the order of the options. -/
def parts (f : Flags) : Job (List Part) := do
  let given := f.given.filter fun e => e.1 = "e" || e.1 = "f"
  given.mapM fun (key, value) => do
    if key = "e" then return ⟨none, value⟩
    else
      match ← openOperand value Files.muchOf with
      | .ok cs => return ⟨some value, if cs.getLast? = some '\n' then cs.dropLast else cs⟩
      | .error e => fail 1 ("couldn't open file ".toList ++ value ++ [':', ' '] ++ e.octets)

/-- Writes the files that a script wrote to; each is emptied first. -/
def writeFiles (s : Script) (written : List (Octets × Octets)) : Job Unit := do
  let named := s.commands.toList.filterMap fun c =>
    match c.action with
    | .writeFile n | .writeFirst n => some n
    | .substitute sub => sub.file
    | _ => none
  for n in (named ++ written.map (·.1)).eraseDups do
    let text := (written.reverse.filter fun w => w.1 = n).flatMap (·.2)
    if n = "/dev/stderr".toList then errorText text
    else if n ≠ "/dev/stdout".toList then
      match ← writeFile n text with
      | .ok () => pure ()
      | .error e => fail 4 ("couldn't open file ".toList ++ n ++ [':', ' '] ++ e.octets)

/-- The lines of an operand; complains where it cannot be read. -/
def operandLines (lineEnd : Char) (name : Octets) : Job (Option (List Line)) := do
  match ← openOperand name Files.muchOf with
  | .ok cs => return some (Editing.linesOf lineEnd name cs)
  | .error .isADirectory =>
    complain 2 ("couldn't edit ".toList ++ name ++ ": not a regular file".toList)
    return none
  | .error e =>
    complain 2 ("can't read ".toList ++ name ++ [':', ' '] ++ e.octets)
    return none

/-- Prints what an editor has printed, and ends where it has to. -/
def finish (s : Script) (ps : List Part) (result : Option Nat × Editor) : Job Editor := do
  let (status, e) := result
  match status with
  | none =>
    modify fun w => { w with endless := true }
    exit 0
  | some status =>
    if let some f := e.fault then
      out e.printed.reverse.flatten
      fail 1 (faultText ps 0 f)
    writeFiles s e.written
    setStatus status
    return { e with written := [] }

def sed : Job Unit := do
  let c ← call
  let f ← match rules.read (c.args.length + 1) {} c.args with
    | .ok f => do
      if f.has "help" || f.has "version" then exit 0
      pure f
    | .error e => do
      warn e.text
      errorText (usageText c.name)
      exit 1
  let given ← parts f
  let (ps, operands) ← match given, f.operands with
    | [], script :: ops => pure ([(⟨none, script⟩ : Part)], ops)
    | [], [] => do
      errorText (usageText c.name)
      exit 1
    | ps, ops => pure (ps, ops)
  let notation' := if f.has "E" || f.has "r" then RegexNotation.extended else .basic
  match read notation' (Octets.joinWith ['\n'] (ps.map (·.text))) with
  | .error (taken, e) => fail (match e with | .noSuchLabel _ => 4 | _ => 1) (faultText ps taken e)
  | .ok s =>
    let lineEnd := if f.has "z" then '\x00' else '\n'
    let w ← get
    let start : Editor :=
      { waiting := [], ranges := s.commands.map fun c => match c.first with
          | some .start => some none
          | _ => none
        readFile := fun n =>
          if n = "/dev/stdin".toList then c.input.toOption
          else (w.files.read c.directory n Files.muchOf).toOption
        lineEnd, quiet := f.has "n" || s.quiet
        width := ((f.value? "l").bind Octets.nat?).getD 70 }
    let names := if operands.isEmpty then [['-']] else operands
    if f.has "i" || f.has "s" then
      let inPlace := f.has "i"
      let _ ← names.foldlM (fun (e : Editor) name => do
        match ← operandLines lineEnd name with
        | none => return e
        | some ls =>
          let before := { e with waiting := ls, number := 0, printed := [], owed := false }
          let after ← finish s ps ((Editing.turns s (2 * ls.length + 1000) false).run before)
          let text := after.printed.reverse.flatten
          if inPlace then
            let suffix := (f.value? "i").getD []
            if !suffix.isEmpty then
              let _ ← writeFile (name ++ suffix) (ls.flatMap fun l =>
                l.text ++ if l.ended then ['\n'] else [])
            let _ ← writeFile name text
          else out text
          return after) start
    else
      let lists ← names.mapM (operandLines lineEnd)
      let ls := (lists.filterMap id).flatten
      let e ← finish s ps ((Editing.turns s (2 * ls.length + 1000) false).run { start with
        waiting := ls })
      out e.printed.reverse.flatten

end KeyRelay.Tools.Edit
