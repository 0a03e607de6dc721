import KeyRelay.Shell.Launchers
import KeyRelay.Tools.Tree

/-!
Seeking files: a condition is evaluated for every file below some paths, from the left and only as
far as needed, since parts of it print, remove or start programs.
-/

namespace KeyRelay.Shell.Launch.Seek
open Run

/-- How a number is compared: with a sign in front it is a bound. -/
structure Bound where
  order : Ordering
  number : Nat

def Bound.holds (b : Bound) (n : Nat) : Bool :=
  compare n b.number = b.order

/-- Which permission bits have to be set: just these, all of these, or any of these. -/
inductive ModeRule where
  | exactly
  | all
  | any
  deriving DecidableEq, Repr

inductive Query where
  | constant (b : Bool)
  /-- The name, or the whole path, matches a pattern. -/
  | matched (path fold : Bool) (p : List Glob)
  | kind (letters : List Char)
  | empty
  | size (b : Bound) (unit : Nat)
  | links (b : Bound)
  | newer (stamp : Nat)
  | mode (rule : ModeRule) (n : Nat)
  | print (ending : Char)
  | layout (cs : Octets)
  | run (words : List Octets)
  /-- Runs a program once for all files, under a number of its own. -/
  | runOnce (n : Nat) (words : List Octets)
  | delete
  | prune
  | quit
  | not (q : Query)
  | and (a b : Query)
  | or (a b : Query)
  | both (a b : Query)

/-- What is asked for. -/
structure Quest where
  query : Query := .constant true
  least : Nat := 0
  most : Nat := 1000
  insideFirst : Bool := false
  /-- Something in the condition acts. -/
  acts : Bool := false
  /-- Programs that are run once. -/
  once : List (Nat × List Octets) := []

/-! ### Reading conditions -/

/-- What is known while arguments are read. -/
structure Place where
  words : List Octets
  quest : Quest := {}
  files : Files
  directory : Path

abbrev Reading := StateT Place (Except Octets)

def next? : Reading (Option Octets) := do
  match (← get).words with
  | w :: more =>
    modify fun p => { p with words := more }
    return some w
  | [] => return none

def peek? : Reading (Option Octets) := do
  return (← get).words.head?

/-- A word in the quotes of complaints. -/
def marked (w : Octets) : Octets :=
  '\x60' :: w ++ ['\'']

def argument (test : Octets) : Reading Octets := do
  match ← next? with
  | some w => return w
  | none => throw ("missing argument to ".toList ++ marked test)

def changeQuest (f : Quest → Quest) : Reading Unit :=
  modify fun p => { p with quest := f p.quest }

def acting (q : Query) : Reading Query := do
  changeQuest fun r => { r with acts := true }
  return q

def bound? (cs : Octets) : Option Bound :=
  match cs with
  | '+' :: ds => (Octets.nat? ds).map (⟨.gt, ·⟩)
  | '-' :: ds => (Octets.nat? ds).map (⟨.lt, ·⟩)
  | ds => (Octets.nat? ds).map (⟨.eq, ·⟩)

def numberFor (test : Octets) : Reading Bound := do
  let w ← argument test
  match bound? w with
  | some b => return b
  | none => throw ("invalid argument ".toList ++ marked w ++ " to ".toList ++ marked test)

def levels (test : Octets) : Reading Nat := do
  let w ← argument test
  match Octets.nat? w with
  | some n => return n
  | none =>
    throw ("Expected a positive decimal integer argument to ".toList ++ test ++
      ", but got ".toList ++ Tools.Job.quoted w)

def patternFor (test : Octets) (path fold : Bool) : Reading Query := do
  let w ← argument test
  return .matched path fold (Glob.read ((if fold then w.map Char.toLower else w).map (·, false)))

/-- The unit that a letter behind a size stands for. -/
def unit? (c : Char) : Option Nat :=
  match c with
  | 'c' => some 1
  | 'w' => some 2
  | 'b' => some 512
  | 'k' => some 1024
  | 'M' => some 1048576
  | 'G' => some 1073741824
  | _ => none

def sizeFor (test : Octets) : Reading Query := do
  let w ← argument test
  let last := w.getLast?.getD ' '
  let (digits, unit) ← if last.isDigit then pure (w, 512)
    else
      match unit? last with
      | some n => pure (w.dropLast, n)
      | none => throw ("invalid -size type ".toList ++ marked [last])
  match bound? digits with
  | some b => return .size b unit
  | none => throw ("Invalid argument ".toList ++ marked w ++ " to -size".toList)

def kindFor (test : Octets) : Reading Query := do
  let w ← argument test
  let letters := (Octets.splitAt (· = ',') w).flatten
  match letters.find? fun c => !"bcdpfls".toList.contains c with
  | some c => throw ("Unknown argument to ".toList ++ test ++ [':', ' ', c])
  | none => return .kind letters

def modeFor (test : Octets) : Reading Query := do
  let w ← argument test
  let (rule, text) : ModeRule × Octets := match w with
    | '-' :: text => (.all, text)
    | '/' :: text => (.any, text)
    | text => (.exactly, text)
  match Tools.Tree.changedMode? false 0 0 text with
  | some n => return .mode rule n
  | none => throw ("invalid mode ".toList ++ Tools.Job.quoted w)

def newerFor (test : Octets) : Reading Query := do
  let w ← argument test
  let p ← get
  match p.files.find p.directory w with
  | .ok (_, i) => return .newer i.stamp
  | .error e => throw (Tools.Job.quoted w ++ [':', ' '] ++ e.octets)

/-- The words of a program up to a semicolon, or up to a plus sign behind a pair of braces. -/
def programWords (test : Octets) : Nat → List Octets → Reading Query
  | 0, _ => throw ("missing argument to ".toList ++ marked test)
  | fuel + 1, done => do
    match ← next? with
    | none => throw ("missing argument to ".toList ++ marked test)
    | some [';'] =>
      if done.isEmpty then throw ("missing argument to ".toList ++ marked test)
      acting (.run done.reverse)
    | some ['+'] =>
      match done with
      | ['\x7b', '\x7d'] :: more =>
        let n := (← get).quest.once.length
        changeQuest fun r => { r with once := r.once ++ [(n, more.reverse)] }
        acting (.runOnce n more.reverse)
      | _ => programWords test fuel (['+'] :: done)
    | some w => programWords test fuel (w :: done)

/-- One test or action. -/
def single (test : Octets) : Reading Query := do
  match String.ofList test with
  | "-true" | "-noleaf" | "-follow" | "-xdev" | "-mount" | "-warn" | "-nowarn" | "-daystart"
  | "-readable" | "-writable" => return .constant true
  | "-false" | "-nouser" | "-nogroup" => return .constant false
  | "-depth" | "-d" =>
    changeQuest fun r => { r with insideFirst := true }
    return .constant true
  | "-maxdepth" =>
    let n ← levels test
    changeQuest fun r => { r with most := n }
    return .constant true
  | "-mindepth" =>
    let n ← levels test
    changeQuest fun r => { r with least := n }
    return .constant true
  | "-name" => patternFor test false false
  | "-iname" => patternFor test false true
  | "-path" | "-wholename" => patternFor test true false
  | "-ipath" | "-iwholename" => patternFor test true true
  | "-type" | "-xtype" => kindFor test
  | "-empty" => return .empty
  | "-size" => sizeFor test
  | "-links" => return .links (← numberFor test)
  | "-uid" | "-gid" => return .constant ((← numberFor test).holds 0)
  | "-mtime" | "-atime" | "-ctime" => return .constant ((← numberFor test).holds 0)
  | "-mmin" | "-amin" | "-cmin" => return .constant ((← numberFor test).holds 1)
  | "-user" | "-group" =>
    let w ← argument test
    if w = "root".toList || w = ['0'] then return .constant true
    else if (Octets.nat? w).isSome then return .constant false
    else throw (Tools.Job.quoted w ++ " is not the name of a".toList ++
      (if test = "-user".toList then " known user" else "n existing group").toList)
  | "-newer" | "-anewer" | "-cnewer" => newerFor test
  | "-perm" => modeFor test
  | "-executable" => return .mode .any 73
  | "-print" => acting (.print '\n')
  | "-print0" => acting (.print '\x00')
  | "-printf" => acting (.layout (← argument test))
  | "-exec" | "-execdir" => programWords test ((← get).words.length + 1) []
  | "-delete" =>
    changeQuest fun r => { r with insideFirst := true }
    acting .delete
  | "-prune" => return .prune
  | "-quit" => return .quit
  | _ =>
    if test.head? = some '-' then throw ("unknown predicate ".toList ++ marked test)
    else throw ("paths must precede expression: ".toList ++ marked test)

/-- Whether a word joins conditions or ends one. -/
def isJoint (w : Octets) : Bool :=
  ["-o", "-or", "-a", "-and", ",", ")"].contains (String.ofList w)

def binaryMisplaced {α : Type} (w : Octets) : Reading α :=
  throw ("invalid expression; you have used a binary operator '".toList ++ w ++
    "' with nothing before it.".toList)

mutual

/-- Conditions of which one may be left out. -/
def chain : Nat → Nat → Reading Query
  | 0, _ => throw "arguments too deep".toList
  | fuel + 1, level => do
    if level = 3 then operand fuel
    else
      let first ← chain fuel (level + 1)
      more fuel level first

/-- What follows a condition of a level: lists bind least, then alternatives, then what has to hold
too. -/
def more : Nat → Nat → Query → Reading Query
  | 0, _, q => return q
  | fuel + 1, level, q => do
    match ← peek? with
    | none => return q
    | some w =>
      let s := String.ofList w
      let isMine : Bool := match level with
        | 0 => s = ","
        | 1 => s = "-o" || s = "-or"
        | _ => s = "-a" || s = "-and"
      if isMine then
        let _ ← next?
        if (← peek?).isNone then throw ("expected an expression after ".toList ++
          Tools.Job.quoted w)
        let r ← chain fuel (level + 1)
        more fuel level (match level with | 0 => .both q r | 1 => .or q r | _ => .and q r)
      else if level = 2 && !isJoint w then
        let r ← chain fuel 3
        more fuel level (.and q r)
      else return q

def operand : Nat → Reading Query
  | 0 => throw "arguments too deep".toList
  | fuel + 1 => do
    match ← next? with
    | none => return .constant true
    | some w =>
      match String.ofList w with
      | "!" | "-not" =>
        if (← peek?).isNone then throw ("expected an expression after ".toList ++
          Tools.Job.quoted w)
        return .not (← operand fuel)
      | "(" =>
        if (← peek?).isNone then
          throw ("invalid expression; expected to find a ')' but didn't see one. " ++
            "Perhaps you need an extra predicate after '('").toList
        if (← peek?) = some [')'] then
          throw "invalid expression; empty parentheses are not allowed.".toList
        let q ← chain fuel 0
        match ← next? with
        | some [')'] => return q
        | _ =>
          throw ("invalid expression; I was expecting to find a ')' somewhere " ++
            "but did not see one.").toList
      | ")" => throw "invalid expression; you have too many ')'".toList
      | _ => if isJoint w then binaryMisplaced w else single w

end

/-- The whole condition of some words. -/
def quest (files : Files) (directory : Path) (words : List Octets) : Except Octets Quest := do
  if words.isEmpty then return { query := .print '\n' }
  let (q, p) ← (chain (5 * words.length + 10) 0).run { words, files, directory }
  match p.words with
  | [] => return { p.quest with query := if p.quest.acts then q else .and q (.print '\n') }
  | [')'] :: _ => throw "invalid expression; you have too many ')'".toList
  | w :: _ => throw ("paths must precede expression: ".toList ++ marked w)

/-! ### Going through files -/

/-- A file on the way: its name as printed, its path, and how far it is from where seeking began. -/
structure Spot where
  name : Octets
  path : Path
  depth : Nat

/-- What was met so far. -/
structure Progress where
  pruned : Bool := false
  ended : Bool := false
  /-- Files for programs that are run once, newest first. -/
  kept : List (Nat × Octets) := []

abbrev Hunt := StateT Progress Run

/-- A layout with the facts of a file. -/
def laidOut (files : Files) (spot : Spot) (i : Inode) : Nat → Octets → Octets
  | 0, cs => cs
  | _ + 1, [] => []
  | fuel + 1, '\\' :: c :: rest =>
    (if c = '0' then '\x00' else (Format.escape? c).getD c) :: laidOut files spot i fuel rest
  | fuel + 1, '%' :: c :: rest =>
    let text : Octets := match c with
      | 'p' => spot.name
      | 'f' => Path.lastName spot.name
      | 'h' => Path.directoryName spot.name
      | 's' => Octets.ofNat (Tools.Tree.sizeOf i.node)
      | 'd' => Octets.ofNat spot.depth
      | 'y' => match Tools.Tree.kindLetter i.node with | '-' => ['f'] | k => [k]
      | 'm' => Nat.toDigits 8 i.mode
      | 'M' => Tools.Tree.modeText i
      | 'u' | 'g' => "root".toList
      | 'U' | 'G' => ['0']
      | 'l' => match i.node with | .link t => t | _ => []
      | 'n' => Octets.ofNat (files.names.filter fun e => some e.2 = files.index? spot.path).length
      | '%' => ['%']
      | c => ['%', c]
    text ++ laidOut files spot i fuel rest
  | fuel + 1, c :: rest => c :: laidOut files spot i fuel rest

def braces : Octets := ['\x7b', '\x7d']

/-- Evaluates a condition for a file, and does what is in it. -/
def holds (start : Starter) (name : Octets) (spot : Spot) (i : Inode) : Query → Hunt Bool
  | .constant b => return b
  | .matched path fold p =>
    let text := if path then spot.name else Path.lastName spot.name
    return Glob.matchesAll p (if fold then text.map Char.toLower else text)
  | .kind letters =>
    return letters.contains (match Tools.Tree.kindLetter i.node with | '-' => 'f' | k => k)
  | .empty => do
    let s ← getThe State
    return match i.node with
      | .regular cs => cs.isEmpty
      | .directory => (s.world.files.entries spot.path).isEmpty
      | _ => false
  | .size b unit => return b.holds ((Tools.Tree.sizeOf i.node + unit - 1) / unit)
  | .links b => do
    let files := (← getThe State).world.files
    return b.holds (files.names.filter fun e => some e.2 = files.index? spot.path).length
  | .newer stamp => return stamp < i.stamp
  | .mode rule n =>
    return match rule with
      | .exactly => i.mode = n
      | .all => Nat.land i.mode n = n
      | .any => n = 0 || Nat.land i.mode n ≠ 0
  | .print ending => do
    writeOutput name [(false, spot.name ++ [ending])]
    return true
  | .layout cs => do
    let files := (← getThe State).world.files
    writeOutput name [(false, laidOut files spot i (cs.length + 1) cs)]
    return true
  | .run words => do
    let words := words.map fun w => replaceAll braces spot.name (w.length + 1) w
    let before := (← getThe State).process.status
    match ← startApart start words with
    | some f =>
      complain name (Tools.Job.quoted (words.headD []) ++ [':', ' '] ++ f.octets)
      setStatus before
      return false
    | none =>
      let status := (← getThe State).process.status
      setStatus before
      return status = 0
  | .runOnce n _ => do
    modify fun p => { p with kept := (n, spot.name) :: p.kept }
    return true
  | .delete => do
    let files := (← getThe State).world.files
    if i.node = .directory && !(files.entries spot.path).isEmpty then
      complain name ("cannot delete ".toList ++ Tools.Job.quoted spot.name ++
        ": Directory not empty".toList)
      setStatus 1
      return false
    else
      if !spot.path.isEmpty then modifyWorld fun w =>
        { w with files := w.files.removeName spot.path }
      return true
  | .prune => do
    modify fun p => { p with pruned := true }
    return true
  | .quit => do
    modify fun p => { p with ended := true }
    return true
  | .not q => do return !(← holds start name spot i q)
  | .and a b => do
    if !(← holds start name spot i a) then return false
    if (← get).ended then return false
    holds start name spot i b
  | .or a b => do
    if ← holds start name spot i a then return true
    if (← get).ended then return true
    holds start name spot i b
  | .both a b => do
    let _ ← holds start name spot i a
    holds start name spot i b

/-- Goes through a file and all below it. -/
def visit (start : Starter) (name : Octets) (q : Quest) : Nat → Spot → Hunt Unit
  | 0, _ => return ()
  | fuel + 1, spot => do
    if (← get).ended then return ()
    let files := (← getThe State).world.files
    match files.inode? spot.path with
    | none => return ()
    | some i =>
      modify fun p => { p with pruned := false }
      let judge : Hunt Unit := do
        if q.least ≤ spot.depth then
          let _ ← holds start name spot i q.query
      let inside : Hunt Unit := do
        if i.node = .directory && spot.depth < q.most && (q.insideFirst || !(← get).pruned) then
          let files := (← getThe State).world.files
          for e in files.entries spot.path do
            visit start name q fuel
              { name := spot.name ++ (if spot.name.getLast? = some '/' then [] else ['/']) ++ e
                path := spot.path ++ [e]
                depth := spot.depth + 1 }
      if q.insideFirst then
        inside
        judge
      else
        judge
        inside

/-- How deep directories may lie. -/
def deepest : Nat := 200

/-- Whether a word begins the condition. -/
def beginsQuery (w : Octets) : Bool :=
  match w with
  | ['('] | ['!'] => true
  | '-' :: _ :: _ => true
  | _ => false

def find : Launcher := fun start name args => do
  let args := args.dropWhile fun w => ["-H", "-L", "-P"].contains (String.ofList w)
  let paths := args.takeWhile (!beginsQuery ·)
  let words := args.drop paths.length
  let s ← get
  if words.any fun w => ["-help", "--help", "-version", "--version"].contains (String.ofList w) then
    setStatus 0
  else
    match quest s.world.files s.process.directory words with
    | .error e =>
      complain name e
      setStatus 1
    | .ok q =>
      setStatus 0
      let body : Hunt Unit := do
        for p in if paths.isEmpty then [['.']] else paths do
          let t ← getThe State
          match t.world.files.resolve t.process.directory p (p.getLast? = some '/') with
          | .error e =>
            complain name (Tools.Job.quoted p ++ [':', ' '] ++ e.octets)
            setStatus 1
          | .ok path =>
            if (t.world.files.inode? path).isNone then
              complain name (Tools.Job.quoted p ++ ": No such file or directory".toList)
              setStatus 1
            else visit start name q deepest { name := p, path, depth := 0 }
      let ((), progress) ← body.run {}
      for (n, words) in q.once do
        let names := (progress.kept.filter fun k => k.1 = n).reverse.map (·.2)
        if !names.isEmpty then
          let before := (← process).status
          match ← startApart start (words ++ names) with
          | some f =>
            complain name (Tools.Job.quoted (words.headD []) ++ [':', ' '] ++ f.octets)
            setStatus 1
          | none => setStatus (if (← process).status = 0 then before else 1)

end KeyRelay.Shell.Launch.Seek
