import KeyRelay.Tools.Flags
import KeyRelay.Tools.Regex.Program
import KeyRelay.Tools.Regex.Reader

/-!
Searching lines for patterns. Lines that match are printed, or counted, or only the names of their
files.
-/

namespace KeyRelay.Tools.Search
open Shell Job

def rules : FlagRules where
  letters := "0123456789A:B:C:D:EFGHILPRTUVX:abcd:e:f:hiLlm:noqrsuvwxyZz"
  names := [("basic-regexp", "G"), ("extended-regexp", "E"), ("fixed-regexp", "F"),
    ("fixed-strings", "F"), ("perl-regexp", "P"), ("after-context", "A:"), ("before-context", "B:"),
    ("binary-files", "binary-files:"), ("line-buffered", "line-buffered"), ("byte-offset", "b"),
    ("context", "C:"), ("color", "color::"), ("colour", "color::"), ("count", "c"),
    ("devices", "D:"), ("directories", "d:"), ("exclude", "exclude:"),
    ("exclude-from", "exclude-from:"), ("exclude-dir", "exclude-dir:"), ("file", "f:"),
    ("files-with-matches", "l"), ("files-without-match", "L"),
    ("group-separator", "group-separator:"), ("no-group-separator", "no-group-separator"),
    ("ignore-case", "i"), ("no-ignore-case", "no-ignore-case"), ("include", "include:"),
    ("initial-tab", "T"), ("label", "label:"), ("line-number", "n"), ("line-regexp", "x"),
    ("max-count", "m:"), ("no-filename", "h"), ("no-messages", "s"), ("null", "Z"),
    ("null-data", "z"), ("only-matching", "o"), ("quiet", "q"), ("recursive", "r"),
    ("dereference-recursive", "R"), ("regexp", "e:"), ("invert-match", "v"), ("silent", "q"),
    ("text", "a"), ("binary", "U"), ("unix-byte-offsets", "u"), ("with-filename", "H"),
    ("word-regexp", "w")]

def usageText (name : Octets) : Octets :=
  "Usage: grep [OPTION]... PATTERNS [FILE]...\nTry '".toList ++ name ++
    " --help' for more information.\n".toList

/-- How the tool was asked to search. -/
structure Request where
  program : Regex.Program
  flags : Flags
  names : Bool
  before : Nat
  after : Nat
  most : Option Nat
  ending : Char
  binaryNames : Octets := []

/-- The expression of a list of patterns. -/
def expression (n : Option RegexNotation) (patterns : List Octets) : Except RegexFault Regex := do
  let rs ← patterns.mapM fun p =>
    match n with
    | some n => Regex.read n p
    | none => .ok (Regex.ofList (p.map Regex.char))
  match rs.reverse with
  | [] => return .set false []
  | r :: more => return more.foldl (fun rest r => .either r rest) r

/-- The expression where words or whole lines are asked for. -/
def framed (f : Flags) (r : Regex) : Regex :=
  if f.has "x" then .append (.boundary .lineStart) (.append r (.boundary .lineEnd))
  else if f.has "w" then .append (.boundary .freeBefore) (.append r (.boundary .freeAfter))
  else r

/-- Matches in a line that are not empty. -/
def matchesIn (p : Regex.Program) (line : Array Char) : Nat → Nat → List (Nat × Octets)
  | 0, _ => []
  | fuel + 1, i =>
    match p.search? line i with
    | none => []
    | some f =>
      if f.stop = f.start then
        if line.size ≤ f.start then [] else matchesIn p line fuel (f.start + 1)
      else (f.start, f.group line 0) :: matchesIn p line fuel f.stop

/-- A line with its number and the octets before it. -/
structure Line where
  number : Nat
  offset : Nat
  text : Octets

def numbered : Nat → Nat → List Octets → List Line
  | _, _, [] => []
  | n, at', l :: more => ⟨n, at', l⟩ :: numbered (n + 1) (at' + l.length + 1) more

/-- What stands in front of a line; the mark tells a match from its surroundings. -/
def lead (r : Request) (name : Octets) (mark : Char) (number offset : Nat) : Octets :=
  (if r.names then name ++ [if r.flags.has "Z" then '\x00' else mark] else []) ++
    (if r.flags.has "n" then Octets.ofNat number ++ [mark] else []) ++
    (if r.flags.has "b" then Octets.ofNat offset ++ [mark] else [])

/-- Output of a search: lines that were chosen, and those around them. -/
structure Progress where
  /-- Lines before that were not printed, newest first. -/
  kept : List Line := []
  /-- Lines behind a match that are still printed. -/
  due : Nat := 0
  last : Option Nat := none
  printed : List Octets := []

def showLine (r : Request) (name : Octets) (p : Progress) (isMatch : Bool) (l : Line) : Progress :=
  let mark := if isMatch then ':' else '-'
  let gap := (0 < r.before || 0 < r.after) && p.last.any (fun n => n + 1 < l.number)
  let separator := if gap && !r.flags.has "no-group-separator"
    then (r.flags.value? "group-separator").getD ['-', '-'] ++ ['\n'] else []
  let text :=
    if r.flags.has "o" then
      if isMatch && !r.flags.has "v" then
        (matchesIn r.program l.text.toArray (l.text.length + 2) 0).flatMap fun (i, cs) =>
          lead r name mark l.number (l.offset + i) ++ cs ++ [r.ending]
      else []
    else lead r name mark l.number l.offset ++ l.text ++ [r.ending]
  { p with last := some l.number, printed := text :: separator :: p.printed }

/-- Goes through lines; gives how many were chosen, and what is printed. -/
def scan (r : Request) (name : Octets) : Nat → Progress → List Line → Nat × Progress
  | n, p, [] => (n, p)
  | n, p, l :: more =>
    let chosen := r.program.isFound l.text ≠ r.flags.has "v"
    if chosen && r.most.any (· ≤ n) then (n, p)
    else if chosen then
      let p := (p.kept.take r.before).reverse.foldl (fun p l => showLine r name p false l) p
      scan r name (n + 1) { showLine r name p true l with kept := [], due := r.after } more
    else if 0 < p.due then scan r name n { showLine r name p false l with due := p.due - 1 } more
    else if r.most.any (· ≤ n) then (n, p)
    else scan r name n { p with kept := (l :: p.kept).take r.before } more

/-- Searches one text; whether a line was chosen. -/
def searchText (r : Request) (name : Octets) (text : Octets) : Job Bool := do
  let pieces := Octets.splitAt (· = r.ending) text
  let pieces := if pieces.getLast? = some [] then pieces.dropLast else pieces
  let (n, p) := scan r name 0 {} (numbered 1 0 pieces)
  let f := r.flags
  if f.has "q" then
    if 0 < n then exit 0
  else if f.has "l" || f.has "L" then
    if (0 < n) = (f.last? ["l", "L"] = some "l")
      then out (name ++ [if f.has "Z" then '\x00' else '\n'])
  else if f.has "c" then line ((if r.names then name ++ [':'] else []) ++ Octets.ofNat n)
  else if text.contains '\x00' && r.ending = '\n' && !f.has "a" then
    if 0 < n then warn (name ++ ": binary file matches".toList)
  else out p.printed.reverse.flatten
  return 0 < n

/-- Files below a directory, in order. -/
def below (f : Files) : Nat → Path → Octets → List (Octets × Path)
  | 0, _, _ => []
  | fuel + 1, p, name =>
    (f.entries p).flatMap fun e =>
      let path := p ++ [e]
      let shown := if name.isEmpty then e else Octets.dropEndWhile (· = '/') name ++ '/' :: e
      match f.node? path with
      | some .directory => below f fuel path shown
      | some (.regular _) => [(shown, path)]
      | _ => []

def chosenName (f : Flags) (name : Octets) : Bool :=
  let base := Path.lastName name
  let fits (pattern : Octets) : Bool := Glob.matchesAll (Glob.read (pattern.map (·, false))) base
  (f.values "include").isEmpty && !(f.values "exclude").any fits ||
    (f.values "include").any fits && !(f.values "exclude").any fits

/-- Searches an operand. -/
def searchOperand (r : Request) (name : Octets) : Job Bool := do
  let recursive := r.flags.has "r" || r.flags.has "R"
  let w ← get
  match if name = ['-'] then none else (w.files.find w.call.directory name).toOption with
  | some (path, ⟨.directory, _, _⟩) =>
    if recursive then
      let files := (below w.files 64 path name).filter fun e => chosenName r.flags e.1
      let found ← files.mapM fun (shown, path) => do
        match w.files.node? path with
        | some (.regular text) => searchText r shown text
        | _ => return false
      return found.any id
    else if r.flags.value? "d" = some "skip".toList then return false
    else
      if !r.flags.has "s" then complain 2 (name ++ ": Is a directory".toList)
      setStatus 2
      return false
  | _ =>
    match ← openOperand name Files.muchOf with
    | .ok text =>
      let shown := if name = ['-'] then (r.flags.value? "label").getD "(standard input)".toList
        else name
      searchText r shown text
    | .error e =>
      if !r.flags.has "s" then complain 2 (name ++ [':', ' '] ++ e.octets)
      setStatus 2
      return false

/-- The options of the arguments; faults show how the tool is used. -/
def readFlags : Job Flags := do
  let c ← call
  match rules.read (c.args.length + 1) {} c.args with
  | .ok f =>
    if f.has "help" then exit 0
    return f
  | .error e =>
    warn e.text
    errorText (usageText c.name)
    exit 2

/-- Reads a number of lines around matches. -/
def context (f : Flags) (key : String) : Job (Option Nat) := do
  match f.value? key with
  | none => return none
  | some v =>
    match Octets.nat? v with
    | some n => return some n
    | none => fail 2 (v ++ ": invalid context length argument".toList)

/-- Searches with the notation that is usual for the tool, unless options tell another; `none` for
plain text. -/
def search (usual : Option RegexNotation) : Job Unit := do
  let f ← readFlags
  let digits := (f.given.filterMap fun e => if e.1.all Char.isDigit then e.1.toList.head? else none)
  let around := (← context f "C").getD (if digits.isEmpty then 0 else Octets.valueOf 10 digits)
  let after ← context f "A"
  let before ← context f "B"
  let most ← (f.value? "m").mapM fun v => do
    match Octets.int? v with
    | some n => return if n < 0 then 1000000000 else n.toNat
    | none => fail 2 "invalid max count".toList
  let named := f.has "e" || f.has "f"
  let (given, operands) ← match named, f.operands with
    | true, ops => pure (f.values "e", ops)
    | false, p :: ops => pure ([p], ops)
    | false, [] => do
      errorText (usageText (← call).name)
      exit 2
  let fromFiles ← (f.values "f").mapM fun file => do
    match ← openOperand file Files.muchOf with
    | .ok cs => return Octets.lines cs
    | .error e => fail 2 (file ++ [':', ' '] ++ e.octets)
  let patterns := given.flatMap (Octets.splitAt (· = '\n')) ++ fromFiles.flatten
  let syntax' := match f.last? ["E", "F", "G", "P"] with
    | some "E" | some "P" => some RegexNotation.lenient
    | some "G" => some .basic
    | some _ => none
    | none => usual
  match expression syntax' patterns with
  | .error e => fail 2 e.text.toList
  | .ok r =>
    let recursive := f.has "r" || f.has "R"
    let operands := if operands.isEmpty then [if recursive then ['.'] else ['-']] else operands
    let fold := f.last? ["i", "y", "no-ignore-case"]
    let request : Request :=
      { program := Regex.program (framed f r)
          { fold := fold.isSome && fold ≠ some "no-ignore-case" }
        flags := f
        names := match f.last? ["H", "h"] with
          | some "H" => true
          | some _ => false
          | none => recursive || 1 < operands.length
        before := before.getD around, after := after.getD around, most
        ending := if f.has "z" then '\x00' else '\n' }
    let found ← operands.mapM (searchOperand request)
    let failed := (← get).status = 2
    modify fun w => { w with status := if failed then 2 else if found.any id then 0 else 1 }

end KeyRelay.Tools.Search
