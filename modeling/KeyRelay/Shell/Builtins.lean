import KeyRelay.Shell.Condition
import KeyRelay.Shell.Format
import KeyRelay.Shell.Lookup
import KeyRelay.Shell.Redirection

/-!
Commands of the shell that only look at and change the process: its parameters, variables, options
and directory. Each is a function of its arguments and gives a status.
-/

namespace KeyRelay.Shell.Builtin
open Run

/-! ### Arguments -/

/-- Options in front of other arguments, by a list of their letters; a colon follows one that takes
a value. -/
def options (spec : List Char) :
    Nat → List (Char × Octets) → List Octets → Run (List (Char × Octets) × List Octets)
  | 0, read, args => return (read, args)
  | fuel + 1, read, args => do
    match args with
    | ['-', '-'] :: more => return (read, more)
    | ('-' :: c :: letters) :: more => letter fuel read c letters more
    | _ => return (read, args)
where
  letter (fuel : Nat) (read : List (Char × Octets)) (c : Char) (letters : Octets)
      (more : List Octets) :
      Run (List (Char × Octets) × List Octets) := do
    match (spec.dropWhile (· ≠ c)).take 2, letters with
    | [], _ => fail ("Illegal option -".toList ++ [c])
    | [_, ':'], [] =>
      match more with
      | value :: more => options spec fuel (read ++ [(c, value)]) more
      | [] => fail ("No arg for -".toList ++ [c] ++ " option".toList)
    | [_, ':'], value => options spec fuel (read ++ [(c, value)]) more
    | _, [] => options spec fuel (read ++ [(c, [])]) more
    | _, d :: rest =>
      match fuel with
      | 0 => return (read, more)
      | fuel + 1 => letter fuel (read ++ [(c, [])]) d rest more

def optionsOf (spec : String) (args : List Octets) : Run (List (Char × Octets) × List Octets) :=
  options spec.toList (args.flatten.length + args.length + 1) [] args

def illegalNumber {α : Type} (w : Octets) : Run α :=
  fail ("Illegal number: ".toList ++ w)

/-- A number that is not negative and fits a machine word of half the size. -/
def number (w : Octets) : Run Nat := do
  match Condition.number w with
  | .ok n => if n < 0 ∨ 2147483647 < n then illegalNumber w else return n.toNat
  | .error _ => illegalNumber w

/-- Prints text to standard output. -/
def print (name : String) (cs : Octets) : Run Nat := do
  if ← write 1 cs then return 0
  warn (name.toList ++ ": I/O error".toList)
  return 1

/-- A text between single quotes, which the shell reads back. -/
def singleQuoted (cs : Octets) : Octets :=
  let pieces := Octets.splitAt (· = '\'') cs
  '\'' :: Octets.joinWith "'\"'\"'".toList pieces ++ ['\'']

/-! ### Printing and conditions -/

def echo (args : List Octets) : Run Nat :=
  print "echo" (Format.echo args)

def printf (args : List Octets) : Run Nat := do
  match (← optionsOf "" args).2 with
  | [] => fail "usage: printf format [arg ...]".toList
  | format :: args =>
    let (fault, p) := Format.run .shell format args
    for c in p.complaints do warn c
    let written ← print "printf" p.text
    match fault with
    | none => return max p.status written
    | some .noLetter => fail "missing format character".toList
    | some (.badDirective shown) => fail (shown ++ ": invalid directive".toList)

/-- The value of a condition as a status; with a bracket, the last argument has to close it. -/
def test (bracket : Bool) (args : List Octets) : Run Nat := do
  if bracket && args.getLast? ≠ some [']'] then fail "missing ]".toList
  let args := if bracket then args.dropLast else args
  let s ← get
  match Condition.evaluate ⟨s.world.files, s.process.directory, ← streamKinds⟩
      (args.length + 1) args with
  | .ok true => return 0
  | .ok false => return 1
  | .error f => fail f.text

/-! ### Parameters and variables -/

def shift (args : List Octets) : Run Nat := do
  let n ← match args with
    | w :: _ => number w
    | [] => pure 1
  if (← process).params.length < n then fail "can't shift that many".toList
  modifyProcess fun p => { p with params := p.params.drop n, letters := 0 }
  return 0

/-- Names of options with their letters, in the order they are listed in. -/
def optionNames : List (String × Char) :=
  [("errexit", 'e'), ("noglob", 'f'), ("ignoreeof", 'I'), ("interactive", 'i'), ("monitor", 'm'),
    ("noexec", 'n'), ("stdin", 's'), ("xtrace", 'x'), ("verbose", 'v'), ("vi", 'V'), ("emacs", 'E'),
    ("noclobber", 'C'), ("allexport", 'a'), ("notify", 'b'), ("nounset", 'u'), ("privileged", 'p'),
    ("nolog", '0'), ("debug", '1')]

def setOption (on : Bool) (c : Char) : Run Unit :=
  modifyProcess fun p =>
    let others := p.options.filter (· ≠ c)
    { p with options := if on then c :: others else others }

/-- Letters of options, where `o` takes a name from the arguments that follow. -/
def setLetters (on : Bool) : Octets → List Octets → Run (List Octets)
  | [], more => return more
  | c :: cs, more => do
    if c = 'o' then
      match more with
      | name :: more =>
        match optionNames.find? fun e => e.1.toList = name with
        | some (_, c) => setOption on c
        | none => fail ("Illegal option -o ".toList ++ name)
        setLetters on cs more
      | [] =>
        let p ← process
        let shown := optionNames.flatMap fun (name, c) =>
          if on then Octets.fill true ' ' 16 name.toList ++
            (if p.hasOption c then "on\n" else "off\n").toList
          else (if p.hasOption c then "set -o " else "set +o ").toList ++ name.toList ++ ['\n']
        let _ ← print "set" ((if on then "Current option settings\n".toList else []) ++ shown)
        setLetters on cs []
    else if optionNames.any fun e => e.2 = c && !c.isDigit then
      setOption on c
      setLetters on cs more
    else fail ("Illegal option -".toList ++ [c])

/-- Options, and then parameters. -/
def setFrom : Nat → List Octets → Run Unit
  | 0, _ => return ()
  | fuel + 1, args => do
    let parameters (args : List Octets) : Run Unit :=
      modifyProcess fun p => { p with params := args, letters := 0 }
    match args with
    | [] => return ()
    | ['-'] :: more =>
      setOption false 'x'
      setOption false 'v'
      if !more.isEmpty then parameters more
    | ['-', '-'] :: more => parameters more
    | ('-' :: cs) :: more => setFrom fuel (← setLetters true cs more)
    | ('+' :: cs) :: more => setFrom fuel (← setLetters false cs more)
    | args => parameters args

/-- Lists variables by name. -/
def listing (front : String) (bs : List Binding) : Octets :=
  let sorted := bs.mergeSort fun a b => (Octets.order a.name b.name).isLE
  sorted.flatMap fun b =>
    front.toList ++ b.name ++ (match b.value with
      | some v => '=' :: singleQuoted v
      | none => []) ++ ['\n']

def set (args : List Octets) : Run Nat := do
  if args.isEmpty then print "set" (listing "" ((← process).bindings.filter (·.value.isSome)))
  else
    setFrom (args.length + 1) args
    return 0

/-- A name, and the value after an equality sign. -/
def nameAndValue (w : Octets) : Octets × Option Octets :=
  let name := w.takeWhile (· ≠ '=')
  (name, if name.length < w.length then some (w.drop (name.length + 1)) else none)

def checkName (name : Octets) : Run Unit := do
  if !isName name then fail (name ++ ": bad variable name".toList)

/-- Marks variables, after giving them values. -/
def declare (verb : String) (isMarked : Binding → Bool) (f : Binding → Binding)
    (args : List Octets) : Run Nat := do
  let (given, names) ← optionsOf "p" args
  if names.isEmpty || given.any (·.1 = 'p') then
    print verb (listing (verb ++ " ") ((← process).bindings.filter isMarked))
  else
    for w in names do
      let (name, value) := nameAndValue w
      checkName name
      if let some v := value then assign name v
      mark name f
    return 0

def exportNames (args : List Octets) : Run Nat :=
  declare "export" (·.exported) (fun b => { b with exported := true }) args

def fixNames (args : List Octets) : Run Nat :=
  declare "readonly" (·.readonly) (fun b => { b with readonly := true }) args

def localNames (args : List Octets) : Run Nat := do
  if (← process).calls = 0 then fail "not in a function".toList
  for w in args do
    let (name, value) := nameAndValue w
    if name ≠ ['-'] then checkName name
    modifyProcess fun p =>
      match p.hidden with
      | top :: more =>
        if top.any fun e => e.1 = name then p
          else { p with hidden := ((name, p.binding? name) :: top) :: more }
      | [] => p
    if let some v := value then assign name v
  return 0

def unset (args : List Octets) : Run Nat := do
  let (given, names) ← optionsOf "vf" args
  for name in names do
    if given.getLast?.map (·.1) = some 'f' then
      modifyProcess fun p => { p with functions := p.functions.filter fun f => f.1 ≠ name }
    else
      checkName name
      Run.unset name
  return 0

/-! ### Reading a line -/

/-- A line as characters, marked where a backslash guards them, and what follows it; `false` where
it has no end. -/
def takeLine (raw : Bool) : Nat → List PatternChar → Octets → List PatternChar × Octets × Bool
  | 0, line, rest => (line.reverse, rest, false)
  | _ + 1, line, [] => (line.reverse, [], false)
  | fuel + 1, line, c :: rest =>
    if c = '\n' then (line.reverse, rest, true)
    else if c = '\\' && !raw then
      match rest with
      | '\n' :: more => takeLine raw fuel line more
      | d :: more => takeLine raw fuel ((d, true) :: line) more
      | [] => (line.reverse, [], false)
    else takeLine raw fuel (if c = '\x00' then line else (c, false) :: line) rest

/-- Whether a character of a line parts fields, and whether it is a blank that does. -/
def isSeparator (separators : Octets) (c : PatternChar) : Bool :=
  !c.2 && separators.contains c.1

def isBlankSeparator (separators : Octets) (c : PatternChar) : Bool :=
  isSeparator separators c && (c.1 = ' ' || c.1 = '\t' || c.1 = '\n')

/-- Drops one separator with the blanks around it. -/
def dropSeparator (separators : Octets) (cs : List PatternChar) : List PatternChar :=
  let cs := cs.dropWhile (isBlankSeparator separators)
  match cs with
  | c :: rest =>
    if isSeparator separators c then rest.dropWhile (isBlankSeparator separators) else cs
  | [] => []

/-- The fields of a line for so many names; the last one takes all that is left, less blanks at its
end and a separator after its only field. -/
def lineFields (separators : Octets) : Nat → List PatternChar → List Octets
  | 0, _ => []
  | 1, cs =>
    let trimmed := (cs.reverse.dropWhile (isBlankSeparator separators)).reverse
    let first := trimmed.takeWhile fun c => !isSeparator separators c
    let after := dropSeparator separators (trimmed.drop first.length)
    [(if after.isEmpty then first else trimmed).map (·.1)]
  | n + 1, cs =>
    let first := cs.takeWhile fun c => !isSeparator separators c
    first.map (·.1) :: lineFields separators n (dropSeparator separators (cs.drop first.length))

def read (args : List Octets) : Run Nat := do
  let (given, names) ← optionsOf "p:r" args
  if names.isEmpty then fail "arg count".toList
  match ← available 0 with
  | .error _ => return 1
  | .ok text =>
    let (line, rest, ended) := takeLine (given.any (·.1 = 'r')) (text.length + 1) [] text
    leave 0 text rest false
    let separators := (← process).separators
    let fields := lineFields separators names.length (line.dropWhile (isBlankSeparator separators))
    for (name, value) in names.zip fields do
      checkName name
      assign name value
    return if ended then 0 else 1

/-! ### Options of scripts -/

/-- What is found of the next option: its letter, its value, complaints, the index of the next
argument and how far into an argument it goes; none where there are no more. -/
structure NextOption where
  letter : Char
  value : Option Octets
  complaint : Option String := none
  index : Nat
  letters : Nat
  found : Bool

def nextOption (spec : Octets) (args : List Octets) (index letters : Nat) : NextOption :=
  let quiet := spec.head? = some ':'
  let ended (index : Nat) : NextOption := ⟨'?', none, none, index, 0, false⟩
  let within := if index ≤ 1 || letters = 0 then [] else ((args[index - 2]?).getD []).drop letters
  let (text, index, offset) : Option Octets × Nat × Nat :=
    if !within.isEmpty then (some within, index, letters)
    else
      match args[index - 1]? with
      | some ['-', '-'] => (none, index + 1, 0)
      | some ('-' :: c :: cs) => (some (c :: cs), index + 1, 1)
      | _ => (none, index, 0)
  match text with
  | none | some [] => ended index
  | some (c :: rest) =>
    let onward := if rest.isEmpty then 0 else offset + 1
    match (if c = ':' then [] else spec.dropWhile (· ≠ c)).take 2 with
    | [] =>
      if quiet then ⟨'?', some [c], none, index, onward, true⟩
      else ⟨'?', none, some ("Illegal option -" ++ String.singleton c), index, onward, true⟩
    | [_, ':'] =>
      if !rest.isEmpty then ⟨c, some rest, none, index, 0, true⟩
      else
        match args[index - 1]? with
        | some value => ⟨c, some value, none, index + 1, 0, true⟩
        | none =>
          if quiet then ⟨':', some [c], none, index, 0, true⟩
          else ⟨'?', none, some ("No arg for -" ++ String.singleton c ++ " option"), index, 0, true⟩
    | _ => ⟨c, some [], none, index, onward, true⟩

def getopts (args : List Octets) : Run Nat := do
  match args with
  | spec :: name :: more =>
    let p ← process
    let index := ((p.valueOf? "OPTIND".toList).bind Octets.nat?).getD 1
    let n := nextOption spec (if more.isEmpty then p.params else more) (max index 1) p.letters
    if let some text := n.complaint then complainPlain (text.toList ++ ['\n'])
    if n.found then
      match n.value with
      | some v => assign "OPTARG".toList v
      | none => Run.unset "OPTARG".toList
    assign "OPTIND".toList (Octets.ofNat n.index)
    modifyProcess fun p => { p with letters := n.letters }
    checkName name
    assign name [n.letter]
    return if n.found then 0 else 1
  | _ => fail "Usage: getopts optstring var [arg...]".toList

/-! ### Directories and masks -/

/-- A path without dots and doubled slashes, seen from a directory. -/
def normalized (base target : Octets) : Octets :=
  let start := if target.head? = some '/' then [] else Path.ofText base
  let p := (Path.ofText target).foldl (fun (p : Path) name =>
    if name = ['.'] then p else if name = ['.', '.'] then p.dropLast else p ++ [name]) start
  Path.text p

/-- Goes to a directory, if it is one. -/
def enter (target : Octets) : Run Bool := do
  let s ← get
  let shown := normalized s.process.reached target
  match s.world.files.find s.process.directory (if target.head? = some '/' then target
      else shown) with
  | .ok (place, i) =>
    if i.node ≠ .directory then return false
    let old := s.process.reached
    modifyProcess fun p => { p with directory := place, reached := shown }
    assign "OLDPWD".toList old
    assign "PWD".toList shown
    return true
  | .error _ => return false

def cd (args : List Octets) : Run Nat := do
  let (_, args) ← optionsOf "LP" args
  let p ← process
  let back := args.head? = some ['-']
  let target := match args with
    | [] => (p.valueOf? "HOME".toList).getD []
    | w :: _ => if back then (p.valueOf? "OLDPWD".toList).getD [] else w
  let direct := target.head? = some '/' || target.head? = some '.'
  let bases := if direct then [] else
    match p.valueOf? "CDPATH".toList with
    | some v => Octets.splitAt (· = ':') v
    | none => []
  for base in bases do
    if base ≠ [] then
      if ← enter (base ++ ['/'] ++ target) then
        return ← print "cd" ((← process).reached ++ ['\n'])
  if ← enter (if target.isEmpty then ['.'] else target) then
    if back then print "cd" ((← process).reached ++ ['\n']) else return 0
  else fail ("can't cd to ".toList ++ target)

def pwd (args : List Octets) : Run Nat := do
  let (given, _) ← optionsOf "LP" args
  let p ← process
  let physical := given.getLast?.map (·.1) = some 'P'
  print "pwd" ((if physical then Path.text p.directory else p.reached) ++ ['\n'])

/-- Four octal digits. -/
def octalText (n : Nat) : Octets :=
  Octets.fill false '0' 4 (Nat.toDigits 8 n)

/-- The letters of three permission bits. -/
def permissionLetters (n : Nat) : Octets :=
  (if n / 4 % 2 = 1 then ['r'] else []) ++ (if n / 2 % 2 = 1 then ['w'] else []) ++
    (if n % 2 = 1 then ['x'] else [])

/-- Permissions after a change that letters describe; none where they cannot be read. -/
def changedMode? (text : Octets) (mode : Nat) (isDirectory : Bool) : Option Nat :=
  (Octets.splitAt (· = ',') text).foldlM (fun mode clause => do
    let who := clause.takeWhile fun c => c = 'u' || c = 'g' || c = 'o' || c = 'a'
    let whoBits := if who.isEmpty || who.contains 'a' then 511
      else (if who.contains 'u' then 448 else 0) + (if who.contains 'g' then 56 else 0) +
        (if who.contains 'o' then 7 else 0)
    match clause.drop who.length with
    | op :: letters =>
      if !(letters.all fun c => ['r', 'w', 'x', 'X', 's', 't'].contains c) then none
      let executable := mode % 2 = 1 || mode / 8 % 2 = 1 || mode / 64 % 2 = 1 || isDirectory
      let three := (if letters.contains 'r' then 4 else 0) +
        (if letters.contains 'w' then 2 else 0) +
        (if letters.contains 'x' || (letters.contains 'X' && executable) then 1 else 0)
      let bits := Nat.land whoBits (three * 73)
      if op = '+' then some (Nat.lor mode bits)
      else if op = '-' then some (mode - Nat.land mode bits)
      else if op = '=' then some (Nat.lor (mode - Nat.land mode whoBits) bits)
      else none
    | [] => none) mode

def umask (args : List Octets) : Run Nat := do
  let (given, args) ← optionsOf "S" args
  let mask := (← process).umask
  match args with
  | [] =>
    if given.isEmpty then print "umask" (octalText mask ++ ['\n'])
    else
      let mode := 511 - mask
      print "umask" ("u=".toList ++ permissionLetters (mode / 64) ++ ",g=".toList ++
        permissionLetters (mode / 8) ++
        ",o=".toList ++ permissionLetters mode ++ ['\n'])
  | w :: _ =>
    if (w.head?.map Char.isDigit).getD false then
      if w.all (fun c => '0' ≤ c && c ≤ '7') && Octets.valueOf 8 w < 4096 then
        modifyProcess fun p => { p with umask := Octets.valueOf 8 w % 512 }
        return 0
      else illegalNumber w
    else
      match changedMode? w (511 - mask) false with
      | some mode =>
        modifyProcess fun p => { p with umask := 511 - mode }
        return 0
      | none => fail ("Illegal mode: ".toList ++ w)

/-! ### Names of commands -/

def aliases (args : List Octets) : Run Nat := do
  let shown (a : Octets × Octets) : Octets := a.1 ++ ['='] ++ singleQuoted a.2 ++ ['\n']
  if args.isEmpty then
    return ← print "alias" ((← process).aliases.flatMap shown)
  let mut status := 0
  for w in args do
    let (name, value) := nameAndValue w
    match value with
    | some v =>
      modifyProcess fun p => { p with aliases := p.aliases.filter (·.1 ≠ name) ++ [(name, v)] }
    | none =>
      match (← process).aliases.find? (·.1 = name) with
      | some a => status := max status (← print "alias" (shown a))
      | none =>
        complainPlain ("alias: ".toList ++ name ++ " not found\n".toList)
        status := 1
  return status

def unalias (args : List Octets) : Run Nat := do
  let (given, names) ← optionsOf "a" args
  if !given.isEmpty then modifyProcess fun p => { p with aliases := [] }
  let mut status := 0
  for name in names do
    if (← process).aliases.any (·.1 = name) then
      modifyProcess fun p => { p with aliases := p.aliases.filter (·.1 ≠ name) }
    else
      complainPlain ("unalias: ".toList ++ name ++ " not found\n".toList)
      status := 1
  return status

/-- Says what a name stands for, in a sentence or as a word. -/
def describe (sentence : Bool) (name : Octets) : Run Nat := do
  let s ← get
  let p := s.process
  let say (words : String) (word : Octets) : Run Nat :=
    print "type" (if sentence then name ++ words.toList ++ ['\n'] else word ++ ['\n'])
  let text := String.ofList name
  if reservedWords.contains text then say " is a shell keyword" name
  else
    match p.aliases.find? (·.1 = name) with
    | some (_, v) =>
      if sentence then print "type" (name ++ " is an alias for ".toList ++ v ++ ['\n'])
      else print "type" ("alias ".toList ++ name ++ ['='] ++ singleQuoted v ++ ['\n'])
    | none =>
      match Lookup.find p s.world.files true ((p.valueOf? "PATH".toList).getD []) name with
      | .special _ => say " is a special shell builtin" name
      | .ordinary _ => say " is a shell builtin" name
      | .function _ => say " is a shell function" name
      | .file path =>
        let isThere := match s.world.files.find p.directory path with
          | .ok (_, i) => name.contains '/' || i.mode % 2 = 1
          | .error _ => false
        if !isThere then missing
        else
          let words := if p.known.any (·.1 = name) then " is a tracked alias for " else " is "
          print "type" (if sentence then name ++ words.toList ++ path ++ ['\n'] else path ++ ['\n'])
      | .nothing _ => missing
where
  missing : Run Nat := do
    if sentence then let _ ← print "type" (name ++ ": not found\n".toList)
    return 127

def type (args : List Octets) : Run Nat := do
  let mut status := 0
  for w in args do
    let n ← describe true w
    status := max status n
  return status

def hash (args : List Octets) : Run Nat := do
  let (given, names) ← optionsOf "rv" args
  if !given.isEmpty then modifyProcess fun p => { p with known := [] }
  if names.isEmpty then
    return ← print "hash" ((← process).known.flatMap fun k => k.2 ++ ['\n'])
  let mut status := 0
  for name in names do
    let s ← get
    match Lookup.find s.process s.world.files true
        ((s.process.valueOf? "PATH".toList).getD []) name with
    | .nothing f =>
      warn (name ++ [':', ' '] ++ Lookup.faultText f)
      status := 1
    | .file path => modifyProcess fun p => { p with known := p.known ++ [(name, path)] }
    | _ => pure ()
  return status

/-! ### Signals -/

/-- The number of a signal, by its number or name; zero is the end of a process. -/
def signal? (w : Octets) : Option Nat :=
  match Octets.nat? w with
  | some n => if n ≤ Signal.last then some n else none
  | none =>
    let name := String.ofList (w.map Char.toUpper)
    if name = "EXIT" then some 0 else Signal.ofName? name

def trap (args : List Octets) : Run Nat := do
  let (_, args) ← optionsOf "" args
  match args with
  | [] =>
    let traps := (← process).traps
    let shown := (List.range (Signal.last + 1)).flatMap fun n =>
      match traps.find? (·.1 = (Signal.label n).toList) with
      | some (name, action) => "trap -- ".toList ++ singleQuoted action ++ [' '] ++ name ++ ['\n']
      | none => []
    print "trap" shown
  | first :: more =>
    let resets := more.isEmpty || (Octets.nat? first).isSome
    let action := if resets || first = ['-'] then none else some first
    for w in if resets then args else more do
      match signal? w with
      | none =>
        complainPlain ("trap: ".toList ++ w ++ ": bad trap\n".toList)
        return 1
      | some n =>
        let name := (Signal.label n).toList
        modifyProcess fun p =>
          let others := p.traps.filter (·.1 ≠ name)
          { p with traps := match action with
              | some a => (name, a) :: others
              | none => others }
    return 0

def wait (args : List Octets) : Run Nat := do
  let companions := (← get).world.companions
  let until' (time : Nat) : Run Unit :=
    modifyWorld fun w => { w with elapsed := max w.elapsed time }
  if args.isEmpty then until' (companions.foldl (fun t c => max t c.time) 0)
  let mut status := 0
  for w in args do
    let n ← number w
    match companions.find? (·.number = n) with
    | some c =>
      until' c.time
      tellSignal c.signal
      status := c.status
    | none => status := 127
  return status

end KeyRelay.Shell.Builtin
