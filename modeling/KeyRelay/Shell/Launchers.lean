import KeyRelay.Shell.Launch
import KeyRelay.Tools.Amount
import KeyRelay.Tools.Flags

/-!
Tools that start another program with the words that they are given: in a changed environment, under
a time limit, or once for each group of words that they read.
-/

namespace KeyRelay.Shell.Launch
open Run

/-- Starts a program by its words. -/
abbrev Starter := List Octets → Run (Except SystemFault Unit)

/-- A tool that starts another program. -/
abbrev Launcher := Starter → (name : Octets) → (args : List Octets) → Run Unit

def complain (name text : Octets) : Run Unit :=
  complainPlain (name ++ ": ".toList ++ text ++ ['\n'])

/-- Complains of how a tool is used. -/
def misused (name : Octets) (status : Nat) (text : Octets) : Run Unit := do
  complain name text
  complainPlain ("Try '".toList ++ name ++ " --help' for more information.\n".toList)
  setStatus status

/-- Starts a program, or complains under the name of the tool. -/
def startOr (start : Starter) (name head : Octets) (words : List Octets) : Run Unit := do
  match ← start words with
  | .ok () => return ()
  | .error f =>
    complain name (head ++ Tools.Job.quoted (words.headD []) ++ [':', ' '] ++ f.octets)
    setStatus (faultStatus f)

/-- Does something with the options of some words, or complains. -/
def withFlags (r : Tools.FlagRules) (name : Octets) (args : List Octets) (status : Nat)
    (act : Tools.Flags → Run Unit) : Run Unit :=
  match r.read (args.length + 1) {} args with
  | .ok f => if f.has "help" || f.has "version" then setStatus 0 else act f
  | .error e => misused name status e.text

/-! ### A changed environment -/

def envRules : Tools.FlagRules where
  letters := "+C:iS:u:v0"
  names := [("ignore-environment", "i"), ("null", "0"), ("unset", "u:"), ("chdir", "C:"),
    ("debug", "v"), ("split-string", "S:")]
  operandEnds := true

/-- A text before an equals sign. -/
def assignment? (word : Octets) : Option (Octets × Octets) :=
  let name := word.takeWhile (· ≠ '=')
  if name.length < word.length then some (name, word.drop (name.length + 1)) else none

/-- Sets a variable of the environment. -/
def setEnvironment (name value : Octets) : Run Unit :=
  modifyProcess fun p =>
    { p with
      bindings := p.bindings.filter (fun b => b.name ≠ name) ++
        [{ name, value := some value, exported := true }] }

def env : Launcher := fun start name args => do
  let args := args.map fun w => if w = ['-'] then ['-', 'i'] else w
  withFlags envRules name args 125 fun f => do
    if f.has "i" then modifyProcess fun p => { p with bindings := [] }
    for unset in f.values "u" do
      modifyProcess fun p => { p with bindings := p.bindings.filter fun b => b.name ≠ unset }
    if let some d := f.value? "C" then
      let s ← get
      match s.world.files.find s.process.directory d with
      | .ok (path, i) =>
        if i.node = .directory then modifyProcess fun p =>
          { p with directory := path, reached := path.text }
        else
          complain name ("cannot change directory to ".toList ++ Tools.Job.quoted d ++
            ": Not a directory".toList)
          setStatus 125
          throw .exit
      | .error e =>
        complain name ("cannot change directory to ".toList ++ Tools.Job.quoted d ++
          [':', ' '] ++ e.octets)
        setStatus 125
        throw .exit
    let split := (f.values "S").flatMap Octets.words
    let words := split ++ f.operands
    let settings := words.takeWhile fun w => (assignment? w).isSome
    for w in settings do
      if let some (n, v) := assignment? w then setEnvironment n v
    match words.drop settings.length with
    | [] =>
      let ending := if f.has "0" then '\x00' else '\n'
      let text := (← process).environment.flatMap fun (n, v) => n ++ '=' :: v ++ [ending]
      setStatus 0
      writeOutput name [(false, text)]
    | words => startOr start name [] words

/-! ### A time limit, and others that only start -/

def timeoutRules : Tools.FlagRules where
  letters := "+k:s:v"
  names := [("kill-after", "k:"), ("signal", "s:"), ("verbose", "v"), ("foreground", "foreground"),
    ("preserve-status", "preserve-status")]
  operandEnds := true

/-- Does something that may take so many milliseconds, or any time for zero; none where it takes
longer. -/
def withDeadline {α : Type} (most : Nat) (act : Run α) : Run (Option α) := do
  if most = 0 then return some (← act)
  let before := (← get).world
  let limit := before.elapsed + most
  if before.deadline.any (· ≤ limit) then return some (← act)
  modifyWorld fun w => { w with deadline := some limit }
  let done ← boundedBy otherSteps act
  modifyWorld fun w => { w with deadline := before.deadline }
  if done.isNone || limit < (← get).world.elapsed then
    modifyWorld fun w => { w with elapsed := limit }
    return none
  return done

/-- A program that takes longer than the limit ends with a status of its own. -/
def timeout : Launcher := fun start name args =>
  withFlags timeoutRules name args 125 fun f => do
    match f.operands with
    | limit :: word :: words =>
      match Tools.Amount.milliseconds? limit with
      | none => misused name 125 ("invalid time interval ".toList ++ Tools.Job.quoted limit)
      | some most =>
        match ← withDeadline most (start (word :: words)) with
        | some (.ok ()) => return ()
        | some (.error e) =>
          complain name ("failed to run command ".toList ++ Tools.Job.quoted word ++
            [':', ' '] ++ e.octets)
          setStatus (faultStatus e)
        | none =>
          let killed := ((f.value? "s").map String.ofList).any ["KILL", "SIGKILL", "9"].contains
          if killed then die 9 else setStatus (if f.has "preserve-status" then 143 else 124)
    | _ =>
      complainPlain ("Try '".toList ++ name ++ " --help' for more information.\n".toList)
      setStatus 125

def niceRules : Tools.FlagRules where
  letters := "+n:"
  names := [("adjustment", "n:")]
  operandEnds := true

def nice : Launcher := fun start name args =>
  withFlags niceRules name args 125 fun f => do
    match f.operands with
    | [] =>
      if f.has "n" then misused name 125 "a command must be given with an adjustment".toList
      else
        setStatus 0
        writeOutput name [(false, ['0', '\n'])]
    | words =>
      match f.value? "n" with
      | some n =>
        if (Octets.int? n).isNone then
          complain name ("invalid adjustment ".toList ++ Tools.Job.quoted n)
          setStatus 125
        else startOr start name [] words
      | none => startOr start name [] words

def nohup : Launcher := fun start name args =>
  withFlags { letters := "+", operandEnds := true } name args 125 fun f => do
    match f.operands with
    | [] => misused name 125 "missing operand".toList
    | words => startOr start name "failed to run command ".toList words

/-- How a program's output is held back makes no difference here. -/
def stdbuf : Launcher := fun start name args =>
  withFlags { letters := "+i:o:e:", operandEnds := true } name args 125 fun f => do
    match f.operands with
    | [] => misused name 125 "missing operand".toList
    | words =>
      if f.given.isEmpty then misused name 125 "you must specify a buffering mode option".toList
      else startOr start name "failed to run command ".toList words

/-- Sends a signal to processes. -/
def kill : Launcher := fun _ name args => do
  let (signal, targets) := match args with
    | ['-', 's'] :: w :: more => (signal? w, more)
    | ('-' :: w) :: more => (signal? w, more)
    | more => (some 15, more)
  match signal with
  | none => misused name 1 "unknown signal".toList
  | some n =>
    setStatus 0
    for t in targets do
      match Octets.nat? t with
      | none => misused name 1 ("failed to parse argument: ".toList ++ Tools.Job.quoted t)
      | some k =>
        if !(← send n k) then
          complain name ("sending signal to ".toList ++ t ++ " failed: No such process".toList)
          setStatus 1
where
  signal? (w : Octets) : Option Nat :=
    let name := w.map Char.toUpper
    let name := if "SIG".toList.isPrefixOf name then name.drop 3 else name
    match Octets.nat? name with
    | some n => if n ≤ Signal.last then some n else none
    | none => Signal.ofName? (String.ofList name)

/-! ### Words that are read -/

/-- Words between blanks; quotes and backslashes keep characters together. -/
def quotedWords : Nat → List Octets → Option Octets → Octets → Except Octets (List Octets)
  | 0, done, _, _ => .ok done.reverse
  | _ + 1, done, word, [] =>
    .ok (match word with | some w => (w.reverse :: done).reverse | none => done.reverse)
  | fuel + 1, done, word, c :: rest =>
    let so := word.getD []
    if c = '\\' then
      match rest with
      | d :: rest => quotedWords fuel done (some (d :: so)) rest
      | [] => .ok ((so.reverse :: done).reverse)
    else if c = '\'' ∨ c = '"' then
      let inside := rest.takeWhile fun d => d ≠ c && d ≠ '\n'
      match rest.drop inside.length with
      | d :: rest =>
        if d = c then quotedWords fuel done (some (inside.reverse ++ so)) rest
          else .error (unmatched c)
      | [] => .error (unmatched c)
    else if Octets.isBlank c || c = '\n' then
      match word with
      | some w => quotedWords fuel (w.reverse :: done) none rest
      | none => quotedWords fuel done none rest
    else quotedWords fuel done (some (c :: so)) rest
where
  unmatched (c : Char) : Octets :=
    "unmatched ".toList ++ (if c = '"' then "double" else "single").toList ++
      " quote; by default quotes are special to xargs unless you use the -0 option".toList

def xargsRules : Tools.FlagRules where
  letters := "+0a:E:e::i::I:l::L:n:prs:txP:d:"
  names :=
    [("null", "0"), ("arg-file", "a:"), ("delimiter", "d:"), ("eof", "e::"), ("replace", "i::"),
    ("max-lines", "l::"), ("max-args", "n:"), ("open-tty", "o"), ("interactive", "p"),
      ("no-run-if-empty", "r"),
    ("max-chars", "s:"), ("verbose", "t"), ("show-limits", "show-limits"), ("exit", "x"),
      ("max-procs", "P:"),
    ("process-slot-var", "process-slot-var:")]
  operandEnds := true

/-- Every occurrence of one text in another, replaced. -/
def replaceAll (piece by' : Octets) : Nat → Octets → Octets
  | 0, cs => cs
  | _ + 1, [] => []
  | fuel + 1, c :: cs =>
    if piece.isEmpty then c :: cs
    else if piece.isPrefixOf (c :: cs)
      then by' ++ replaceAll piece by' fuel ((c :: cs).drop piece.length)
    else c :: replaceAll piece by' fuel cs

/-- Groups of so many. -/
def groupsOf {α : Type} (n : Nat) : Nat → List α → List (List α)
  | 0, _ => []
  | _ + 1, [] => []
  | fuel + 1, xs => xs.take n :: groupsOf n fuel (xs.drop n)

/-- The character that a delimiter means. -/
def delimiter (cs : Octets) : Char :=
  match cs with
  | '\\' :: c :: _ => (Format.escape? c).getD (if c = '0' then '\x00' else c)
  | c :: _ => c
  | [] => '\x00'

/-- Runs a program as a process of its own, of which only the status is kept. -/
def startApart (start : Starter) (words : List Octets) : Run (Option SystemFault) := fun s =>
  let keep (t : State) : State :=
    { t with process := { s.process with status := t.process.status } }
  match start words s with
  | .ok (.ok ()) t => .ok none (keep t)
  | .ok (.error f) t => .ok (some f) (keep t)
  | .error .endless t => .error .endless t
  | .error _ t => .ok none (keep t)

/-- Runs a program for each group of words; a failure shows in the status at the end. -/
def runGroups (start : Starter) (name : Octets) (trace : Bool) : List (List Octets) → Run Unit
  | [] => return ()
  | words :: more => do
    if trace then complainPlain (Octets.joinWith [' '] words ++ ['\n'])
    let before := (← process).status
    let fault ← startApart start words
    match fault with
    | some f =>
      complain name (words.headD [] ++ [':', ' '] ++ f.octets)
      setStatus (faultStatus f)
    | none =>
      let status := (← process).status
      if status = 255 then
        complain name (words.headD [] ++ ": exited with status 255; aborting".toList)
        setStatus 124
      else
        setStatus (if status = 0 then before else 123)
        runGroups start name trace more

/-- The first amount among some options that is none, as a complaint. -/
def amountFault? (f : Tools.Flags) : Option Octets :=
  ["n", "L", "s", "P"].findSome? fun key => (f.value? key).bind fun text =>
    match Octets.int? text with
    | none =>
      some ("invalid number \"".toList ++ text ++ "\" for -".toList ++ key.toList ++
        " option".toList)
    | some n =>
      let least : Int := if key = "P" then 0 else 1
      if n < least then
        some ("value ".toList ++ Octets.ofInt n ++ " for -".toList ++ key.toList ++
          " option should be >= ".toList ++ Octets.ofInt least)
      else none

def xargs : Launcher := fun start name args =>
  withFlags xargsRules name args 1 fun f => do
    if let some fault := amountFault? f then
      misused name 1 fault
      throw .exit
    let input ← match f.value? "a" with
      | some file =>
        let s ← get
        match s.world.files.read s.process.directory file Files.muchOf with
        | .ok cs => pure cs
        | .error e =>
          complain name ("Cannot open input file ".toList ++ Tools.Job.quoted file ++
            [':', ' '] ++ e.octets)
          setStatus 1
          throw .exit
      | none =>
        match ← available 0 with
        | .ok cs =>
          leave 0 cs [] false
          modifyProcess fun p => p
          pure cs
        | .error _ => pure []
    let command := if f.operands.isEmpty then ["echo".toList] else f.operands
    let place? := match f.last? ["I", "i"] with
      | some "I" => f.value? "I"
      | some _ => some (match f.value? "i" with | some (c :: cs) => c :: cs | _ => ['\x7b', '\x7d'])
      | none => none
    let pieces (c : Char) : List Octets :=
      let ps := Octets.splitAt (· = c) input
      if ps.getLast? = some [] then ps.dropLast else ps
    let delimited : Option Char := if f.has "0" then some '\x00' else (f.value? "d").map delimiter
    let words : Except Octets (List (List Octets)) :=
      match delimited, place? with
      | some c, _ => .ok ((pieces c).map ([·]))
      | none, some _ =>
        (Octets.lines input).foldr (fun l rest => do
          let more ← rest
          let l := l.dropWhile Octets.isBlank
          if l.isEmpty then return more
          let ws ← quotedWords (l.length + 1) [] none (l.flatMap fun c =>
            if Octets.isBlank c then ['\\', c] else [c])
          return [ws.flatten] :: more) (.ok [])
      | none, none =>
        if f.has "L" || f.has "l" then
          (Octets.lines input).foldr (fun l rest => do
            let more ← rest
            let ws ← quotedWords (l.length + 1) [] none l
            return if ws.isEmpty then more else ws :: more) (.ok [])
        else (quotedWords (input.length + 1) [] none input).map fun ws => ws.map ([·])
    match words with
    | .error e =>
      complain name e
      setStatus 1
    | .ok items =>
      let amount (key : String) (fallback : Nat) : Nat :=
        ((f.value? key).bind Octets.nat?).getD fallback
      let groups : List (List Octets) :=
        match place? with
        | some place => items.map fun ws =>
            let word := ws.headD []
            command.head?.toList ++ (command.drop 1).map fun w =>
              replaceAll place word (w.length + 1) w
        | none =>
          let size := match f.last? ["n", "L", "l"] with
            | some "n" => amount "n" 1
            | some "L" => amount "L" 1
            | some _ => amount "l" 1
            | none => 100000
          let gs := (groupsOf (max size 1) (items.length + 1) items).map List.flatten
          (if gs.isEmpty && !f.has "r" then [[]] else gs).map (command ++ ·)
      setStatus 0
      let streams := (← process).streams
      let null ← addOpening { channel := .device .null }
      connect 0 (some null)
      runGroups start name (f.has "t") groups
      modifyProcess fun p => { p with streams }

/-- Tools of this module by their names. -/
def plainLaunchers : List (String × Launcher) :=
  [("env", env), ("timeout", timeout), ("nice", nice), ("nohup", nohup), ("stdbuf", stdbuf),
    ("kill", kill), ("xargs", xargs)]

end KeyRelay.Shell.Launch
