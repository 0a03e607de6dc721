import KeyRelay.Shell.Launch

/-!
Running commands. Each form of command is carried out by a function that is given the interpreter of
the commands inside, so that one recursion, on how deep commands are nested, ties all of it
together. Loops count their rounds by the steps that the world has left.
-/

namespace KeyRelay.Shell
open Run

namespace Execution

/-- Expands and performs what commands need: programs, and command substitutions as processes. -/
def substitution (m : Launch.Means) (c : Command) : Run Unit :=
  m.it.toEnd do
    Interpreter.dropTraps
    m.it.run false c

/-- Ends a process whose commands must not fail, where a status is not looked at. -/
def checkStatus (tested : Bool) : Run Unit := do
  let p ← process
  if p.status ≠ 0 && !tested && p.hasOption 'e' then throw .exit

/-! ### Functions and the shell's own commands -/

/-- Undoes what a function did to its own variables. -/
def restoreHidden : Run Unit :=
  modifyProcess fun p =>
    match p.hidden with
    | top :: more =>
      let p := top.foldl (fun (p : Process) (name, old) => match old with
        | some b => p.bind b
        | none => p.unbind name) p
      { p with hidden := more }
    | [] => p

/-- Calls a function. -/
def call (m : Launch.Means) (tested : Bool) (body : Command) (args : List Octets) : Run Nat := do
  let p ← process
  modifyProcess fun p =>
    { p with
      params := args, letters := 0, loops := 0, calls := p.calls + 1, hidden := [] :: p.hidden }
  let returning : Run Unit := fun s =>
    match m.it.run tested body s with
    | .error .returned t => .ok () t
    | r => r
  thenAlways returning do
    restoreHidden
    modifyProcess fun q =>
      { q with params := p.params, letters := p.letters, loops := p.loops, calls := p.calls }
  return (← process).status

/-- Runs something under the name of one of the shell's own commands, which complaints then show. -/
def under (name : Octets) (act : Run Nat) : Run Nat := do
  let before := (← process).command
  modifyProcess fun p => { p with command := some name }
  thenAlways act (modifyProcess fun p => { p with command := before })

/-- Ends loops or rounds of loops. -/
def leaveLoops (stop : Nat → Stop) (args : List Octets) : Run Nat := do
  let n ← match args with
    | w :: _ => Builtin.number w
    | [] => pure 1
  if n = 0 then Builtin.illegalNumber (args.headD [])
  let loops := (← process).loops
  setStatus 0
  if loops = 0 then return 0
  throw (stop (min n loops))

/-- Starts a program in place of the process, or only keeps redirections. -/
def replace (m : Launch.Means) (args : List Octets) : Run Nat := do
  match args with
  | [] => return 0
  | name :: _ =>
    Interpreter.dropTraps
    let line ← complaintHead
    modifyProcess fun p => { p with command := none, traps := [] }
    match ← Launch.startByName m 40 args with
    | .ok _ => throw .exit
    | .error f =>
      complainPlain (line ++ name ++ [':', ' '] ++ Lookup.faultText f ++ ['\n'])
      setStatus (Launch.faultStatus f)
      throw .exit

/-- Runs a file as part of the process. -/
def source (m : Launch.Means) (tested : Bool) (args : List Octets) : Run Nat := do
  match args with
  | [] => return 0
  | file :: _ =>
    let s ← get
    let files := s.world.files
    let p := s.process
    let path :=
      if file.contains '/' then .ok file
      else Lookup.file? files p.directory
        (Lookup.searched ((p.valueOf? "PATH".toList).getD [])) file
    match path with
    | .error _ => fail (file ++ ": not found".toList)
    | .ok path =>
      match files.read p.directory path Files.muchOf with
      | .error .isADirectory => return 0
      | .error f =>
        fail ("cannot open ".toList ++ path ++ [':', ' '] ++ Redirection.faultText false f)
      | .ok text =>
        let returning : Run Bool := fun s =>
          match m.it.runText tested text s with
          | .error .returned t => .ok true t
          | r => r
        let before := p.command
        modifyProcess fun p => { p with command := some path }
        let ran ← thenAlways returning (modifyProcess fun p => { p with command := before })
        if ran then return (← process).status else return 0

/-- Text of arguments as a script. -/
def evaluate (m : Launch.Means) (tested : Bool) (args : List Octets) : Run Nat := do
  let ran ← m.it.runText tested (Octets.joinWith [' '] args)
  if ran then return (← process).status else return 0

/-- Names of all signals. -/
def signalNames : Octets :=
  (List.range Signal.last).flatMap fun i =>
    let n := i + 1
    let name := if n = 32 || n = 33 then Octets.ofNat n
      else if n = 34 then "RTMIN".toList
      else if n = 64 then "RTMAX".toList
      else if 34 < n && n < 50 then "RTMIN+".toList ++ Octets.ofNat (n - 34)
      else if 50 ≤ n then "RTMAX-".toList ++ Octets.ofNat (64 - n)
      else (Signal.label n).toList
    name ++ ['\n']

/-- Sends a signal to processes. -/
def deliver (m : Launch.Means) (signal : Nat) (targets : List Octets) : Run Nat := do
  let mut status := 0
  for t in targets do
    let isGroup := t.head? = some '-'
    let n ← Builtin.number (if isGroup then t.drop 1 else t)
    if isGroup || !(← send signal n) then
      warn "No such process\n".toList
      status := 1
    else m.it.receive
  return status

def sendSignal (m : Launch.Means) (args : List Octets) : Run Nat := do
  let usage {α : Type} : Run α :=
    fail
      "Usage: kill [-s sigspec | -signum | -sigspec] [pid | job]... or\nkill -l [exitstatus]".toList
  let withTargets (signal : Nat) (targets : List Octets) : Run Nat :=
    if targets.isEmpty then usage else deliver m signal targets
  let namedOr (name : Octets) (orElse : Run Nat) (act : Nat → Run Nat) : Run Nat :=
    match Builtin.signal? name with
    | some n => if n = 0 && !name.all Char.isDigit then orElse else act n
    | none => orElse
  let list (targets : List Octets) : Run Nat := do
    match targets with
    | [] => Builtin.print "kill" ("0\n".toList ++ signalNames)
    | w :: _ =>
      let n ← Builtin.number w
      let n := if 128 < n then n - 128 else n
      if 0 < n && n ≤ Signal.last then Builtin.print "kill" ((Signal.label n).toList ++ ['\n'])
      else fail ("invalid signal number or exit status: ".toList ++ w)
  match args with
  | [] => usage
  | ['-', '-'] :: targets => withTargets 15 targets
  | ('-' :: c :: cs) :: more =>
    namedOr (c :: cs)
      (match c, cs, more with
        | 'l', [], more => list more
        | 's', [], name :: more =>
          namedOr name (fail ("invalid signal number or name: ".toList ++ name))
            (withTargets · more)
        | 's', [], [] => fail "No arg for -s option".toList
        | 's', name, more =>
          namedOr name (fail ("invalid signal number or name: ".toList ++ name))
            (withTargets · more)
        | c, _, _ => fail ("Illegal option -".toList ++ [c]))
      (withTargets · more)
  | targets => withTargets 15 targets

/-- The shell's own commands, by name. -/
def ownCommand (m : Launch.Means) (tested : Bool) (name : String) (args : List Octets) : Run Nat :=
  match name with
  | ":" | "true" => return 0
  | "false" => return 1
  | "echo" => Builtin.echo args
  | "printf" => Builtin.printf args
  | "test" => Builtin.test false args
  | "[" => Builtin.test true args
  | "exit" => do
    let p ← process
    let n ← match args with
      | w :: _ => Builtin.number w
      | [] => pure (p.ending.getD p.status)
    setStatus (n % 256)
    throw .exit
  | "return" => do
    let n ← match args with
      | w :: _ => Builtin.number w
      | [] => do pure (← process).status
    setStatus (n % 256)
    throw .returned
  | "break" => leaveLoops .broke args
  | "continue" => leaveLoops .continued args
  | "shift" => Builtin.shift args
  | "set" => Builtin.set args
  | "unset" => Builtin.unset args
  | "export" => Builtin.exportNames args
  | "readonly" => Builtin.fixNames args
  | "local" => Builtin.localNames args
  | "read" => Builtin.read args
  | "eval" => evaluate m tested args
  | "." => source m tested args
  | "exec" => replace m args
  | "trap" => Builtin.trap args
  | "wait" => Builtin.wait args
  | "kill" => sendSignal m args
  | "cd" | "chdir" => Builtin.cd args
  | "pwd" => Builtin.pwd args
  | "umask" => Builtin.umask args
  | "getopts" => Builtin.getopts args
  | "alias" => Builtin.aliases args
  | "unalias" => Builtin.unalias args
  | "type" => Builtin.type args
  | "hash" => Builtin.hash args
  | "times" => Builtin.print "times" "0m0.000000s 0m0.000000s\n0m0.000000s 0m0.000000s\n".toList
  | "ulimit" => Builtin.print "ulimit" "unlimited\n".toList
  | "fg" => fail "No current job".toList
  | "bg" => fail "No current job".toList
  | _ => return 0

/-! ### Simple commands -/

/-- Commands whose arguments may be assignments. -/
def isDeclaring (name : Octets) : Bool :=
  ["export", "readonly", "local", "alias"].contains (String.ofList name)

/-- The fields of words; assignments after a declaring command are not split. -/
def expandWords (exec : Command → Run Unit) : List Octets → List Word → Run (List Octets)
  | read, [] => return read
  | read, w :: more => do
    let declaring := match read with
      | first :: next :: _ => isDeclaring first || (first = "command".toList && isDeclaring next)
      | [first] => isDeclaring first
      | [] => false
    match if declaring then Readers.assignment? w else none with
    | some (name, value) =>
      let text ← Expansion.text exec { tildes := true } value
      expandWords exec (read ++ [name ++ ['='] ++ text]) more
    | none =>
      let fields ← Expansion.fields exec w
      expandWords exec (read ++ fields) more

/-- Expands values and gives them to variables one after another; the texts of the assignments. -/
def assignAll (exec : Command → Run Unit) (exported : Bool) :
    List (Octets × Word) → Run (List Octets)
  | [] => return []
  | (name, w) :: more => do
    let value ← Expansion.text exec { tildes := true } w
    assign name value
    if exported then mark name fun b => { b with exported := true }
    return (name ++ ['='] ++ value) :: (← assignAll exec exported more)

/-- Prints a command before it is run, where that is asked for. -/
def trace (exec : Command → Run Unit) (opening : Option Nat) (words : List Octets) : Run Unit := do
  let p ← process
  if p.hasOption 'x' then
    let front ← match p.valueOf? "PS4".toList with
      | some text =>
        match (wordParts (return .nothing) (2 * text.length + 2) { style := .document } {}).run
            { rest := text } with
        | .ok (b, _) => Expansion.text exec { tilde := false } b.word
        | .error _ => pure text
      | none => pure []
    let line := front ++ Octets.joinWith [' '] words ++ ['\n']
    match opening with
    | some i => let _ ← writeOpening i line
    | none => return ()

/-- A command without its own name in front, and how that changes what it stands for. -/
structure Resolved where
  found : Found
  words : List Octets
  /-- Its errors end the script. -/
  fatal : Bool := false

/-- Takes `command` off the front, and finds what the rest stands for. -/
def resolve : Nat → Bool → List Octets → Run Resolved
  | 0, _, words => return { found := .nothing .missing, words }
  | fuel + 1, direct, words => do
    let s ← get
    let path := (s.process.valueOf? "PATH".toList).getD []
    let found := Lookup.find s.process s.world.files direct path (words.headD [])
    match found with
    | .ordinary "command" =>
      let rest := words.drop 1
      let rest := if rest.head? = some ['-', 'p'] then rest.drop 1 else rest
      match rest with
      | [] => return { found, words }
      | ['-', '-'] :: more =>
        if more.isEmpty then return { found, words } else resolve fuel false more
      | ('-' :: _) :: _ => return { found, words }
      | rest => resolve fuel false rest
    | .special _ => return { found, words, fatal := direct }
    | found => return { found, words }

/-- The rest of `command`: what a name stands for. -/
def commandQuestion (args : List Octets) : Run Nat := do
  let (given, names) ← Builtin.optionsOf "pvV" args
  match given.getLast?, names with
  | some ('v', _), name :: _ => Builtin.describe false name
  | some ('V', _), name :: _ => Builtin.describe true name
  | _, _ => return 0

/-- Does something with variables that have other values meanwhile. -/
def withAssigned (exec : Command → Run Unit) (assigned : List (Octets × Word))
    (act : List Octets → Run Nat) :
    Run Nat := do
  if assigned.isEmpty then act []
  else
    let before := assigned.map fun (name, _) => name
    let old := before.map fun name => do return (name, (← process).binding? name)
    let old ← old.mapM id
    let undo : Run Unit :=
      modifyProcess fun p => old.foldl (fun (p : Process) (name, b) => match b with
        | some b => p.bind b
        | none => p.unbind name) p
    thenAlways (do act (← assignAll exec true assigned)) undo

/-- Starts a program as a process of its own. -/
def external (m : Launch.Means) (path : Octets) (words : List Octets) : Run Nat := do
  let name := words.headD []
  if !name.contains '/' then
    modifyProcess fun p =>
      if p.known.any (·.1 = name) then p else { p with known := p.known ++ [(name, path)] }
  apart do
    let head ← complaintHead
    let streams := (← process).streams
    match ← Launch.start m 40 path name (words.drop 1) with
    | .ok _ => return ()
    | .error f =>
      modifyProcess fun p => { p with streams }
      complainPlain (head ++ name ++ [':', ' '] ++ Lookup.faultText f ++ ['\n'])
      setStatus (Launch.faultStatus f)

/-- Runs a command whose words are expanded. -/
def invoke (m : Launch.Means) (tested : Bool) (r : Resolved) : Run Nat := do
  let name := r.words.headD []
  let args := r.words.drop 1
  match r.found with
  | .special s =>
    let act := under name (ownCommand m tested s args)
    if r.fatal then act else contained act
  | .ordinary "command" => contained (under name (commandQuestion args))
  | .ordinary s => contained (under name (ownCommand m tested s args))
  | .function body => call m tested body args
  | .file path => external m path r.words
  | .nothing f =>
    warn (name ++ [':', ' '] ++ Lookup.faultText f)
    return 127

def simple (m : Launch.Means) (tested : Bool) (line : Nat) (assigned : List (Octets × Word))
    (words : List Word) (redirects : List Redirect) : Run Unit := do
  countSteps 1
  modifyProcess fun p => { p with line, substituted := 0 }
  let exec := substitution m
  let fields ← expandWords exec [] words
  let tracing := ((← opening? 2).map (·.1))
  if fields.isEmpty then
    let ready ← redirects.mapM (Redirection.prepare exec)
    let status ← Redirection.within ready
      (do
        let texts ← assignAll exec false assigned
        trace exec tracing texts
        return (← process).substituted)
      (return 2)
    setStatus status
  else
    let r ← resolve 10 true fields
    let ready ← redirects.mapM (Redirection.prepare exec)
    let special := match r.found with | .special _ => true | _ => false
    let failed : Run Nat := if r.fatal then do setStatus 2; throw .failed else return 2
    let act (texts : List Octets) : Run Nat := do
      trace exec tracing (texts ++ fields)
      invoke m tested r
    let whole : Run Nat :=
      if special then
        do act (← assignAll exec (fields.length ≠ 1 && fields.head? = some "exec".toList) assigned)
      else withAssigned exec assigned act
    let status ←
      match r.found with
      | .special "exec" => if ← Redirection.performAll ready then whole else failed
      | _ => Redirection.within ready whole failed
    setStatus status
  checkStatus tested

/-! ### Compound commands -/

/-- Runs a round of a loop: whether the loop goes on. -/
def round (act : Run Unit) : Run Bool := fun s =>
  match act s with
  | .ok _ t => .ok true t
  | .error (.broke n) t => if n ≤ 1 then .ok false t else .error (.broke (n - 1)) t
  | .error (.continued n) t => if n ≤ 1 then .ok true t else .error (.continued (n - 1)) t
  | .error e t => .error e t

/-- Repeats rounds until one says that the loop ends. -/
def rounds (act : Run Bool) : Nat → Run Unit
  | 0 => throw .endless
  | fuel + 1 => do
    if ← act then rounds act fuel else return ()

/-- Something that is done inside one loop more. -/
def inLoop (act : Run Unit) : Run Unit := do
  let loops := (← process).loops
  modifyProcess fun p => { p with loops := loops + 1 }
  thenAlways act (modifyProcess fun p => { p with loops })

def repeatWhile (m : Launch.Means) (tested wanted : Bool) (condition body : Command) :
    Run Unit := do
  let status ← inLoop' fun last => do
    let going ← round' do
      m.it.run true condition
    match going with
    | none => return (false, last)
    | some false => return (true, last)
    | some true =>
      if ((← process).status = 0) = wanted then
        let more ← round (m.it.run tested body)
        return (more, (← process).status)
      else return (false, last)
  setStatus status
where
  /-- Runs a condition: none where the loop ends, `false` where the next round starts. -/
  round' (act : Run Unit) : Run (Option Bool) := fun s =>
    match act s with
    | .ok _ t => .ok (some true) t
    | .error (.broke n) t => if n ≤ 1 then .ok none t else .error (.broke (n - 1)) t
    | .error (.continued n) t => if n ≤ 1 then .ok (some false) t else .error (.continued (n - 1)) t
    | .error e t => .error e t
  /-- Repeats rounds that pass on a status. -/
  inLoop' (act : Nat → Run (Bool × Nat)) : Run Nat := do
    let loops := (← process).loops
    modifyProcess fun p => { p with loops := loops + 1 }
    thenAlways (go act (4 * (← get).world.steps + 4) 0) (modifyProcess fun p => { p with loops })
  go (act : Nat → Run (Bool × Nat)) : Nat → Nat → Run Nat
    | 0, _ => throw .endless
    | fuel + 1, status => do
      let (more, status) ← act status
      if more then go act fuel status else return status

/-- One round for each value. -/
def forEach (m : Launch.Means) (tested : Bool) (line : Nat) (name : Octets) (words : List Word)
    (body : Command) :
    Run Unit := do
  modifyProcess fun p => { p with line }
  let fields ← expandWords (substitution m) [] words
  setStatus 0
  inLoop (go fields)
where
  go : List Octets → Run Unit
    | [] => return ()
    | v :: more => do
      assign name v
      if ← round (m.it.run tested body) then go more else return ()

/-- The first arm one of whose patterns matches. -/
def select (m : Launch.Means) (tested : Bool) (line : Nat) (word : Word)
    (arms : List (List Word × Command)) :
    Run Unit := do
  modifyProcess fun p => { p with line }
  let exec := substitution m
  let value ← Expansion.text exec {} word
  let rec matching : List Word → Run Bool
    | [] => return false
    | w :: more => do
      if Glob.matchesAll (← Expansion.pattern exec w) value then return true else matching more
  let rec try' : List (List Word × Command) → Run Unit
    | [] => setStatus 0
    | (ps, body) :: more => do
      if ← matching ps then
        match body with
        | .nothing => setStatus 0
        | body => m.it.run tested body
      else try' more
  try' arms

/-- Runs the writer of a pipe; it is stopped where it takes too many steps. -/
def asWriter (pipe : Nat) (act : Run Nat) : Run Unit := do
  if (← boundedBy otherSteps act).isNone then
    modifyWorld fun w => { w with pipes := w.pipes.modify pipe fun p => { p with cut := true } }

/-- The commands of a pipeline in order; each but the last writes to a pipe that the next one
reads. -/
def pipeline (m : Launch.Means) (tested : Bool) (input : Option Nat) (start latest : Nat) :
    List Command → Run Unit
  | [] => return ()
  | [c] => do
    modifyWorld fun w => { w with elapsed := start }
    let status ← m.it.inCopy do
      if input.isSome then connect 0 input
      m.it.run tested c
    modifyWorld fun w => { w with elapsed := max w.elapsed latest }
    setStatus status
  | c :: more => do
    modifyWorld fun w => { w with elapsed := start }
    let n ← addPipe
    let writing ← addOpening { channel := .pipe n, readable := false }
    let reading ← addOpening { channel := .pipe n, writable := false }
    asWriter n (m.it.inCopy do
      if input.isSome then connect 0 input
      connect 1 (some writing)
      m.it.run tested c)
    let elapsed := (← get).world.elapsed
    pipeline m tested (some reading) start (max latest elapsed) more

/-- Milliseconds that are longer than anyone waits. -/
def foreverTime : Nat := 1000000000000

/-- The pipes that a command keeps open while it runs: its redirections are tried out, and nothing
else stays of the trial. -/
def heldPipes (m : Launch.Means) (c : Command) : Run (List Nat) := fun s =>
  let trial : Run Unit := match c with
    | .simple _ _ _ redirects | .subshell _ _ redirects | .redirected _ _ redirects => do
      discard <| Redirection.performAll (← redirects.mapM (Redirection.prepare (substitution m)))
    | _ => pure ()
  let t := match trial s with
    | .ok _ t | .error _ t => t
  let held := t.process.streams.filterMap fun e =>
    match (t.world.openings[e.2]!).channel with
    | .pipe k => some k
    | _ => none
  .ok held s

/-- Runs a command as a process beside this one, which is carried out at once. -/
def background (m : Launch.Means) (c : Command) : Run Unit := do
  let before := (← get).world
  let holds ← heldPipes m c
  modifyWorld fun w => { w with deadline := none }
  let status? ← boundedBy otherSteps (m.it.inCopy do
    connect 0 (some (← addOpening { channel := .device .null }))
    m.it.run false c)
  let w := (← get).world
  let n := w.nextProcess
  let time := if status?.isSome then w.elapsed else w.elapsed + foreverTime
  let companion : Companion := { number := n, status := status?.getD 0, time, holds }
  modifyWorld fun w =>
    { w with
      elapsed := before.elapsed, deadline := before.deadline, nextProcess := n + 1
      companions := companion :: w.companions }
  modifyProcess fun p => { p with status := 0, background := some n }

/-- Runs a command, given how those inside it are run. -/
def step (m : Launch.Means) (tested : Bool) (c : Command) : Run Unit := do
  if (← process).hasOption 'n' then return ()
  let run := m.it.run
  let succeeded : Run Bool := return (← process).status = 0
  m.it.receive
  match c with
  | .nothing => return ()
  | .simple line assigned words redirects => simple m tested line assigned words redirects
  | .sequence cs => cs.forM (run tested)
  | .both a b =>
    run true a
    if ← succeeded then run tested b
  | .either a b =>
    run true a
    if !(← succeeded) then run tested b
  | .negate a =>
    run true a
    setStatus (if ← succeeded then 1 else 0)
  | .choose condition yes no =>
    run true condition
    if ← succeeded then run tested yes
    else
      match no with
      | .nothing => setStatus 0
      | no => run tested no
  | .repeatWhile wanted condition body => repeatWhile m tested wanted condition body
  | .forEach line name words body => forEach m tested line name words body
  | .select line word arms => select m tested line word arms
  | .define name body =>
    modifyProcess fun p =>
      { p with functions := (name, body) :: p.functions.filter (·.1 ≠ name), status := 0 }
  | .background a => background m a
  | .pipeline cs =>
    pipeline m tested none (← get).world.elapsed 0 cs
    checkStatus tested
  | .subshell line a redirects =>
    modifyProcess fun p => { p with line }
    let ready ← redirects.mapM (Redirection.prepare (substitution m))
    let status ← m.it.inCopy do
      if ← Redirection.performAll ready then run tested a else setStatus 2
    setStatus status
    checkStatus tested
  | .redirected line a redirects =>
    modifyProcess fun p => { p with line }
    let ready ← redirects.mapM (Redirection.prepare (substitution m))
    let status ← Redirection.within ready (do run tested a; return (← process).status) (return 2)
    setStatus status

/-- How deep commands may be nested while they run, calls of functions included. -/
def deepest : Nat := 1000

/-- The interpreter for commands nested up to a depth. -/
def interpreter (toolbox : Toolbox)
    (launchers : String → Option ((List Octets → Run (Except SystemFault Unit)) → Octets →
      List Octets → Run Unit)) :
    Nat → Interpreter
  | 0 => ⟨fun _ _ => throw .endless⟩
  | depth + 1 => ⟨fun tested c =>
      step ⟨toolbox, interpreter toolbox launchers depth, launchers⟩ tested c⟩

end Execution

end KeyRelay.Shell
