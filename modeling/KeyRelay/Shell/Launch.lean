import KeyRelay.Shell.Script
import KeyRelay.Tools.Job

/-!
Starting programs: tools of the library, scripts, the shell itself, and tools that start others. A
program is carried out in the process at hand, which is a copy of the one that starts it.
-/

namespace KeyRelay.Shell
open Run

/-- A tool, by its name. -/
abbrev Toolbox := String → Option (Tools.Job Unit)

namespace Launch

/-- Output and complaints of a tool, joined where they go to the same stream. -/
def joinOutput : List (Bool × Octets) → List (Bool × Octets) → List (Bool × Octets)
  | done, [] => done.reverse
  | (b, cs) :: done, (c, ds) :: more =>
    if b = c && cs.length < 65536 then joinOutput ((b, cs ++ ds) :: done) more
    else joinOutput ((c, ds) :: (b, cs) :: done) more
  | [], x :: more => joinOutput [x] more

/-- Writes what a tool printed. -/
def writeOutput (name : Octets) : List (Bool × Octets) → Run Unit
  | [] => return ()
  | (isError, cs) :: more => do
    if isError then
      complainPlain cs
      writeOutput name more
    else if ← write 1 cs then writeOutput name more
    else
      let why := if (← opening? 1).isSome then SystemFault.noSpace else SystemFault.badStream
      complainPlain (name ++ ": write error: ".toList ++ why.octets ++ ['\n'])
      setStatus 1

/-- How a command ends that a tool has the shell run, from what it was given as input; only files
are kept of what it changes. -/
def commandEnd (shell : Octets → Run Unit) (s : State) (files : Files) (input command : Octets) :
    Tools.CommandEnd :=
  let w := s.world
  let n := w.pipes.size
  let k := w.openings.size
  let world : World :=
    { w with
      files
      pipes := w.pipes ++ #[{ front := input }, {}, {}]
      openings := w.openings ++
        #[{ channel := .pipe n, writable := false },
          { channel := .pipe (n + 1), readable := false },
          { channel := .pipe (n + 2), readable := false }] }
  let others := s.process.streams.filter fun e => 2 < e.1
  let process := { s.process with streams := (0, k) :: (1, k + 1) :: (2, k + 2) :: others }
  let (status, world) := match apart (shell command) ⟨process, world⟩ with
    | .ok status t => (status, t.world)
    | .error _ t => (t.process.status, t.world)
  ⟨status, [(true, (world.pipes[n + 2]!).content), (false, (world.pipes[n + 1]!).content)],
    world.files⟩

/-- Runs a tool of the library; the shell runs commands for it. -/
def runJob (shell : Octets → Run Unit) (job : Tools.Job Unit) (name : Octets) (args : List Octets) :
    Run Unit := do
  countSteps 5
  let s ← get
  let input ← available 0
  let p := s.process
  let call : Tools.Call :=
    { name, args, environment := p.environment, input, streams := ← streamKinds
      files := s.world.files, directory := p.directory, umask := p.umask
      shell := commandEnd shell s }
  let e := Tools.perform job call
  modifyWorld fun w => { w with files := e.files, elapsed := w.elapsed + e.slept }
  let mut endless := e.endless
  if let .ok text := input then
    if e.left.length ≠ text.length then
      if text.length = Files.muchOf && e.left.isEmpty && (← streamKind 0) = .device then endless :=
        true
      leave 0 text e.left (!e.exact)
  setStatus e.status
  writeOutput name (joinOutput [] e.printed)
  let w := (← get).world
  if endless || 0 < e.slept && w.deadline.any (· < w.elapsed) then throw .endless

/-! ### The shell as a program -/

/-- The status that a fault of starting a program gives. -/
def faultStatus (f : SystemFault) : Nat :=
  match f with
  | .missing | .notADirectory | .nameTooLong | .tooManyLinks => 127
  | _ => 126

/-- How the shell is started: options, a script that is an argument, and whether it is read from the
input. -/
structure ShellCall where
  options : List Char := []
  inline : Bool := false
  fromInput : Bool := false
  rest : List Octets := []

/-- Letters of options. -/
def shellLetters (on : Bool) (c : ShellCall) : Octets → Except Char ShellCall
  | [] => .ok c
  | x :: xs =>
    if x = 'c' then shellLetters on { c with inline := true } xs
    else if x = 's' then shellLetters on { c with fromInput := true } xs
    else if x = 'l' then shellLetters on c xs
    else if Builtin.optionNames.any fun e => e.2 = x && !x.isDigit then
      let others := c.options.filter (· ≠ x)
      shellLetters on { c with options := if on then x :: others else others } xs
    else .error x

/-- Options in front of other arguments. -/
def shellArguments : Nat → ShellCall → List Octets → Except Char ShellCall
  | 0, c, args => .ok { c with rest := args }
  | fuel + 1, c, args =>
    match args with
    | ['-', '-'] :: more | ['-'] :: more => .ok { c with rest := more }
    | ['-', 'o'] :: name :: more =>
      match Builtin.optionNames.find? fun e => e.1.toList = name with
      | some (_, x) => shellArguments fuel { c with options := x :: c.options } more
      | none => .error 'o'
    | ('-' :: x :: xs) :: more =>
      match shellLetters true c (x :: xs) with
      | .ok c => shellArguments fuel c more
      | .error e => .error e
    | ('+' :: x :: xs) :: more =>
      match shellLetters false c (x :: xs) with
      | .ok c => shellArguments fuel c more
      | .error e => .error e
    | args => .ok { c with rest := args }

/-- Complains as a shell does before it runs anything. -/
def shellFault (name : Octets) (status : Nat) (text : Octets) : Run Unit := do
  complainPlain (name ++ ": 0: ".toList ++ text ++ ['\n'])
  setStatus status

/-- Runs the shell as one of its programs, which differ in what they say of a script that cannot be
read. -/
def runShell (it : Interpreter) (dialect : String) (name : Octets) (args : List Octets) :
    Run Unit := do
  match shellArguments (args.length + 1) {} args with
  | .error c => shellFault name 2 ("Illegal option -".toList ++ [c])
  | .ok call =>
    if call.inline then
      match call.rest with
      | [] => shellFault name 2 "-c requires an argument".toList
      | text :: more => it.runScript (more.headD name) (more.drop 1) call.options text
    else
      match if call.fromInput then [] else call.rest with
      | [] =>
        match ← available 0 with
        | .ok text =>
          leave 0 text [] false
          it.runScript name call.rest ('s' :: call.options) text
        | .error _ => return ()
      | file :: more =>
        let s ← get
        match s.world.files.read s.process.directory file Files.muchOf with
        | .ok text => it.runScript file more call.options text
        | .error f =>
          if dialect = "bash" || dialect = "rbash" then
            let head := if f = .isADirectory then file else name
            complainPlain (head ++ [':', ' '] ++ file ++ [':', ' '] ++ f.octets ++ ['\n'])
            setStatus (faultStatus f)
          else if f = .isADirectory then setStatus 0
          else shellFault name 2 ("cannot open ".toList ++ file ++ [':', ' '] ++
            Redirection.faultText false f)

/-! ### Programs -/

/-- What can be executed at a path. -/
def executable (files : Files) (current : Path) (path : Octets) : Except SystemFault Node := do
  let (_, i) ← files.find current path
  let allowed := i.mode % 2 = 1 || i.mode / 8 % 2 = 1 || i.mode / 64 % 2 = 1
  match i.node with
  | .regular _ | .tool _ => if allowed then return i.node else throw .denied
  | _ => throw .denied

/-- The program that the first line of a script names, and its argument. -/
def interpreterOf? (text : Octets) : Option (Octets × List Octets) :=
  match text with
  | '#' :: '!' :: rest =>
    let line :=
      Octets.dropEndWhile Octets.isSpace ((rest.takeWhile (· ≠ '\n')).dropWhile Octets.isSpace)
    let program := line.takeWhile (!Octets.isBlank ·)
    let argument := (line.drop program.length).dropWhile Octets.isBlank
    if program.isEmpty then none else some (program, if argument.isEmpty then [] else [argument])
  | _ => none

/-- What programs need: the tools, and the interpreter of scripts. -/
structure Means where
  toolbox : Toolbox
  it : Interpreter
  /-- Tools that start other programs, given how a program is started by its words. -/
  launchers : String → Option ((List Octets → Run (Except SystemFault Unit)) → Octets →
    List Octets → Run Unit)

mutual

/-- Starts the program at a path, or says why that fails. -/
def start (m : Means) : Nat → Octets → Octets → List Octets → Run (Except SystemFault Unit)
  | 0, _, _, _ => return .error .tooManyLinks
  | fuel + 1, path, name, args => do
    let s ← get
    match executable s.world.files s.process.directory path with
    | .error f => return .error f
    | .ok (.tool t) =>
      if ["sh", "dash", "bash", "rbash"].contains t then runShell m.it t name args
      else
        match m.launchers t with
        | some launch => launch (startByName m fuel) name args
        | none =>
          match m.toolbox t with
          | some job => runJob (shellCommand m fuel) job name args
          | none => setStatus 0
      return .ok ()
    | .ok (.regular text) =>
      match interpreterOf? text with
      | some (program, argument) => start m fuel program program (argument ++ path :: args)
      | none =>
        m.it.runScript path args [] text
        return .ok ()
    | .ok _ => return .error .denied

/-- Has the shell run a command. -/
def shellCommand (m : Means) : Nat → Octets → Run Unit
  | 0, _ => return ()
  | fuel + 1, command => do
    let _ ← startByName m fuel ["sh".toList, "-c".toList, command]

/-- Starts a program by its words, as tools do that start others. -/
def startByName (m : Means) : Nat → List Octets → Run (Except SystemFault Unit)
  | 0, _ => return .error .tooManyLinks
  | _ + 1, [] => return .ok ()
  | fuel + 1, name :: args => do
    let s ← get
    let searched := (s.process.valueOf? "PATH".toList).getD "/bin:/usr/bin".toList
    let path := if name.contains '/' then .ok name
      else Lookup.file? s.world.files s.process.directory (Lookup.searched searched) name
    match path with
    | .ok path => start m fuel path name args
    | .error f => return .error f

end

end Launch

end KeyRelay.Shell
