import KeyRelay.Shell.Files
import KeyRelay.Shell.Source
import KeyRelay.Signal

/-!
What running a script depends on. A process has its parameters, variables and streams; what
processes share, the files, pipes and the positions in them, is the world. A stream of a process
names an opening in the world, so that processes that inherit a stream share its position.
-/

namespace KeyRelay.Shell

/-- What an opening leads to. -/
inductive Channel where
  | pipe (index : Nat)
  | file (inode : Nat)
  | device (d : Device)
  | directory
  deriving DecidableEq, Repr

/-- An opened file or an end of a pipe. -/
structure Opening where
  channel : Channel
  position : Nat := 0
  readable : Bool := true
  writable : Bool := true
  atEnd : Bool := false
  deriving Repr

instance : Inhabited Opening := ⟨⟨.device .null, 0, true, true, false⟩⟩

/-- Text on its way: what comes first, and what was written after it, newest first. -/
structure Pipe where
  front : Octets := []
  back : List Octets := []
  size : Nat := 0
  /-- Its writer was stopped before it was done. -/
  cut : Bool := false

instance : Inhabited Pipe := ⟨{}⟩

namespace Pipe

def content (p : Pipe) : Octets :=
  if p.back.isEmpty then p.front else p.front ++ p.back.reverse.flatten

def write (p : Pipe) (cs : Octets) : Pipe :=
  { p with back := cs :: p.back, size := p.size + cs.length }

end Pipe

/-- A process that runs beside the one that started it. -/
structure Companion where
  number : Nat
  status : Nat
  /-- When it ends, and whether a signal is the cause. -/
  time : Nat
  signal : Option Nat := none
  /-- The pipes that it keeps open. -/
  holds : List Nat

structure World where
  files : Files
  openings : Array Opening := #[]
  pipes : Array Pipe := #[]
  /-- Milliseconds slept. -/
  elapsed : Nat := 0
  /-- Milliseconds after which nobody waits any longer. -/
  deadline : Option Nat := none
  /-- Commands that may still be run before the script counts as endless. -/
  steps : Nat
  companions : List Companion := []
  /-- The number that the next companion gets. -/
  nextProcess : Nat := 1000
  /-- Signals on their way to processes. -/
  sent : List (Nat × Nat) := []

/-- When the last of the companions that keep a pipe open ends. -/
def World.heldUntil (w : World) (pipe : Nat) : Nat :=
  w.companions.foldl (fun t c => if c.holds.contains pipe then max t c.time else t) 0

/-- A variable: exported ones reach the tools that are started. -/
structure Binding where
  name : Octets
  value : Option Octets
  exported : Bool := false
  readonly : Bool := false

structure Process where
  /-- The name it was started under. -/
  name : Octets
  params : List Octets
  bindings : List Binding := []
  functions : List (Octets × Command) := []
  aliases : List (Octets × Octets) := []
  /-- Letters of the options that are set. -/
  options : List Char := []
  status : Nat := 0
  /-- The directory it is in, links followed, and how it was reached. -/
  directory : Path := []
  reached : Octets := ['/']
  umask : Nat := 18
  /-- Openings by the number of the stream. -/
  streams : List (Nat × Nat) := []
  traps : List (Octets × Octets) := []
  /-- The status it ends with while it does what is left to do at its end. -/
  ending : Option Nat := none
  line : Nat := 0
  /-- The line up to which the script was read. -/
  readTo : Nat := 0
  /-- Loops around the command at hand. -/
  loops : Nat := 0
  /-- Functions around the command at hand. -/
  calls : Nat := 0
  /-- Own command that is run, which complaints name. -/
  command : Option Octets := none
  /-- The status of the last command substitution. -/
  substituted : Nat := 0
  documents : Documents := []
  opened : Nat := 0
  number : Nat := 1
  /-- It is a copy that goes by the number of the process it was made of. -/
  isCopy : Bool := false
  /-- The signal that has ended it. -/
  killed : Option Nat := none
  background : Option Nat := none
  /-- Variables that a function hides, innermost function first. -/
  hidden : List (List (Octets × Option Binding)) := []
  /-- Characters taken of the argument that `getopts` looks at. -/
  letters : Nat := 0
  /-- Where tools that were started are found. -/
  known : List (Octets × Octets) := []

structure State where
  process : Process
  world : World

/-- Why a command does not go on to the next. -/
inductive Stop where
  /-- The process ends with its status. -/
  | exit
  /-- An error that ends the process, unless an ordinary command of the shell made it. -/
  | failed
  | broke (loops : Nat)
  | continued (loops : Nat)
  | returned
  /-- There are no steps left. -/
  | endless
  deriving DecidableEq, Repr

abbrev Run := EStateM Stop State

namespace Run

def process : Run Process := do
  return (← get).process

def modifyProcess (f : Process → Process) : Run Unit :=
  modify fun s => { s with process := f s.process }

def modifyWorld (f : World → World) : Run Unit :=
  modify fun s => { s with world := f s.world }

def setStatus (n : Nat) : Run Unit :=
  modifyProcess fun p => { p with status := n }

/-! ### Writing -/

/-- How much may stand in a pipe before its writer is stopped. -/
def pipeLimit : Nat := 1048576

/-- The status of a process that writes to a pipe nobody reads. -/
def brokenPipe : Nat := 141

def opening? (stream : Nat) : Run (Option (Nat × Opening)) := do
  let s ← get
  match s.process.streams.find? fun e => e.1 = stream with
  | some (_, i) => return some (i, s.world.openings[i]!)
  | none => return none

/-- What a stream leads to. -/
def streamKind (stream : Nat) : Run StreamKind := do
  match ← opening? stream with
  | none => return .closed
  | some (_, o) =>
    match o.channel with
    | .pipe _ => return .pipe
    | .file _ => return .file
    | .device _ => return .device
    | .directory => return .directory

/-- What input, output and complaints lead to. -/
def streamKinds : Run (List StreamKind) :=
  [0, 1, 2].mapM streamKind

/-- Text put into other text at a position. -/
def putAt (content : Octets) (position : Nat) (cs : Octets) : Octets :=
  if content.length ≤ position
    then content ++ List.replicate (position - content.length) '\x00' ++ cs
  else content.take position ++ cs ++ content.drop (position + cs.length)

/-- Writes to an opening; `false` where it cannot be written to. -/
def writeOpening (i : Nat) (cs : Octets) : Run Bool := do
  let w := (← get).world
  let o := w.openings[i]!
  if !o.writable then return false
  match o.channel with
  | .pipe n =>
    modifyWorld fun w => { w with pipes := w.pipes.modify n (·.write cs) }
    if pipeLimit < (w.pipes[n]!).size then
      setStatus brokenPipe
      throw .exit
    return true
  | .file n =>
    match (w.files.inodes[n]!).node with
    | .regular content =>
      let position := if o.atEnd then content.length else o.position
      modifyWorld fun w =>
        { w with
          files := w.files.update n fun node =>
            { node with node := .regular (putAt content position cs) }
          openings := w.openings.modify i fun o => { o with position := position + cs.length } }
      return true
    | _ => return true
  | .device .full => return false
  | .device _ => return true
  | .directory => return false

def write (stream : Nat) (cs : Octets) : Run Bool := do
  if cs.isEmpty then return true
  match ← opening? stream with
  | some (i, _) => writeOpening i cs
  | none => return false

/-- Writes to standard error. -/
def complainPlain (cs : Octets) : Run Unit := do
  let _ ← write 2 cs

/-- The text that a complaint of the shell starts with. -/
def complaintHead : Run Octets := do
  let p ← process
  let command := match p.command with
    | some c => c ++ [':', ' ']
    | none => []
  return p.name ++ [':', ' '] ++ Octets.ofNat p.line ++ [':', ' '] ++ command

/-- A complaint of the shell. -/
def warn (text : Octets) : Run Unit := do
  complainPlain ((← complaintHead) ++ text ++ ['\n'])

/-- A complaint that ends what is done with a status. -/
def failWith {α : Type} (status : Nat) (text : Octets) : Run α := do
  warn text
  setStatus status
  throw .failed

def fail {α : Type} (text : Octets) : Run α :=
  failWith 2 text

/-! ### Reading -/

/-- What can be read from a stream; nothing where it is not open. -/
def available (stream : Nat) : Run (Except SystemFault Octets) := do
  match ← opening? stream with
  | none => return .error .badStream
  | some (_, o) =>
    if !o.readable then return .error .badStream
    let w := (← get).world
    match o.channel with
    | .pipe n => return .ok (w.pipes[n]!).content
    | .file n =>
      match (w.files.inodes[n]!).node with
      | .regular content => return .ok (content.drop o.position)
      | _ => return .ok []
    | .device d => return .ok (Files.deviceText d Files.muchOf)
    | .directory => return .error .isADirectory

/-- Blocks in which tools read from what they cannot go back in. -/
def blockSize : Nat := 8192

/-- Takes text off a stream so that this much is left; with `byBlock`, whole blocks are taken of a
pipe. -/
def leave (stream : Nat) (all : Octets) (left : Octets) (byBlock : Bool) : Run Unit := do
  match ← opening? stream with
  | none => return ()
  | some (i, o) =>
    match o.channel with
    | .pipe n =>
      let taken := all.length - left.length
      let rounded := if byBlock then (taken + blockSize - 1) / blockSize * blockSize else taken
      let pipe := (← get).world.pipes[n]!
      modifyWorld fun w =>
        { w with
          pipes := w.pipes.modify n fun p => { p with front := all.drop rounded, back := [] } }
      if pipe.cut && left.isEmpty then throw .endless
    | .file _ =>
      modifyWorld fun w =>
        { w with
          openings := w.openings.modify i fun o =>
            { o with position := o.position + (all.length - left.length) } }
    | _ => return ()

/-! ### Openings -/

def addOpening (o : Opening) : Run Nat := do
  let n := (← get).world.openings.size
  modifyWorld fun w => { w with openings := w.openings.push o }
  return n

def addPipe : Run Nat := do
  let n := (← get).world.pipes.size
  modifyWorld fun w => { w with pipes := w.pipes.push {} }
  return n

def connect (stream : Nat) (opening : Option Nat) : Run Unit :=
  modifyProcess fun p =>
    let others := p.streams.filter fun e => e.1 ≠ stream
    { p with
      streams := match opening with
        | some i => (stream, i) :: others
        | none => others }

/-! ### Processes -/

/-- Says that a signal has ended a process, unless it is one that is passed over. -/
def tellSignal (signal : Option Nat) : Run Unit := do
  if let some n := signal then
    if n ≠ 2 && n ≠ 13 then complainPlain ((Signal.description n).toList ++ ['\n'])

/-- Runs something as a process of its own: only the world keeps what it changes. Gives its
status. -/
def apart (act : Run Unit) : Run Nat := fun s =>
  let ended (t : State) : EStateM.Result Stop State Nat :=
    match tellSignal t.process.killed { s with world := t.world } with
    | .ok _ u => .ok t.process.status u
    | .error e u => .error e u
  match act { s with process := { s.process with isCopy := true } } with
  | .ok _ t | .error .exit t | .error .failed t | .error .returned t => ended t
  | .error (.broke _) t | .error (.continued _) t => ended t
  | .error .endless t => .error .endless { s with world := t.world }

/-- Ends the process as a signal does. -/
def die (signal : Nat) : Run Unit := do
  modifyProcess fun p => { p with status := 128 + signal, killed := some signal, traps := [] }
  throw .exit

/-- Sends a signal to a process by its number; whether there is one. -/
def send (signal number : Nat) : Run Bool := do
  let w := (← get).world
  if w.companions.any fun c => c.number = number then
    let hit (c : Companion) : Companion :=
      if c.number = number && w.elapsed < c.time && Signal.effect signal = .death then
        { c with status := 128 + signal, time := w.elapsed, signal := some signal }
      else c
    modifyWorld fun w => { w with companions := w.companions.map hit }
    return true
  else if 0 < number && number ≤ (← process).number then
    if signal ≠ 0 then modifyWorld fun w => { w with sent := w.sent ++ [(number, signal)] }
    return true
  else return false

/-- Lets an ordinary command fail without ending the process. -/
def contained (act : Run Nat) : Run Nat := fun s =>
  match act s with
  | .error .failed t => .ok t.process.status t
  | r => r

/-- Does something, and afterwards something else however it ends. -/
def thenAlways {α : Type} (act : Run α) (after : Run Unit) : Run α := fun s =>
  match act s with
  | .ok a t =>
    match after t with
    | .ok _ u => .ok a u
    | .error e u => .error e u
  | .error e t =>
    match after t with
    | .ok _ u => .error e u
    | .error f u => .error f u

/-- Steps that a process may take for which nobody need wait: whose output need not all be read,
say. -/
def otherSteps : Nat := 20000

/-- Counts so many commands. -/
def countSteps (count : Nat) : Run Unit := do
  let n := (← get).world.steps
  if n < count then throw .endless
  modifyWorld fun w => { w with steps := n - count }

/-- Does something with few steps; none is given where it is endless, of which the world is kept. -/
def boundedBy (most : Nat) {α : Type} (act : Run α) : Run (Option α) := fun s =>
  let allowed := min s.world.steps most
  let back (t : State) : State :=
    { t with world := { t.world with steps := s.world.steps - (allowed - t.world.steps) } }
  match act { s with world := { s.world with steps := allowed } } with
  | .ok a t => .ok (some a) (back t)
  | .error .endless t => .ok none (back { t with process := s.process })
  | .error e t => .error e (back t)

end Run

end KeyRelay.Shell
