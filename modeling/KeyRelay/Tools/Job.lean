import KeyRelay.Shell.Files

/-!
Tools that scripts start. A tool is given its arguments, its environment and what its input holds;
it prints, complains, changes files and ends with a status. What it prints stays in order, also
where complaints are mixed with output.
-/

namespace KeyRelay.Tools
open Shell

/-- How a command ended that a tool had the shell run. -/
structure CommandEnd where
  status : Nat
  /-- What was printed, in order; complaints are marked. -/
  printed : List (Bool × Octets)
  files : Files

/-- How a tool is started. -/
structure Call where
  /-- The name it was started under. -/
  name : Octets
  args : List Octets := []
  environment : List (Octets × Octets) := []
  /-- What can be read from its input, or why nothing can. -/
  input : Except SystemFault Octets := .ok []
  /-- What its input, output and complaints lead to. -/
  streams : List StreamKind := []
  /-- Its output is closed. -/
  mute : Bool := false
  files : Files
  directory : Path := []
  umask : Nat := 18
  /-- Has the shell run a command with some input. -/
  shell : Files → (input command : Octets) → CommandEnd := fun files _ _ => ⟨127, [], files⟩

/-- A tool at work. -/
structure Work where
  call : Call
  /-- What is left of the input. -/
  left : Octets
  files : Files
  /-- What was printed, newest first; complaints are marked. -/
  printed : List (Bool × Octets) := []
  status : Nat := 0
  /-- Milliseconds slept. -/
  slept : Nat := 0
  /-- Input is taken exactly, not in blocks. -/
  exact : Bool := false
  /-- The work has no end. -/
  endless : Bool := false

/-- The work of a tool, which may end early. -/
abbrev Job := EStateM Unit Work

namespace Job

def call : Job Call := do
  return (← get).call

/-- Prints text. -/
def out (cs : Octets) : Job Unit :=
  if cs.isEmpty then return () else modify fun w => { w with printed := (false, cs) :: w.printed }

def line (cs : Octets) : Job Unit :=
  out (cs ++ ['\n'])

def errorText (cs : Octets) : Job Unit :=
  modify fun w => { w with printed := (true, cs) :: w.printed }

/-- Remembers the worst status. -/
def setStatus (n : Nat) : Job Unit :=
  modify fun w => { w with status := max w.status n }

/-- Complains under the name of the tool. -/
def warn (text : Octets) : Job Unit := do
  errorText ((← call).name ++ [':', ' '] ++ text ++ ['\n'])

/-- Complains, and goes on to end with a status. -/
def complain (status : Nat) (text : Octets) : Job Unit := do
  warn text
  setStatus status

/-- Ends the work with a status. -/
def exit {α : Type} (status : Nat) : Job α := do
  modify fun w => { w with status }
  throw ()

/-- Complains and ends. -/
def fail {α : Type} (status : Nat) (text : Octets) : Job α := do
  warn text
  exit status

/-- Tells where help is found, and ends. -/
def tryHelp {α : Type} (status : Nat) : Job α := do
  errorText ("Try '".toList ++ (← call).name ++ " --help' for more information.\n".toList)
  exit status

/-- Complains of how the tool is used, and ends. -/
def usage {α : Type} (status : Nat) (text : Octets) : Job α := do
  warn text
  tryHelp status

/-- A text as complaints quote it. -/
def quoted (cs : Octets) : Octets :=
  '\'' :: cs ++ ['\'']

/-! ### Input -/

/-- All that is left of the input. -/
def takeInput : Job Octets := do
  let w ← get
  set { w with left := [] }
  return w.left

/-- The content of a named file, of an endless one so much; who would read all of that never
ends. -/
def readFile (name : Octets) (size : Nat) : Job (Except SystemFault Octets) := do
  if name = "/dev/stdin".toList then
    match (← call).input with
    | .ok _ => return .ok (← takeInput)
    | .error f => return .error f
  let w ← get
  if size = Files.muchOf && w.files.isEndless w.call.directory name
    then set { w with endless := true }
  return w.files.read w.call.directory name size

/-- The content of an operand: a file, of an endless one so much, or the input for a hyphen. -/
def openOperand (name : Octets) (size : Nat) : Job (Except SystemFault Octets) := do
  if name = ['-'] then
    match (← call).input with
    | .ok _ => return .ok (← takeInput)
    | .error f => return .error f
  readFile name size

/-- The content of an operand; complains where there is none. -/
def operand? (name : Octets) (status : Nat) : Job (Option Octets) := do
  match ← openOperand name Files.muchOf with
  | .ok cs => return some cs
  | .error f =>
    complain status (name ++ [':', ' '] ++ f.octets)
    return none

/-- The content of all operands that can be read, or the input where there are none. -/
def contents (names : List Octets) (status : Nat) : Job Octets := do
  let names := if names.isEmpty then [['-']] else names
  let parts ← names.mapM fun n => operand? n status
  return (parts.filterMap id).flatten

/-! ### Files -/

def files : Job Files := do
  return (← get).files

def setFiles (f : Files) : Job Unit :=
  modify fun w => { w with files := f }

/-- Replaces a file's content. -/
def writeFile (name content : Octets) : Job (Except SystemFault Unit) := do
  let w ← get
  match w.files.write w.call.directory name content (Nat.land 438 (511 - w.call.umask % 512)) with
  | .ok f =>
    setFiles f
    return .ok ()
  | .error e => return .error e

/-- The work of a tool that goes by another name. -/
def renamed (name : String) (job : Job Unit) : Job Unit := do
  modify fun w => { w with call := { w.call with name := name.toList } }
  job

end Job

/-- How a tool ended. -/
structure Ending where
  status : Nat
  /-- What was printed, in order. -/
  printed : List (Bool × Octets)
  left : Octets
  files : Files
  slept : Nat
  exact : Bool
  endless : Bool

/-- Carries out the work of a tool. -/
def perform (job : Job Unit) (c : Call) : Ending :=
  let w : Work := { call := c, left := c.input.toOption.getD [], files := c.files }
  let w := match job.run w with
    | .ok _ w => w
    | .error _ w => w
  ⟨w.status, w.printed.reverse, w.left, w.files, w.slept, w.exact, w.endless⟩

end KeyRelay.Tools
