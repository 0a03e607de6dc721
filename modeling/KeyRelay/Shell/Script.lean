import KeyRelay.Shell.Builtins
import KeyRelay.Shell.Grammar

/-!
Running the text of scripts, a complete command at a time, so that what comes before a fault is
still run. The commands themselves are run by an interpreter that these functions are given.
-/

namespace KeyRelay.Shell
open Run

/-- Runs a command; `tested` where its status is looked at. -/
structure Interpreter where
  run : (tested : Bool) → Command → Run Unit

namespace Interpreter

/-- Runs the commands of a text from where reading stands; whether there were any. -/
def runFrom (it : Interpreter) (tested : Bool) : Nat → Bool → Source → Run Bool
  | 0, ran, _ => return ran
  | fuel + 1, ran, source => do
    let verbose := (← process).hasOption 'v'
    match nextCommand?.run { source with pushed := none, aliases := (← process).aliases } with
    | .error f =>
      modifyProcess fun p => { p with line := f.line }
      fail f.message.toList
    | .ok (none, _) => return ran
    | .ok (some c, next) =>
      if verbose then complainPlain (source.rest.take (source.rest.length - next.rest.length))
      modifyProcess fun p =>
        { p with
          documents := next.documents ++ p.documents, opened := next.opened, readTo := next.line }
      let next := { next with documents := [] }
      match c with
      | .nothing => it.runFrom tested fuel ran next
      | c =>
        it.run tested c
        let opened := (← process).opened
        it.runFrom tested fuel true { next with opened }

/-- Runs a text as part of a process. -/
def runText (it : Interpreter) (tested : Bool) (text : Octets) : Run Bool := do
  it.runFrom tested (text.length + 1) false { rest := text, opened := (← process).opened }

/-- Does what a signal brings about that the process gets; two of them cannot be provided for. -/
def take (it : Interpreter) (signal : Nat) : Run Unit := do
  let p ← process
  let trap? := p.traps.find? fun t => t.1 = (Signal.label signal).toList && signal ≠ 9 &&
    signal ≠ 19
  match trap? with
  | some (_, action) =>
    let _ ← it.runText false action
    setStatus p.status
  | none =>
    match Signal.effect signal with
    | .nothing => return ()
    | .stop => throw .endless
    | .death => die signal

/-- Does what signals bring about that were sent to the process. -/
def receive (it : Interpreter) : Run Unit := do
  let s ← get
  if !s.process.isCopy && !s.world.sent.isEmpty then
    let mine := s.world.sent.filter fun e => e.1 = s.process.number
    modifyWorld fun w => { w with sent := w.sent.filter fun e => e.1 ≠ s.process.number }
    for e in mine do it.take e.2

/-- Does something and then what signals bring about, however it ends. -/
def withSignals (it : Interpreter) (act : Run Unit) : Run Unit := fun s =>
  match act s with
  | .error .endless t => .error .endless t
  | .ok _ t | .error _ t => it.receive t

/-- Does something to the end of a process, and then what it has left to do at its end. -/
def toEnd (it : Interpreter) (act : Run Unit) : Run Unit := fun s =>
  match it.withSignals act s with
  | .error .endless t => .error .endless t
  | .ok _ t | .error _ t =>
    match t.process.traps.find? fun e => e.1 = "EXIT".toList with
    | none => .error .exit t
    | some (_, action) =>
      let status := t.process.status
      let others := t.process.traps.filter fun e => e.1 ≠ "EXIT".toList
      let u :=
        { t with process := { t.process with traps := others, ending := some status, loops := 0 } }
      match it.runText false action u with
      | .error .endless v => .error .endless v
      | .error .exit v | .error .failed v => .error .exit v
      | .ok _ v | .error _ v => .error .exit { v with process := { v.process with status } }

/-- Forgets what a new process does not do at its end or on signals. -/
def dropTraps : Run Unit :=
  modifyProcess fun p => { p with traps := p.traps.filter fun t => t.2.isEmpty, ending := none }

/-- Runs something in a copy of the process; gives its status. -/
def inCopy (it : Interpreter) (act : Run Unit) : Run Nat :=
  apart (it.toEnd do dropTraps; act)

/-- A process that has only its parameters and what it inherits of another. -/
def fresh (p : Process) (name : Octets) (params : List Octets) : Process :=
  let inherited := p.bindings.filter (·.exported)
  let own : List (String × String) :=
    [("IFS", " \t\n"), ("OPTIND", "1"),
      ("PATH", "/usr/local/sbin:/usr/local/bin:/usr/sbin:/usr/bin:/sbin:/bin"),
      ("PPID", toString p.number), ("PS1", "# "), ("PS2", "> "), ("PS4", "+ ")]
  let set : List Binding := own.map fun (n, v) => { name := n.toList, value := some v.toList }
  let inherited := inherited.filter fun b => b.name ≠ "IFS".toList && b.name ≠ "PPID".toList
  { name, params
    bindings := inherited ++ set.filter fun b => !inherited.any fun i => i.name = b.name
    directory := p.directory, reached := p.reached, umask := p.umask, streams := p.streams
    traps := p.traps.filter fun t => t.2.isEmpty
    number := p.number + 1 }

/-- Runs a script as a new process would. -/
def runScript (it : Interpreter) (name : Octets) (params : List Octets) (options : List Char)
    (text : Octets) :
    Run Unit := do
  modifyProcess fun p =>
    let q := fresh p name params
    { (q.bind { name := "PWD".toList, value := some q.reached, exported := true }) with options }
  it.toEnd do let _ ← it.runText false text

end Interpreter

end KeyRelay.Shell
