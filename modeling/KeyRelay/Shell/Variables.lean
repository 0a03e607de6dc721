import KeyRelay.Shell.State
import KeyRelay.Shell.Words

/-!
Parameters and variables of a process.
-/

namespace KeyRelay.Shell

namespace Process

def binding? (p : Process) (name : Octets) : Option Binding :=
  p.bindings.find? fun b => b.name = name

def valueOf? (p : Process) (name : Octets) : Option Octets :=
  (p.binding? name).bind (·.value)

/-- Puts a binding in the place of the one of its name. -/
def bind (p : Process) (b : Binding) : Process :=
  if p.bindings.any fun old => old.name = b.name then
    { p with bindings := p.bindings.map fun old => if old.name = b.name then b else old }
  else { p with bindings := b :: p.bindings }

def unbind (p : Process) (name : Octets) : Process :=
  { p with bindings := p.bindings.filter fun b => b.name ≠ name }

def hasOption (p : Process) (c : Char) : Bool :=
  p.options.contains c

/-- The letters of options in the order they are shown in. -/
def optionOrder : List Char :=
  ['p', 'u', 'b', 'a', 'C', 'E', 'V', 'v', 'x', 's', 'n', 'm', 'i', 'I', 'f', 'e']

/-- The characters that part fields. -/
def separators (p : Process) : Octets :=
  (p.valueOf? "IFS".toList).getD [' ', '\t', '\n']

/-- The value of a parameter other than all parameters together. -/
def parameter? (p : Process) (name : Octets) : Option Octets :=
  match name with
  | ['#'] => some (Octets.ofNat p.params.length)
  | ['?'] => some (Octets.ofNat p.status)
  | ['$'] => some (Octets.ofNat p.number)
  | ['!'] => p.background.map Octets.ofNat
  | ['-'] => some (optionOrder.filter p.options.contains)
  | _ =>
    match Octets.nat? name with
    | some 0 => some p.name
    | some n => p.params[n - 1]?
    | none => p.valueOf? name

/-- Variables for the tools that are started. -/
def environment (p : Process) : List (Octets × Octets) :=
  p.bindings.filterMap fun b => if b.exported then b.value.map (b.name, ·) else none

end Process

namespace Run

/-- Refuses to change a variable that is fixed. -/
def guardChange (name : Octets) : Run Unit := do
  match (← process).binding? name with
  | some b => if b.readonly then fail (name ++ ": is read only".toList)
  | none => return ()

/-- Gives a variable a value. -/
def assign (name value : Octets) : Run Unit := do
  guardChange name
  modifyProcess fun p =>
    let old : Binding := (p.binding? name).getD { name, value := none }
    let p := if name = "OPTIND".toList then { p with letters := 0 } else p
    p.bind { old with value := some value, exported := old.exported || p.hasOption 'a' }

/-- Marks a variable, which need not have a value. -/
def mark (name : Octets) (f : Binding → Binding) : Run Unit :=
  modifyProcess fun p => p.bind (f ((p.binding? name).getD { name, value := none }))

def unset (name : Octets) : Run Unit := do
  guardChange name
  modifyProcess (·.unbind name)

def valueOf (name : String) : Run Octets := do
  return ((← process).valueOf? name.toList).getD []

end Run

end KeyRelay.Shell
