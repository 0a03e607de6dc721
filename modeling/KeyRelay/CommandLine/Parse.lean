import KeyRelay.CommandLine.Option

/-!
Reading a command line. An option that waits for its value, or whose value is not yet looked at, is
settled when the next known option is met or at the end; an argument that is no option and no value
is refused at once. Options that were not given take the value of their environment variable, in the
order of declaration.
-/

namespace KeyRelay.CommandLine

/-- What is known after some arguments. -/
structure Progress where
  choices : Choices := {}
  /-- Options that are settled. -/
  given : List Opt := []
  /-- An option to be settled, with its value once that is there. -/
  pending : Option (Opt × Option String) := none
  /-- After two hyphens nothing is an option or a value. -/
  ended : Bool := false
  deriving DecidableEq, Repr

namespace Progress

/-- Gives an option a value. -/
def give (p : Progress) (o : Opt) (v : String) : Except UsageFault Progress :=
  if o ∈ p.given then .error (.repeated o)
  else (o.set v p.choices).map fun c => { p with choices := c, given := o :: p.given }

/-- Settles the pending option. -/
def settle (p : Progress) : Except UsageFault Progress :=
  match p.pending with
  | none => .ok p
  | some (o, none) => .error (.missingValue o)
  | some (o, some v) => { p with pending := none }.give o v

/-- A flag. Asking for help ends everything. -/
def flag (p : Progress) (o : Opt) : Except UsageFault Progress :=
  match p.settle with
  | .error f => .error f
  | .ok p => p.give o "true"

/-- An option with its value in the same argument. -/
def attached (p : Progress) (o : Opt) (v : String) : Except UsageFault Progress :=
  match p.settle with
  | .error f => .error f
  | .ok p => p.give o v

/-- An option whose value is the next argument. -/
def awaitValue (p : Progress) (o : Opt) : Except UsageFault Progress :=
  p.settle.map fun p => { p with pending := some (o, none) }

/-- An argument that starts with two hyphens: what follows them, up to an equality sign and after
it. -/
def long (p : Progress) (name : String) (value : Option String) : Except UsageFault Progress :=
  match Opt.ofName? name, value with
  | none, _ => .error (.unknownArgument ("--" ++ name))
  | some o, none => if o.isFlag then p.flag o else p.awaitValue o
  | some o, some v => if o.isFlag then .error (.tooManyValues o v) else p.attached o v

/-- An argument of letters after one hyphen. -/
def letters (p : Progress) : List Char → Except UsageFault Progress
  | [] => .ok p
  | c :: cs =>
    match Opt.ofLetter? c with
    | none => .error (.unknownArgument ("-" ++ String.singleton c))
    | some o =>
      match p.flag o with
      | .error f => .error f
      | .ok p => p.letters cs

/-- An argument that is no option: a value where one is awaited. -/
def plain (p : Progress) (arg : String) : Except UsageFault Progress :=
  match p.pending with
  | some (o, none) => .ok { p with pending := some (o, some arg) }
  | _ => .error (.unknownArgument arg)

/-- One argument. -/
def argument (p : Progress) (arg : String) : Except UsageFault Progress :=
  if p.ended then .error (.unknownArgument arg)
  else
    match arg.toList with
    | ['-', '-'] => .ok { p with ended := true }
    | '-' :: '-' :: cs =>
      let name := String.ofList (cs.takeWhile (· ≠ '='))
      match cs.dropWhile (· ≠ '=') with
      | [] => p.long name none
      | _ :: value => p.long name (some (String.ofList value))
    | '-' :: c :: cs => p.letters (c :: cs)
    | _ => p.plain arg

/-- All arguments. -/
def arguments (p : Progress) (argv : List String) : Except UsageFault Progress :=
  match argv with
  | [] => p.settle
  | arg :: more =>
    match p.argument arg with
    | .error f => .error f
    | .ok p => p.arguments more

/-- The environment variable of an option that was not given. -/
def inherit (env : List (String × String)) (p : Progress) (o : Opt) : Except UsageFault Progress :=
  if o ∈ p.given then .ok p
  else
    match o.environmentName? with
    | none => .ok p
    | some name =>
      match env.find? fun e => e.1 = name with
      | none => .ok p
      | some (_, v) => p.give o v

end Progress

/-- Reads a command line with its environment. -/
def parse (env : List (String × String)) (argv : List String) : Except UsageFault Choices :=
  match ({} : Progress).arguments argv with
  | .error f => .error f
  | .ok p => (Opt.all.foldlM (Progress.inherit env) p).map (·.choices)

end KeyRelay.CommandLine
