import KeyRelay.Tools.Job

/-!
Options of tools: letters behind a hyphen and names behind two. Options and operands may be mixed,
up to a pair of hyphens; names may be shortened as long as they are not ambiguous. The first fault
ends the tool.
-/

namespace KeyRelay.Tools
open Shell

/-- Options that a tool knows. -/
structure FlagRules where
  /-- Letters; a colon follows those with a value, two follow those that may have one. -/
  letters : String
  /-- Names, with the letter or the word they stand for, colons behind it as with letters. -/
  names : List (String × String) := []
  /-- The first operand ends the options. -/
  operandEnds : Bool := false

/-- Options as given, and what is no option. -/
structure Flags where
  given : List (String × Octets) := []
  operands : List Octets := []

inductive FlagFault where
  | invalid (letter : Char)
  | valueMissing (letter : Char)
  | unrecognized (name : Octets)
  | ambiguous (name : Octets) (possible : List String)
  | valueRefused (name : String)
  | nameValueMissing (name : String)
  deriving DecidableEq, Repr

namespace FlagFault

def text (f : FlagFault) : Octets :=
  match f with
  | .invalid c => "invalid option -- '".toList ++ [c, '\'']
  | .valueMissing c => "option requires an argument -- '".toList ++ [c, '\'']
  | .unrecognized name => "unrecognized option '--".toList ++ name ++ ['\'']
  | .ambiguous name possible =>
    "option '--".toList ++ name ++ "' is ambiguous; possibilities:".toList ++
      possible.flatMap fun p => " '--".toList ++ p.toList ++ ['\'']
  | .valueRefused name => ("option '--" ++ name ++ "' doesn't allow an argument").toList
  | .nameValueMissing name => ("option '--" ++ name ++ "' requires an argument").toList

end FlagFault

/-- Whether an option has a value. -/
inductive ValueRule where
  | never
  | always
  | attached
  deriving DecidableEq, Repr

namespace FlagRules

/-- The rule that colons tell. -/
def valueRule (cs : List Char) : ValueRule :=
  match cs with
  | ':' :: ':' :: _ => .attached
  | ':' :: _ => .always
  | _ => .never

/-- The rule of a letter among the letters. -/
def letterRule? (c : Char) : List Char → Option ValueRule
  | [] => none
  | x :: more => if x = c && c ≠ ':' then some (valueRule more) else letterRule? c more

/-- Names that every tool knows. -/
def usual : List (String × String) := [("help", "help"), ("version", "version")]

/-- The name that a possibly shortened one stands for; a fault names the whole word. -/
def name? (r : FlagRules) (word cs : Octets) : Except FlagFault (String × String) :=
  let all := r.names ++ usual
  match all.find? fun e => e.1.toList = cs with
  | some e => .ok e
  | none =>
    match all.filter fun e => cs.isPrefixOf e.1.toList with
    | [] => .error (.unrecognized word)
    | e :: more =>
      if more.all fun m => m.2 = e.2 then .ok e
        else .error (.ambiguous word ((e :: more).map (·.1)))

/-- Letters behind one hyphen, of which one may take the rest or the next word as its value. -/
def takeLetters (r : FlagRules) (given : List (String × Octets)) (more : List Octets) :
    Octets → Except FlagFault (List (String × Octets) × List Octets)
  | [] => .ok (given, more)
  | c :: cs =>
    let key := String.singleton c
    match letterRule? c r.letters.toList with
    | none => .error (.invalid c)
    | some .never => takeLetters r (given ++ [(key, [])]) more cs
    | some .attached => .ok (given ++ [(key, cs)], more)
    | some .always =>
      if !cs.isEmpty then .ok (given ++ [(key, cs)], more)
      else
        match more with
        | value :: rest => .ok (given ++ [(key, value)], rest)
        | [] => .error (.valueMissing c)

/-- A name behind two hyphens, with its value. -/
def takeName (r : FlagRules) (given : List (String × Octets)) (more : List Octets) (word : Octets) :
    Except FlagFault (List (String × Octets) × List Octets) := do
  let name := word.takeWhile (· ≠ '=')
  let value := word.drop name.length
  let (full, key) ← r.name? word name
  let letters := key.toList.takeWhile (· ≠ ':')
  let key' := String.ofList letters
  match valueRule (key.toList.drop letters.length), value with
  | .never, [] => return (given ++ [(key', [])], more)
  | .never, _ => throw (.valueRefused full)
  | .attached, value => return (given ++ [(key', value.drop 1)], more)
  | .always, _ :: value => return (given ++ [(key', value)], more)
  | .always, [] =>
    match more with
    | value :: rest => return (given ++ [(key', value)], rest)
    | [] => throw (.nameValueMissing full)

/-- Tells options and operands apart. -/
def read (r : FlagRules) : Nat → Flags → List Octets → Except FlagFault Flags
  | 0, f, _ => .ok f
  | _ + 1, f, [] => .ok f
  | fuel + 1, f, word :: more =>
    match word with
    | ['-', '-'] => .ok { f with operands := f.operands ++ more }
    | '-' :: '-' :: name =>
      match r.takeName f.given more name with
      | .ok (given, more) => r.read fuel { f with given } more
      | .error e => .error e
    | '-' :: c :: cs =>
      match r.takeLetters f.given more (c :: cs) with
      | .ok (given, more) => r.read fuel { f with given } more
      | .error e => .error e
    | _ =>
      if r.operandEnds then .ok { f with operands := f.operands ++ word :: more }
      else r.read fuel { f with operands := f.operands ++ [word] } more

end FlagRules

namespace Flags

def has (f : Flags) (key : String) : Bool :=
  f.given.any fun e => e.1 = key

/-- The last value of an option. -/
def value? (f : Flags) (key : String) : Option Octets :=
  (f.given.reverse.find? fun e => e.1 = key).map (·.2)

/-- All values of an option. -/
def values (f : Flags) (key : String) : List Octets :=
  f.given.filterMap fun e => if e.1 = key then some e.2 else none

/-- Of some options, the one that was given last. -/
def last? (f : Flags) (keys : List String) : Option String :=
  (f.given.reverse.find? fun e => keys.contains e.1).map (·.1)

end Flags

namespace Job

/-- The options of some arguments; a fault ends the tool with a status. -/
def flagsOf (r : FlagRules) (args : List Octets) (status : Nat) : Job Flags := do
  match r.read (args.length + 1) {} args with
  | .ok f =>
    if f.has "help" || f.has "version" then exit 0
    return f
  | .error e => usage status e.text

/-- The options that a tool was started with. -/
def flags (r : FlagRules) (status : Nat) : Job Flags := do
  flagsOf r (← call).args status

def missingOperand {α : Type} (status : Nat) : Job α :=
  usage status "missing operand".toList

def extraOperand {α : Type} (status : Nat) (operand : Octets) : Job α :=
  usage status ("extra operand ".toList ++ quoted operand)

end Job

end KeyRelay.Tools
