import KeyRelay.Tools.Amount
import KeyRelay.Tools.Flags

/-!
The first and the last lines or octets of files.
-/

namespace KeyRelay.Tools.Excerpt
open Shell Job

/-- What is counted. -/
inductive Measure where
  | lines
  | octets
  deriving DecidableEq, Repr

/-- So many lines at the front, and what follows them. -/
def takeLines : Nat → Octets → Octets × Octets
  | 0, cs => ([], cs)
  | n + 1, cs =>
    let line := cs.takeWhile (· ≠ '\n')
    match cs.drop line.length with
    | [] => (cs, [])
    | _ :: rest =>
      let (more, left) := takeLines n rest
      (line ++ '\n' :: more, left)

/-- So much of the front, and what follows it. -/
def front (m : Measure) (n : Nat) (cs : Octets) : Octets × Octets :=
  match m with
  | .lines => if cs.length < n then (cs, []) else takeLines n cs
  | .octets => (cs.take n, cs.drop n)

/-- How many units a text has; a last line without its end counts. -/
def size (m : Measure) (cs : Octets) : Nat :=
  match m with
  | .lines => (Octets.lines cs).length
  | .octets => cs.length

/-- Options written as digits behind a hyphen, as words of today. -/
def modern (args : List Octets) : List Octets :=
  match args with
  | ('-' :: d :: more) :: rest =>
    if d.isDigit then
      let ds := (d :: more).takeWhile Char.isDigit
      match (d :: more).drop ds.length with
      | [] => ['-', 'n'] :: ds :: rest
      | ['c'] => ['-', 'c'] :: ds :: rest
      | ['q'] => ['-', 'q'] :: ['-', 'n'] :: ds :: rest
      | _ => args
    else args
  | _ => args

def rules : FlagRules where
  letters := "c:n:qvz"
  names := [("bytes", "c:"), ("lines", "n:"), ("quiet", "q"), ("silent", "q"), ("verbose", "v"),
    ("zero-terminated", "z")]

/-- What is measured, and how much of it; the last option counts. -/
def measure (f : Flags) : Measure × Octets :=
  match f.given.reverse.find? fun e => e.1 = "n" || e.1 = "c" with
  | some (key, value) => (if key = "c" then .octets else .lines, value)
  | none => (.lines, ['1', '0'])

def badAmount (m : Measure) (value : Octets) : Octets :=
  "invalid number of ".toList ++ (if m = .lines then "lines" else "bytes").toList ++ ": ".toList ++
    quoted value

/-- Goes through operands, with a head for each where there are several. -/
def eachOperand (f : Flags) (most : Nat) (show' : Octets → Job Unit) : Bool → List Octets → Job Unit
  | _, [] => return ()
  | first, name :: more => do
    let headed := f.has "v" && f.last? ["q", "v"] = some "v" ||
      (!more.isEmpty || !first) && !f.has "q"
    match ← openOperand name most with
    | .ok cs =>
      if headed then
        let title := if name = ['-'] then "standard input".toList else name
        out ((if first then [] else ['\n']) ++ "==> ".toList ++ title ++ " <==\n".toList)
      show' cs
      eachOperand f most show' false more
    | .error .isADirectory =>
      if headed then out ((if first then [] else ['\n']) ++ "==> ".toList ++ name ++
        " <==\n".toList)
      complain 1 ("error reading ".toList ++ quoted name ++ ": Is a directory".toList)
      eachOperand f most show' false more
    | .error e =>
      let title := if name = ['-'] then "standard input".toList else name
      complain 1 ("cannot open ".toList ++ quoted title ++ " for reading: ".toList ++ e.octets)
      eachOperand f most show' first more

def exchanged (zero : Bool) (cs : Octets) : Octets :=
  if zero then cs.map fun c => if c = '\n' then '\x00' else if c = '\x00' then '\n' else c else cs

/-- The first lines or octets; with a minus, all but the last ones. -/
def head : Job Unit := do
  let f ← flagsOf rules (modern (← call).args) 1
  let (m, value) := measure f
  let butLast := value.head? = some '-'
  let digits := if butLast then value.drop 1 else value
  match Amount.read? digits with
  | none => fail 1 (badAmount m digits)
  | some n =>
    let names := if f.operands.isEmpty then [['-']] else f.operands
    let zero := f.has "z"
    eachOperand f (if m = .octets then n else Files.muchOf) (fun cs => do
      let text := exchanged zero cs
      let (shown, left) := front m (if butLast then size m text - n else n) text
      out (exchanged zero shown)
      if names = [['-']] && !butLast then modify fun w =>
        { w with left := exchanged zero left }) true names

def tailRules : FlagRules where
  letters := "c:n:qvzfFs:"
  names := [("bytes", "c:"), ("follow", "follow::"), ("lines", "n:"), ("pid", "pid:"),
    ("quiet", "q"), ("retry", "retry"), ("silent", "q"), ("sleep-interval", "s:"), ("verbose", "v"),
    ("zero-terminated", "z")]

/-- The last lines or octets; with a plus, all from one on. -/
def tail : Job Unit := do
  let f ← flagsOf tailRules (modern (← call).args) 1
  let (m, value) := measure f
  let fromFront := value.head? = some '+'
  let digits := if fromFront || value.head? = some '-' then value.drop 1 else value
  match Amount.read? digits with
  | none => fail 1 (badAmount m value)
  | some n =>
    let names := if f.operands.isEmpty then [['-']] else f.operands
    let zero := f.has "z"
    eachOperand f Files.muchOf (fun cs => do
      let text := exchanged zero cs
      let dropped := if fromFront then n - 1 else size m text - n
      out (exchanged zero (front m dropped text).2)) true names
    let w ← get
    let piped := f.operands.isEmpty && w.call.streams.head? = some .pipe
    if (f.has "f" || f.has "F" || f.has "follow") && !piped && w.status = 0
      then set { w with endless := true }

end KeyRelay.Tools.Excerpt
