import KeyRelay.Tools.Flags

/-!
Names of files: the last part of a path, what stands before it, and where links lead to.
-/

namespace KeyRelay.Tools.Names
open Shell Job

/-- A name without an ending, unless that is all of it. -/
def withoutEnding (ending name : Octets) : Octets :=
  if !ending.isEmpty && ending.isSuffixOf name && ending.length < name.length
  then name.take (name.length - ending.length) else name

def basename : Job Unit := do
  let f ← flags
    { letters := "+as:z", names := [("multiple", "a"), ("suffix", "s:"), ("zero", "z")]
      operandEnds := true } 1
  let ending := if f.has "z" then '\x00' else '\n'
  let names ← match f.has "a" || f.has "s", f.operands with
    | _, [] => missingOperand 1
    | true, ops => pure (ops.map fun n => (n, (f.value? "s").getD []))
    | false, [n] => pure [(n, [])]
    | false, [n, s] => pure [(n, s)]
    | false, _ :: _ :: extra :: _ => extraOperand 1 extra
  for (n, s) in names do
    let base := Path.lastName n
    out ((if base = ['/'] then base else withoutEnding s base) ++ [ending])

def dirname : Job Unit := do
  let f ← flags { letters := "z", names := [("zero", "z")] } 1
  if f.operands.isEmpty then missingOperand 1
  for n in f.operands do
    out (Path.directoryName n ++ [if f.has "z" then '\x00' else '\n'])

/-- How much of a path has to exist. -/
inductive Demand where
  | all
  | allButLast
  | nothing
  deriving DecidableEq, Repr

/-- The path without links, dots and repeated slashes. -/
def canonical (files : Files) (current : Path) (d : Demand) (name : Octets) :
    Except SystemFault Octets :=
  match files.resolve current name true with
  | .ok p =>
    match d, files.inode? p with
    | .all, none => .error .missing
    | _, _ => .ok p.text
  | .error f =>
    match d with
    | .nothing =>
      let start := if name.head? = some '/' then [] else current
      let p := (Path.ofText name).foldl (fun (p : Path) n =>
        if n = ['.'] then p else if n = ['.', '.'] then p.dropLast else p ++ [n]) start
      .ok p.text
    | _ => .error f

def readlink : Job Unit := do
  let f ← flags
    { letters := "efmnqsvz"
      names :=
        [("canonicalize", "f"), ("canonicalize-existing", "e"), ("canonicalize-missing", "m"),
          ("no-newline", "n"), ("quiet", "q"), ("silent", "s"), ("verbose", "v"), ("zero", "z")] } 1
  if f.operands.isEmpty then missingOperand 1
  let w ← get
  for n in f.operands do
    let result : Except SystemFault Octets :=
      match f.last? ["e", "f", "m"] with
      | some k =>
        canonical w.files w.call.directory (if k = "e" then .all else if k = "f" then .allButLast
          else .nothing) n
      | none => do
        let p ← w.files.resolve w.call.directory n false
        match w.files.node? p with
        | some (.link t) => return t
        | some _ => throw .badArgument
        | none => throw .missing
    match result with
    | .ok t =>
      out (t ++ if f.has "n" && f.operands.length = 1 then []
        else [if f.has "z" then '\x00' else '\n'])
    | .error e =>
      if f.has "v" then warn (n ++ [':', ' '] ++ e.octets)
      setStatus 1

def realpath : Job Unit := do
  let f ← flags
    { letters := "eLmPqsz"
      names := [("canonicalize-existing", "e"), ("canonicalize-missing", "m"), ("logical", "L"),
        ("physical", "P"),
        ("quiet", "q"), ("strip", "s"), ("no-symlinks", "s"), ("zero", "z"),
          ("relative-to", "relative-to:"),
        ("relative-base", "relative-base:")] } 1
  if f.operands.isEmpty then missingOperand 1
  let w ← get
  for n in f.operands do
    let demand := match f.last? ["e", "m"] with
      | some "e" => Demand.all
      | some _ => .nothing
      | none => .allButLast
    match if n.isEmpty then .error .missing else canonical w.files w.call.directory demand n with
    | .ok t => out (t ++ [if f.has "z" then '\x00' else '\n'])
    | .error e =>
      if !f.has "q" then warn (n ++ [':', ' '] ++ e.octets)
      setStatus 1

def pwd : Job Unit := do
  let f ← flags { letters := "LP", names := [("logical", "L"), ("physical", "P")] } 1
  if !f.operands.isEmpty then warn "ignoring non-option arguments".toList
  line (← call).directory.text

/-- Names for temporary files are filled up in this order. -/
def fillers : List Char :=
  "ABCDEFGHIJKLMNOPQRSTUVWXYZabcdefghijklmnopqrstuvwxyz0123456789".toList

/-- Text of a length that differs for each change of the tree. -/
def filler (size n : Nat) : Octets :=
  (List.range size).map fun i => (fillers[(n * 7 + i * 11 + n / 5) % 62]?).getD 'a'

def mktemp : Job Unit := do
  let f ← flags
    { letters := "dp::qtuV"
      names := [("directory", "d"), ("quiet", "q"), ("dry-run", "u"), ("suffix", "suffix:"),
        ("tmpdir", "p::")] } 1
  if 1 < f.operands.length then usage 1 "too many templates".toList
  let template := f.operands.headD "tmp.XXXXXXXXXX".toList
  let suffix := (f.value? "suffix").getD []
  let xs := (template.reverse.takeWhile (· = 'X')).length
  if xs < 3 then fail 1 ("too few X's in template ".toList ++ quoted (template ++ suffix))
  let w ← get
  let temporary := ((w.call.environment.find? fun e => e.1 = "TMPDIR".toList).map (·.2)).getD
    "/tmp".toList
  let directory : Option Octets :=
    if f.has "t" then some temporary
    else if f.has "p"
      then some (match f.value? "p" with | some (c :: cs) => c :: cs | _ => temporary)
    else if f.operands.isEmpty then some temporary else none
  let stem := template.take (template.length - xs)
  let base := stem ++ filler xs (w.files.changes + 1) ++ suffix
  let name := match directory with
    | some d => Octets.dropEndWhile (· = '/') d ++ '/' :: base
    | none => base
  let shown := match directory with
    | some d => Octets.dropEndWhile (· = '/') d ++ '/' :: template ++ suffix
    | none => template ++ suffix
  let kind := if f.has "d" then "directory" else "file"
  let refused (e : SystemFault) : Job Unit :=
    let failed := "failed to create ".toList ++ kind.toList ++ " via template ".toList ++
      quoted shown
    fail 1 (failed ++ [':', ' '] ++ e.octets)
  match w.files.resolve w.call.directory name true with
  | .error e => refused e
  | .ok p =>
    if !f.has "u" then
      setFiles (w.files.add p (if f.has "d" then .directory else .regular []) (if f.has "d" then 448
        else 384))
    line name

end KeyRelay.Tools.Names
