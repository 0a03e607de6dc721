import KeyRelay.Tools.Amount
import KeyRelay.Tools.Flags

/-!
Copying by blocks: so many blocks of a size from a place on, perhaps with letters changed, and a
count of whole and broken blocks at the end.
-/

namespace KeyRelay.Tools.Blocks
open Shell Job

/-- What is copied, by the names of operands. -/
structure Plan where
  source : Option Octets := none
  target : Option Octets := none
  inputSize : Nat := 512
  outputSize : Nat := 512
  count : Option Nat := none
  skip : Nat := 0
  seek : Nat := 0
  conversions : List String := []
  status : String := ""

/-- An amount that may be a product. -/
def amount? (cs : Octets) : Option Nat :=
  (Octets.splitAt (· = 'x') cs).foldl (fun n part => do
    let m ← n
    let k ← if part.getLast? = some 'c' then Octets.nat? part.dropLast
      else if part.getLast? = some 'w' then (Octets.nat? part.dropLast).map (2 * ·)
      else Amount.read? part
    return m * k) (some 1)

def conversions : List String :=
  ["ascii", "ebcdic", "ibm", "block", "unblock", "lcase", "ucase", "sparse", "swab", "sync", "excl",
    "nocreat", "notrunc", "noerror", "fdatasync", "fsync"]

def inputFlags : List String :=
  ["append", "direct", "directory", "dsync", "sync", "fullblock", "nonblock", "noatime", "nocache",
    "noctty", "nofollow", "count_bytes", "skip_bytes", "seek_bytes"]

/-- Words between commas that are all known; complains of the first that is not. -/
def known (what : String) (names : List String) (value : Octets) : Job (List String) := do
  let words := (Octets.splitAt (· = ',') value).map String.ofList
  match words.find? fun w => !names.contains w with
  | some w => usage 1 (("invalid " ++ what ++ ": ").toList ++ quoted w.toList)
  | none => return words

/-- One operand. -/
def operand (p : Plan) (word : Octets) : Job Plan := do
  let name := word.takeWhile (· ≠ '=')
  let value := word.drop (name.length + 1)
  let unknown {α : Type} : Job α := usage 1 ("unrecognized operand ".toList ++ quoted word)
  let number : Job Nat := do
    match amount? value with
    | some n => return n
    | none => fail 1 ("invalid number: ".toList ++ quoted value)
  let size : Job Nat := do
    match ← number with
    | 0 => fail 1 ("invalid number: ".toList ++ quoted value)
    | n => return n
  if name.length = word.length then unknown
  match String.ofList name with
  | "if" => return { p with source := some value }
  | "of" => return { p with target := some value }
  | "bs" =>
    let n ← size
    return { p with inputSize := n, outputSize := n }
  | "ibs" => return { p with inputSize := ← size }
  | "obs" => return { p with outputSize := ← size }
  | "cbs" =>
    let _ ← size
    return p
  | "count" => return { p with count := some (← number) }
  | "skip" | "iseek" => return { p with skip := ← number }
  | "seek" | "oseek" => return { p with seek := ← number }
  | "conv" =>
    return { p with conversions := p.conversions ++ (← known "conversion" conversions value) }
  | "iflag" =>
    let _ ← known "input flag" inputFlags value
    return p
  | "oflag" =>
    let _ ← known "output flag" inputFlags value
    return p
  | "status" =>
    match ← known "status level" ["none", "noxfer", "progress"] value with
    | [s] => return { p with status := s }
    | _ => return p
  | _ => unknown

/-- Neighbours changed for each other. -/
def swapped : Octets → Octets
  | a :: b :: rest => b :: a :: swapped rest
  | cs => cs

/-- What conversions make of a text. -/
def Plan.converted (p : Plan) (cs : Octets) : Octets :=
  let cs := if p.conversions.contains "swab" then swapped cs else cs
  let cs := if p.conversions.contains "ucase" then cs.map Char.toUpper else cs
  let cs := if p.conversions.contains "lcase" then cs.map Char.toLower else cs
  if p.conversions.contains "sync" && cs.length % p.inputSize ≠ 0 then
    cs ++ List.replicate (p.inputSize - cs.length % p.inputSize) '\x00'
  else cs

/-- How many blocks were whole and broken. -/
def blockCount (size length : Nat) : Octets :=
  Octets.ofNat (length / size) ++ '+' :: Octets.ofNat (if length % size = 0 then 0 else 1)

/-- Says how much was copied. -/
def report (p : Plan) (taken given : Nat) : Job Unit := do
  if p.status ≠ "none" then
    errorText (blockCount p.inputSize taken ++ " records in\n".toList ++
      blockCount p.outputSize given ++ " records out\n".toList)
    if p.status ≠ "noxfer" then
      errorText (Octets.ofNat given ++ " bytes copied, 2.5e-05 s, 1.0 MB/s\n".toList)

def dd : Job Unit := do
  let f ← flags { letters := "" } 1
  let p ← f.operands.foldlM operand {}
  let wanted := p.count.map (· * p.inputSize)
  let skipped := p.skip * p.inputSize
  let text ← match p.source with
    | some name => do
      match ← readFile name (skipped + (wanted.getD Files.muchOf)) with
      | .ok cs => pure (cs.drop skipped)
      | .error .isADirectory => do
        complain 1 ("error reading ".toList ++ quoted name ++ ": Is a directory".toList)
        pure []
      | .error e => fail 1 ("failed to open ".toList ++ quoted name ++ [':', ' '] ++ e.octets)
    | none => do
      let w ← get
      let most := wanted.map (skipped + ·)
      set { w with left := most.elim [] w.left.drop, exact := true }
      pure ((most.elim w.left w.left.take).drop skipped)
  let taken := wanted.elim text text.take
  let converted := p.converted taken
  match p.target with
  | none => out converted
  | some name =>
    let w ← get
    let before := (w.files.read w.call.directory name 0).toOption.getD []
    let start := p.seek * p.outputSize
    let front := before.take start ++ List.replicate (start - before.length) '\x00'
    let behind := if p.conversions.contains "notrunc" then before.drop (start + converted.length)
      else []
    if let .error e ← writeFile name (front ++ converted ++ behind) then
      fail 1 ("failed to open ".toList ++ quoted name ++ [':', ' '] ++ e.octets)
  report p taken.length converted.length
  if let some name := p.source then
    let w ← get
    if wanted.isNone && w.files.isEndless w.call.directory name then set { w with endless := true }

end KeyRelay.Tools.Blocks
