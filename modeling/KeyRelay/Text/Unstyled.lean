/-!
Text as a terminal would show it: without control sequences and without control characters, blanks
apart. A machine with one place for each stage of a sequence reads the characters; what it finds
outside any sequence is kept.
-/

namespace KeyRelay.Unstyled

/-- Where a character stands: outside any sequence, or in a stage of one. -/
inductive Place where
  | ground
  | escape
  | escapeIntermediate
  | controlEntry
  | controlParameter
  | controlIntermediate
  | controlIgnored
  | deviceEntry
  | deviceParameter
  | deviceIntermediate
  | deviceData
  | deviceIgnored
  | systemCommand
  | message
  deriving DecidableEq, Repr

namespace Place

/-- Sequences whose text is data up to a terminator. -/
def holdsData : Place → Bool
  | .deviceEntry | .deviceParameter | .deviceIntermediate | .deviceData | .deviceIgnored => true
  | .systemCommand | .message => true
  | _ => false

/-- The place after a printable ASCII character, by its code. -/
def after (p : Place) (n : Nat) : Place :=
  match p with
  | .ground => .ground
  | .escape =>
    if n < 0x30 then .escapeIntermediate
    else if n = 0x5B then .controlEntry
    else if n = 0x5D then .systemCommand
    else if n = 0x50 then .deviceEntry
    else if n = 0x58 ∨ n = 0x5E ∨ n = 0x5F then .message
    else .ground
  | .escapeIntermediate => if n < 0x30 then .escapeIntermediate else .ground
  | .controlEntry =>
    if n < 0x30 then .controlIntermediate else if n < 0x40 then .controlParameter else .ground
  | .controlParameter =>
    if n < 0x30 then .controlIntermediate
    else if n < 0x3C then .controlParameter
    else if n < 0x40 then .controlIgnored
    else .ground
  | .controlIntermediate =>
    if n < 0x30 then .controlIntermediate else if n < 0x40 then .controlIgnored else .ground
  | .controlIgnored => if n < 0x40 then .controlIgnored else .ground
  | .deviceEntry =>
    if n < 0x30 then .deviceIntermediate else if n < 0x40 then .deviceParameter else .deviceData
  | .deviceParameter =>
    if n < 0x30 then .deviceIntermediate
    else if n < 0x3C then .deviceParameter
    else if n < 0x40 then .deviceIgnored
    else .deviceData
  | .deviceIntermediate =>
    if n < 0x30 then .deviceIntermediate else if n < 0x40 then .deviceIgnored else .deviceData
  | .deviceData => .deviceData
  | .deviceIgnored => .deviceIgnored
  | .systemCommand => .systemCommand
  | .message => .message

end Place

/-- Blank controls, which are kept where they are carried out. -/
def isBlankControl (n : Nat) : Bool :=
  n == 0x09 || n == 0x0A || n == 0x0C || n == 0x0D

/-- An octet that ends data. -/
def terminator : UInt8 := 0x9C

/-- One character: the place after it, and whether it is shown. -/
def step (p : Place) (c : Char) : Place × Bool :=
  let n := c.toNat
  if n = 0x1B then (.escape, false)
  else if n = 0x18 ∨ n = 0x1A then (.ground, false)
  else if n < 0x20 then
    if p.holdsData then (if p = .systemCommand ∧ n = 0x07 then .ground else p, false)
    else if isBlankControl n then (.ground, true)
    else (p, false)
  else if n < 0x7F then (p.after n, p = .ground)
  else if n = 0x7F then (p, false)
  else if p = .ground then (.ground, true)
  else if p.holdsData ∧ p ≠ .systemCommand ∧ terminator ∈ String.utf8EncodeChar c
    then (.ground, false)
  else (p, false)

/-- The characters that are shown. -/
def shown : Place → List Char → List Char
  | _, [] => []
  | p, c :: cs =>
    match step p c with
    | (q, true) => c :: shown q cs
    | (q, false) => shown q cs

/-- A text without what only drives a terminal. -/
def strip (s : String) : String :=
  String.ofList (shown .ground s.toList)

end KeyRelay.Unstyled
