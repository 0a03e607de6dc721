import KeyRelay.Shell.Octets

/-!
Amounts as tools read them: digits, and a letter that multiplies them.
-/

namespace KeyRelay.Tools.Amount
open Shell

/-- The power of a base that a letter stands for. -/
def power? (c : Char) : Option Nat :=
  match c with
  | 'k' | 'K' => some 1
  | 'm' | 'M' => some 2
  | 'G' | 'g' => some 3
  | 'T' | 't' => some 4
  | 'P' => some 5
  | 'E' => some 6
  | 'Z' => some 7
  | 'Y' => some 8
  | _ => none

/-- What a number is multiplied by. -/
def factor? (suffix : Octets) : Option Nat :=
  match suffix with
  | [] => some 1
  | ['b'] => some 512
  | [c] => (power? c).map (Nat.pow 1024)
  | [c, 'B'] => (power? c).map (Nat.pow 1000)
  | [c, 'i', 'B'] => (power? c).map (Nat.pow 1024)
  | _ => none

/-- A number with a suffix. -/
def read? (cs : Octets) : Option Nat := do
  let ds := cs.takeWhile Char.isDigit
  if ds.isEmpty then failure
  return Octets.valueOf 10 ds * (← factor? (cs.drop ds.length))

/-- Milliseconds that a duration means: a decimal number of seconds, or of longer units by a
letter. -/
def milliseconds? (cs : Octets) : Option Nat := do
  let number := cs.takeWhile fun c => c.isDigit || c = '.'
  let whole := number.takeWhile (· ≠ '.')
  let places := number.drop (whole.length + 1)
  if whole.isEmpty && places.isEmpty || places.contains '.' then failure
  let unit ← match cs.drop number.length with
    | [] | ['s'] => some 1
    | ['m'] => some 60
    | ['h'] => some 3600
    | ['d'] => some 86400
    | _ => none
  let thousandths := Octets.valueOf 10 (Octets.fill true '0' 3 (places.take 3))
  return (Octets.valueOf 10 whole * 1000 + thousandths) * unit

end KeyRelay.Tools.Amount
