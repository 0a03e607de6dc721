/-!
Whole numbers as options take them: decimal digits after an optional sign. Digits are read from the
left, and the first that is none, or that leads out of range, decides what is reported.
-/

namespace KeyRelay.CommandLine

inductive NumberFault where
  | empty
  | badDigit
  | tooLarge
  | tooSmall
  /-- Read, but not from zero to the bound. -/
  | notUpTo (n : Int) (bound : Nat)
  deriving DecidableEq, Repr

def NumberFault.message : NumberFault → String
  | .empty => "cannot parse integer from empty string"
  | .badDigit => "invalid digit found in string"
  | .tooLarge => "number too large to fit in target type"
  | .tooSmall => "number too small to fit in target type"
  | .notUpTo n bound => toString n ++ " is not in 0..=" ++ toString bound

/-- A decimal digit's value. -/
def digitValue? (c : Char) : Option Nat :=
  if '0' ≤ c ∧ c ≤ '9' then some (c.toNat - 48) else none

/-- Appends digits to a magnitude that stays at or below a bound. -/
def appendDigits (bound : Nat) (beyond : NumberFault) (n : Nat) : List Char → Except NumberFault Nat
  | [] => .ok n
  | c :: cs =>
    match digitValue? c with
    | none => .error .badDigit
    | some d => if bound < n * 10 + d then .error beyond
      else appendDigits bound beyond (n * 10 + d) cs

/-- At least one digit. -/
def magnitude (bound : Nat) (beyond : NumberFault) (cs : List Char) : Except NumberFault Nat :=
  if cs = [] then .error .badDigit else appendDigits bound beyond 0 cs

/-- An unsigned number of so many bits; a plus sign is allowed. -/
def readUnsigned (bits : Nat) (s : String) : Except NumberFault Nat :=
  match s.toList with
  | [] => .error .empty
  | '+' :: cs => magnitude (Nat.pow 2 bits - 1) .tooLarge cs
  | cs => magnitude (Nat.pow 2 bits - 1) .tooLarge cs

/-- A number from zero to a bound, read as a signed number of 64 bits first. -/
def readUpTo (bound : Nat) (s : String) : Except NumberFault Nat := do
  let n : Int ← match s.toList with
    | [] => .error .empty
    | '+' :: cs => (magnitude (Nat.pow 2 63 - 1) .tooLarge cs).map Int.ofNat
    | '-' :: cs => (magnitude (Nat.pow 2 63) .tooSmall cs).map fun n => -(n : Int)
    | cs => (magnitude (Nat.pow 2 63 - 1) .tooLarge cs).map Int.ofNat
  if 0 ≤ n ∧ n ≤ bound then return n.toNat else .error (.notUpTo n bound)

end KeyRelay.CommandLine
