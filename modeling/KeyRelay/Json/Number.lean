import KeyRelay.Json.Token

/-!
The number a numeral denotes. A numeral without point and exponent is an integer where it fits 64
bits, unsigned or signed; every other numeral is a double made from as many leading digits as fit 64
bits and a power of ten, with at most a few roundings.
-/

namespace KeyRelay.Json

inductive Number where
  | integer (n : Int)
  | float (x : Float)

/-- The value of a digit. -/
def digitValue (b : UInt8) : Nat :=
  b.toNat - 48

/-- Appends digits to a number as long as it does not pass the limit; what is left of the digits
comes back. -/
def appendDigits (limit : Nat) (n : Nat) : List UInt8 → Nat × List UInt8
  | [] => (n, [])
  | d :: ds =>
    let next := n * 10 + digitValue d
    if limit < next then (n, d :: ds) else appendDigits limit next ds

/-- The largest unsigned number of 64 bits. -/
def maxUnsigned : Nat := UInt64.size - 1

/-- The largest power of ten, as its exponent, that a double reaches. -/
def maxPower : Nat := 308

def power (n : Nat) : Float :=
  Float.ofScientific 1 false n

/-- `x` times a power of ten; nothing if it is too large for a double. -/
def scale (x : Float) (exponent : Int) : Option Float :=
  if exponent.natAbs ≤ maxPower then
    if 0 ≤ exponent then
      let y := x * power exponent.natAbs
      if y.isInf then none else some y
    else some (x / power exponent.natAbs)
  else if x == 0.0 then some x
  else if 0 ≤ exponent then none
  else scale (x / power maxPower) (exponent + maxPower)
  termination_by exponent.natAbs
  decreasing_by simp only [maxPower] at *; omega

/-- Exponents stay within 32 bits. -/
def maxExponent : Nat := 0x7FFFFFFF

def clampExponent (e : Int) : Int :=
  max (-0x80000000) (min maxExponent e)

/-- The number denoted by a numeral that is followed by `after`. -/
def Numeral.number (n : Numeral) (after : List UInt8) : Except Fault Number :=
  let (whole, cut) := appendDigits maxUnsigned 0 n.whole
  let signed (x : Float) : Number := .float (if n.negative then -x else x)
  if n.fraction = none ∧ n.exponent = none ∧ cut = [] then
    if !n.negative then .ok (.integer whole)
    else if whole = 0 ∨ 0x8000000000000000 < whole then .ok (signed (Float.ofNat whole))
    else .ok (.integer (-whole))
  else
    let fraction := n.fraction.getD []
    let (significand, ignored) := appendDigits maxUnsigned whole fraction
    let shift : Int := cut.length - (fraction.length - ignored.length : Nat)
    let finish (exponent : Int) : Except Fault Number :=
      match scale (Float.ofNat significand) exponent with
      | some x => .ok (signed x)
      | none => refuse .numberTooLarge after
    match n.exponent with
    | none => finish shift
    | some (down, ds) =>
      match appendDigits maxExponent 0 ds with
      | (e, []) => finish (clampExponent (if down then shift - e else shift + e))
      | (_, _ :: more) =>
        if significand ≠ 0 ∧ !down then .error ⟨.numberTooLarge, after.length + more.length⟩
        else .ok (signed 0.0)

end KeyRelay.Json
