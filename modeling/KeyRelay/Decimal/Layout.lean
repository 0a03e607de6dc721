import KeyRelay.Decimal

/-!
Doubles with a number of places that is asked for: positional, with an exponent, or whichever is
shorter. The digits are those of the exact value, rounded to the nearest and a tie to the even
neighbour.
-/

namespace KeyRelay.Decimal

/-- A whole quotient, rounded to the nearest and a tie to the even neighbour. -/
def roundedQuotient (num den : Nat) : Nat :=
  let q := num / den
  let r := num % den
  if 2 * r < den then q else if den < 2 * r then q + 1 else if q % 2 = 0 then q else q + 1

/-- The value of a double without its sign, as a fraction. -/
def fraction (x : Float) : Nat × Nat :=
  let b := Binary.ofBits (x.toBits.toNat % Nat.pow 2 63)
  (b.mantissa * Nat.pow 2 b.up, Nat.pow 2 b.down)

def isNegative (x : Float) : Bool :=
  Nat.pow 2 63 ≤ x.toBits.toNat

/-- Digits with a point that leaves so many places behind it. -/
def withPoint (places : Nat) (n : Nat) : List Char :=
  let ds := Nat.toDigits 10 n
  let ds := List.replicate (places + 1 - ds.length) '0' ++ ds
  let whole := ds.take (ds.length - places)
  if places = 0 then whole else whole ++ '.' :: ds.drop (ds.length - places)

/-- Positional digits without a sign. -/
def positional (places : Nat) (x : Float) : List Char :=
  let (num, den) := fraction x
  withPoint places (roundedQuotient (num * Nat.pow 10 places) den)

/-- The leading digits of a value, so many and one more, and the power of ten of the first. -/
def leading (places : Nat) (x : Float) : List Char × Int :=
  let (num, den) := fraction x
  if num = 0 then (List.replicate (places + 1) '0', 0)
  else
    let power := pointOf num den - 1
    let shift := (places : Int) - power
    let n := roundedQuotient (num * Nat.pow 10 shift.toNat) (den * Nat.pow 10 (-shift).toNat)
    let ds := Nat.toDigits 10 n
    if ds.length = places + 2 then (ds.dropLast, power + 1) else (ds, power)

def exponentText (power : Int) : List Char :=
  let ds := Nat.toDigits 10 power.natAbs
  'e' :: (if power < 0 then '-' else '+') :: (if ds.length < 2 then '0' :: ds else ds)

/-- Digits with an exponent, without a sign. -/
def scientific (places : Nat) (x : Float) : List Char :=
  let (ds, power) := leading places x
  (match ds with
    | [d] => [d]
    | d :: more => d :: '.' :: more
    | [] => []) ++ exponentText power

/-- So many digits in the shorter notation, without zeros at the end unless they are kept. -/
def general (digits : Nat) (keepZeros : Bool) (x : Float) : List Char :=
  let digits := max digits 1
  let (_, power) := leading (digits - 1) x
  let trim (cs : List Char) : List Char :=
    if keepZeros || !cs.contains '.' then cs
    else
      let cs := dropZeros cs
      if cs.getLast? = some '.' then cs.dropLast else cs
  if power < -4 ∨ (digits : Int) ≤ power then
    let cs := scientific (digits - 1) x
    trim (cs.takeWhile (· ≠ 'e')) ++ cs.dropWhile (· ≠ 'e')
  else trim (positional ((digits : Int) - 1 - power).toNat x)

end KeyRelay.Decimal
