/-!
The shortest decimal of a binary fraction: the fewest digits that read back, and of those the
nearest. All arithmetic is on natural numbers. `text` lays the digits out: positional from `1e-5` up
to but not including `1e16`, with at least one place, and with an exponent otherwise.
-/

namespace KeyRelay.Decimal

/-- The finite positive number `mantissa * 2 ^ up / 2 ^ down`; `tight` where the gap below is half
the gap above. -/
structure Binary where
  mantissa : Nat
  up : Nat
  down : Nat
  tight : Bool
  deriving DecidableEq, Repr

/-- The parts of a double that is neither zero nor infinite nor a NaN, without its sign. -/
def Binary.ofBits (bits : Nat) : Binary :=
  let fraction := bits % Nat.pow 2 52
  let exponent := bits / Nat.pow 2 52 % Nat.pow 2 11
  let mantissa := if exponent = 0 then fraction else fraction + Nat.pow 2 52
  let power := max exponent 1
  ⟨mantissa, power - 1075, 1075 - power, fraction = 0 && 1 < exponent⟩

/-- The number `digits * 10 ^ (point - count of digits)`, that is `0.digits` with the point moved by
`point`. -/
structure Digits where
  digits : List Char
  point : Int
  deriving DecidableEq, Repr

def countDigits (n : Nat) : Nat :=
  if n = 0 then 0 else (Nat.toDigits 10 n).length

/-- The decimal point of `num / den`: the number is below `10 ^ point` and not below `10 ^ (point -
1)`. -/
def pointOf (num den : Nat) : Int :=
  if den ≤ num then countDigits (num / den) else 1 - countDigits ((den - 1) / num)

/-- Drops zeros at the end. -/
def dropZeros (cs : List Char) : List Char :=
  (cs.reverse.dropWhile (· = '0')).reverse

/-- The neighbour of `b` on the grid of `places` digits that reads back as `b`; of two such the
nearer, and of two equally near the even one. -/
def onGrid? (b : Binary) (places : Nat) : Option Digits :=
  let scale := Nat.pow 2 b.up
  let num := 4 * b.mantissa * scale
  let den := 4 * Nat.pow 2 b.down
  let low := (4 * b.mantissa - if b.tight then 1 else 2) * scale
  let high := (4 * b.mantissa + 2) * scale
  let point := pointOf num den
  let shift := point - places
  let up := Nat.pow 10 shift.toNat
  let down := Nat.pow 10 (-shift).toNat
  let floor := num * down / (den * up)
  let inside (n : Nat) : Bool :=
    let x := n * den * up
    if b.mantissa % 2 = 0 then low * down ≤ x && x ≤ high * down
      else low * down < x && x < high * down
  let below := num * down - floor * den * up
  let above := (floor + 1) * den * up - num * down
  let pick :=
    if inside floor && inside (floor + 1) then
      if below < above || (below = above && floor % 2 = 0) then some floor else some (floor + 1)
    else if inside floor then some floor
    else if inside (floor + 1) then some (floor + 1)
    else none
  pick.map fun n =>
    let cs := Nat.toDigits 10 n
    ⟨dropZeros cs, shift + cs.length⟩

/-- The fewest digits, at most seventeen, that read back. -/
def shortest (b : Binary) : Digits :=
  ((List.range 17).findSome? fun k => onGrid? b (k + 1)).getD ⟨['0'], 1⟩

/-- The digits with a point or an exponent. -/
def Digits.layout (d : Digits) : String :=
  let n : Int := d.digits.length
  let zeros (k : Int) := List.replicate k.toNat '0'
  if n ≤ d.point ∧ d.point ≤ 16 then String.ofList (d.digits ++ zeros (d.point - n)) ++ ".0"
  else if 0 < d.point ∧ d.point ≤ 16 then
    String.ofList (d.digits.take d.point.toNat) ++ "." ++
      String.ofList (d.digits.drop d.point.toNat)
  else if -5 < d.point ∧ d.point ≤ 0 then "0." ++ String.ofList (zeros (-d.point) ++ d.digits)
  else
    let exponent := d.point - 1
    let mantissa := match d.digits with
      | [] => ""
      | [c] => String.singleton c
      | c :: cs => String.singleton c ++ "." ++ String.ofList cs
    mantissa ++ (if exponent < 0 then "e-" else "e+") ++ toString exponent.natAbs

/-- A finite double in decimal. -/
def text (x : Float) : String :=
  let bits := x.toBits.toNat
  let sign := if bits < Nat.pow 2 63 then "" else "-"
  if bits % Nat.pow 2 63 = 0 then sign ++ "0.0"
  else sign ++ (shortest (Binary.ofBits (bits % Nat.pow 2 63))).layout

end KeyRelay.Decimal
