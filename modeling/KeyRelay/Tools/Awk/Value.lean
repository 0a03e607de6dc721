import KeyRelay.Shell.Format

/-!
Values of programs that go through records: numbers, texts, and texts that were read and look like
numbers.
-/

namespace KeyRelay.Tools.Awk
open Shell

inductive Value where
  | none
  | number (x : Float)
  | text (cs : Octets)
  /-- A text that was read, with the number that it looks like. -/
  | both (cs : Octets) (x : Float)
  deriving Repr, Inhabited

namespace Value

/-- The number at the front of a text, or zero. -/
def numberOf (cs : Octets) : Float :=
  match Format.scanFloat? cs with
  | some (x, _) => x
  | .none => 0.0

/-- A text that was read. -/
def ofInput (cs : Octets) : Value :=
  match Format.scanFloat? cs with
  | some (x, rest) => if rest.all Octets.isSpace then .both cs x else .text cs
  | .none => .text cs

def ofBool (b : Bool) : Value :=
  .number (if b then 1.0 else 0.0)

def ofNat (n : Nat) : Value :=
  .number (Float.ofNat n)

def float (v : Value) : Float :=
  match v with
  | .none => 0.0
  | .number x => x
  | .text cs => numberOf cs
  | .both _ x => x

def twoTo64 : Float := 18446744073709551616.0

/-- The digits of a whole number that a double holds, if it is one of 64 bits. -/
def whole? (x : Float) : Option Octets :=
  if x.floor == x && -9223372036854775808.0 ≤ x && x < twoTo64 then
    some (if x < 0.0 then '-' :: Octets.ofNat (-x).toUInt64.toNat
      else Octets.ofNat x.toUInt64.toNat)
  else if x == twoTo64 then some (Octets.ofNat 18446744073709551615)
  else .none

/-- A number by a directive; what is no number has a sign. -/
def floating (d : Format.Directive) (c : Char) (x : Float) : Octets :=
  if x.isNaN then d.padded (if c.isUpper then "-NAN" else "-nan").toList else d.floating c x

/-- A number by a layout that holds one directive. -/
def laidOut (layout : Octets) (x : Float) : Octets :=
  match layout with
  | '%' :: '.' :: rest =>
    let ds := rest.takeWhile Char.isDigit
    match rest.drop ds.length with
    | c :: after => floating { precision := some (Octets.valueOf 10 ds) } c x ++ after
    | [] => []
  | '%' :: c :: after => floating {} c x ++ after
  | cs => cs

/-- The text of a value; numbers that are not whole by a layout. -/
def octets (layout : Octets) (v : Value) : Octets :=
  match v with
  | .none => []
  | .text cs | .both cs _ => cs
  | .number x =>
    match whole? x with
    | some ds => ds
    | .none => laidOut layout x

def isTrue (v : Value) : Bool :=
  match v with
  | .none => false
  | .number x | .both _ x => x != 0.0
  | .text cs => !cs.isEmpty

/-- How two values compare: as numbers if both are, else as texts; none where a number is none. -/
def compare (layout : Octets) (a b : Value) : Option Ordering :=
  let floats (x y : Float) : Option Ordering :=
    if x < y then some .lt else if y < x then some .gt else if x == y then some .eq else .none
  match a, b with
  | .text _, _ | _, .text _ => some (Octets.order (a.octets layout) (b.octets layout))
  | a, b => floats a.float b.float

/-- A whole number toward zero, within 64 bits. -/
def truncated (x : Float) : Int :=
  if x.isNaN then -9223372036854775808
  else if x < 0.0 then
    let n := (-x).toUInt64.toNat
    if 9223372036854775808 ≤ n then -9223372036854775808 else -(n : Int)
  else
    let n := x.toUInt64.toNat
    if 9223372036854775807 < n then 9223372036854775807 else n

/-- A whole number toward zero as directives for whole numbers see it: positive ones may have 64
bits. -/
def wide (x : Float) : Int :=
  if 9223372036854775807.0 < x then x.toUInt64.toNat else truncated x

end Value

end KeyRelay.Tools.Awk
