import KeyRelay.Shell.Format
import KeyRelay.Tools.Flags

/-!
Sequences of numbers, and lines without end.
-/

namespace KeyRelay.Tools.Sequence
open Shell Job

/-- A decimal number: a whole number of units, of which so many digits are places. -/
structure Fixed where
  units : Int
  places : Nat
  deriving DecidableEq, Repr

/-- A number as it was written. -/
inductive Numeral where
  | fixed (n : Fixed)
  /-- In base sixteen, or beyond all numbers. -/
  | other (x : Float)
  deriving Repr

namespace Fixed

/-- The units that the number has with so many places. -/
def scaled (n : Fixed) (places : Nat) : Int :=
  n.units * (Nat.pow 10 (places - n.places) : Nat)

def read? (cs : Octets) : Option Fixed := do
  let (negative, body) := match cs with
    | '-' :: rest => (true, rest)
    | '+' :: rest => (false, rest)
    | rest => (false, rest)
  let whole := body.takeWhile Char.isDigit
  let rest := body.drop whole.length
  let (places, rest) := match rest with
    | '.' :: more => (more.takeWhile Char.isDigit, more.dropWhile Char.isDigit)
    | rest => ([], rest)
  if whole.isEmpty && places.isEmpty then failure
  let power : Int ← match rest with
    | [] => some 0
    | e :: more => if e = 'e' ∨ e = 'E' then Octets.int? more else none
  if 1000 < power.natAbs then failure
  let units : Int := Octets.valueOf 10 (whole ++ places)
  let units := if negative then -units else units
  let shown : Int := places.length - power
  if shown < 0 then return ⟨units * (Nat.pow 10 shown.natAbs : Nat), 0⟩
  return ⟨units, shown.toNat⟩

/-- The text of a number of units with so many places, filled with zeros to a width. -/
def text (units : Int) (places width : Nat) : Octets :=
  let digits := Decimal.withPoint places units.natAbs
  let mark : Octets := if units < 0 then ['-'] else []
  mark ++ Octets.fill false '0' (width - mark.length) digits

end Fixed

def Numeral.read? (cs : Octets) : Option Numeral :=
  let body := cs.dropWhile Octets.isSpace
  match Fixed.read? body with
  | some n => some (.fixed n)
  | none =>
    match Format.scanFloat? body with
    | some (x, []) => some (.other x)
    | _ => none

/-- A float of a numeral. -/
def Numeral.float (n : Numeral) : Float :=
  match n with
  | .fixed n =>
    let x := Float.ofScientific n.units.natAbs true n.places
    if n.units < 0 then -x else x
  | .other x => x

/-- How many lines at most are made of a sequence that has no end. -/
def most : Nat := 400000

/-! ### Layouts -/

inductive LayoutFault where
  | noDirective
  | ended
  | unknown (c : Char)
  | tooMany
  deriving DecidableEq, Repr

def LayoutFault.text (f : LayoutFault) (layout : Octets) : Octets :=
  "format ".toList ++ quoted layout ++
    match f with
    | .noDirective => " has no % directive".toList
    | .ended => " ends in %".toList
    | .unknown c => " has unknown %".toList ++ c :: " directive".toList
    | .tooMany => " has too many % directives".toList

/-- A layout: what stands before the number, how it is written, and what follows. -/
structure Layout where
  before : Octets
  directive : Format.Directive
  letter : Char
  after : Octets

/-- Text up to a directive, with doubled percent signs made single. -/
def plainText : Octets → Octets × Octets
  | [] => ([], [])
  | '%' :: '%' :: rest =>
    let (t, rest) := plainText rest
    ('%' :: t, rest)
  | '%' :: rest => ([], '%' :: rest)
  | c :: rest =>
    let (t, rest) := plainText rest
    (c :: t, rest)

def Layout.read (cs : Octets) : Except LayoutFault Layout := do
  let (before, rest) := plainText cs
  match rest with
  | [] => throw .noDirective
  | _ :: rest =>
    let flagChars := rest.takeWhile fun c => "-+ #0'".toList.contains c
    let rest := rest.drop flagChars.length
    let width := rest.takeWhile Char.isDigit
    let rest := rest.drop width.length
    let (precision, rest) : Option Nat × Octets := match rest with
      | '.' :: more =>
        let ds := more.takeWhile Char.isDigit
        (some (Octets.valueOf 10 ds), more.drop ds.length)
      | rest => (none, rest)
    let rest := match rest with
      | 'L' :: more => more
      | rest => rest
    match rest with
    | [] => throw .ended
    | c :: rest =>
      if !("efgaEFGA".toList.contains c) then throw (.unknown c)
      let (after, left) := plainText rest
      if !left.isEmpty then throw .tooMany
      return ⟨before, { flags := flagChars, width := Octets.valueOf 10 width, precision }, c, after⟩

def Layout.text (l : Layout) (x : Float) : Octets :=
  l.before ++ l.directive.floating l.letter x ++ l.after

/-! ### The tool -/

def rules : FlagRules where
  letters := "+f:s:w"
  names := [("equal-width", "w"), ("format", "f:"), ("separator", "s:")]
  operandEnds := true

/-- Numbers behind a hyphen are no options. -/
def guarded : List Octets → List Octets
  | [] => []
  | w :: more =>
    match w with
    | '-' :: c :: _ =>
      if c.isDigit || c = '.' then ['-', '-'] :: w :: more
      else if w = ['-', 's'] || w = ['-', 'f'] then
        match more with
        | v :: rest => w :: v :: guarded rest
        | [] => [w]
      else w :: guarded more
    | _ => w :: more

/-- Numbers from one to another in steps, each as so many units. -/
def unitsFrom (first step : Int) (last : Option Int) : List Int :=
  let count := match last with
    | none => most
    | some last =>
      if step = 0 then 0
      else if 0 < step && last < first || step < 0 && first < last then 0
      else min most (((last - first) / step).toNat + 1)
  (List.range count).map fun (i : Nat) => first + step * i

def seq : Job Unit := do
  let c ← call
  let f ← flagsOf rules (guarded c.args) 1
  match f.operands with
  | [] => missingOperand 1
  | _ :: _ :: _ :: extra :: _ => extraOperand 1 extra
  | operands =>
    let layout ← (f.value? "f").mapM fun v =>
      match Layout.read v with
      | .ok l => return l
      | .error e => fail 1 (e.text v)
    if layout.isSome && f.has "w" then
      usage 1 "format string may not be specified when printing equal width strings".toList
    let numerals ← operands.mapM fun v =>
      match Numeral.read? v with
      | some n =>
        if n.float.isNaN then usage 1 ("invalid 'not-a-number' argument: ".toList ++ quoted v)
          else return n
      | none => usage 1 ("invalid floating point argument: ".toList ++ quoted v)
    let one : Numeral := .fixed ⟨1, 0⟩
    let (first, step, last) := match numerals with
      | [l] => (one, one, l)
      | [a, l] => (a, one, l)
      | a :: s :: l :: _ => (a, s, l)
      | [] => (one, one, one)
    if step.float == 0.0 then
      usage 1 ("invalid Zero increment value: ".toList ++ quoted ((operands[1]?).getD []))
    let separator := (f.value? "s").getD ['\n']
    let texts := match first, step, last with
      | .fixed a, .fixed s, .fixed l =>
        let places := max a.places s.places
        let inner := max places l.places
        let raw := unitsFrom (a.scaled inner) (s.scaled inner) (some (l.scaled inner))
        match layout with
        | some l => raw.map fun n => l.text (Numeral.fixed ⟨n, inner⟩).float
        | none =>
          let cut (n : Int) : Int := n / (Nat.pow 10 (inner - places) : Nat)
          let width := if f.has "w" then
              let size (n : Int) : Nat := (Fixed.text (cut n) places 0).length
              max (size (a.scaled inner)) (size (raw.getLast?.getD 0))
            else 0
          raw.map fun n => Fixed.text (cut n) places width
      | a, s, l =>
        let count := ((l.float - a.float) / s.float).floor
        let count := if count < 0.0 then 0 else min most (count.toUInt64.toNat + 1)
        let general : Layout := layout.getD ⟨[], {}, 'g', []⟩
        (List.range count).map fun i => general.text (a.float + s.float * Float.ofNat i)
    if !texts.isEmpty then out (Octets.joinWith separator texts ++ ['\n'])

/-- The same line until nobody reads it any more. -/
def yes : Job Unit := do
  let f ← flags { letters := "+", operandEnds := true } 1
  let words := if f.operands.isEmpty then [['y']] else f.operands
  let text := Octets.joinWith [' '] words ++ ['\n']
  out (List.replicate (1200000 / text.length + 1) text).flatten
  modify fun w => { w with endless := true }

end KeyRelay.Tools.Sequence
