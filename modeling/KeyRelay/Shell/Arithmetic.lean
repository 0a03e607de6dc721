import KeyRelay.Shell.Variables

/-!
Arithmetic of scripts, on integers of 64 bits. An expression is evaluated while it is read; a part
whose value is not wanted is read all the same, but changes nothing.
-/

namespace KeyRelay.Shell

namespace Octets

/-- A number in the notation of its prefix: hexadecimal, octal or decimal; what is left, and whether
there was a digit. -/
def leadingNumber (cs : Octets) : Nat × Octets × Bool :=
  match cs with
  | '0' :: x :: rest =>
    let hex := rest.takeWhile (digitValue · < 16)
    if (x = 'x' ∨ x = 'X') ∧ hex ≠ [] then (valueOf 16 hex, rest.drop hex.length, true)
    else
      let ds := (x :: rest).takeWhile (digitValue · < 8)
      (valueOf 8 ds, (x :: rest).drop ds.length, true)
  | _ =>
    let ds := cs.takeWhile Char.isDigit
    (valueOf 10 ds, cs.drop ds.length, !ds.isEmpty)

/-- How reading a number ends: its value within the bounds, what follows it, whether there was a
digit and whether the value was out of bounds. -/
structure Scanned where
  value : Int
  rest : Octets
  found : Bool
  outOfRange : Bool

/-- A number with blanks and a sign before it. -/
def scanInt (cs : Octets) : Scanned :=
  let body := cs.dropWhile isSpace
  let (negative, digits) := match body with
    | '-' :: ds => (true, ds)
    | '+' :: ds => (false, ds)
    | ds => (false, ds)
  let (n, rest, found) := leadingNumber digits
  let value : Int := if negative then -(n : Int) else n
  ⟨max least (min greatest value), if found then rest else cs, found, value < least ||
    greatest < value⟩

end Octets

namespace Arithmetic

inductive Sign where
  | number (n : Int)
  | variable (name : Octets)
  | operator (s : String)
  | bad
  deriving DecidableEq, Repr

/-- Operators, longer ones first. -/
def operators : List String :=
  ["<<=", ">>=", "<<", ">>", "<=", ">=", "==", "!=", "&&", "||", "*=", "/=", "%=", "+=", "-=", "&=",
    "^=", "|=", "=", "<", ">", "!", "~", "?", ":", "+", "-", "*", "/", "%", "^", "&", "|", "(", ")"]

/-- The signs of an expression. -/
def signs : Nat → Octets → List Sign
  | 0, _ => []
  | _ + 1, [] => []
  | fuel + 1, c :: cs =>
    if c = ' ' || c = '\t' || c = '\n' then signs fuel cs
    else if c.isDigit then
      let r := Octets.scanInt (c :: cs)
      .number r.value :: signs fuel r.rest
    else if isNameStart c then
      .variable ((c :: cs).takeWhile isNameChar) :: signs fuel ((c :: cs).dropWhile isNameChar)
    else
      match operators.find? fun s => s.toList.isPrefixOf (c :: cs) with
      | some s => .operator s :: signs fuel ((c :: cs).drop s.length)
      | none => [.bad]

/-- How tightly binary operators bind; the tightest have 0. -/
def level? (s : String) : Option Nat :=
  (([("*", 0), ("/", 0), ("%", 0), ("+", 1), ("-", 1), ("<<", 2), (">>", 2), ("<", 3),
    ("<=", 3), (">", 3),
    (">=", 3), ("==", 4), ("!=", 4), ("&", 5), ("^", 6), ("|", 7)] :
      List (String × Nat)).find? fun e => e.1 = s).map (·.2)

def loosest : Nat := 8

/-- The bits of a number as a natural number. -/
def bits (n : Int) : Nat :=
  (n % 18446744073709551616).toNat

def truth (b : Bool) : Int :=
  if b then 1 else 0

/-- The value of a binary operator; none for a division by zero. -/
def applied? (s : String) (a b : Int) : Option Int :=
  let shift := bits b % 64
  let both (f : Nat → Nat → Nat) : Int := Octets.wrap (f (bits a) (bits b))
  match s with
  | "*" => some (Octets.wrap (a * b))
  | "/" => if b = 0 then none else some (Octets.wrap (a.tdiv b))
  | "%" => if b = 0 then none else some (a.tmod b)
  | "+" => some (Octets.wrap (a + b))
  | "-" => some (Octets.wrap (a - b))
  | "<<" => some (Octets.wrap (a * (Nat.pow 2 shift : Nat)))
  | ">>" => some (a / (Nat.pow 2 shift : Nat))
  | "<" => some (truth (a < b))
  | "<=" => some (truth (a ≤ b))
  | ">" => some (truth (b < a))
  | ">=" => some (truth (b ≤ a))
  | "==" => some (truth (a = b))
  | "!=" => some (truth (a ≠ b))
  | "&" => some (both Nat.land)
  | "^" => some (both Nat.xor)
  | "|" => some (both Nat.lor)
  | _ => some b

/-- The binary operator of an assignment: none where it only assigns. -/
def assigning? (s : String) : Option (Option String) :=
  if s = "=" then some none
  else if ["*=", "/=", "%=", "+=", "-=", "<<=", ">>=", "&=", "^=", "|="].contains s then
    some (some (String.ofList s.toList.dropLast))
  else none

/-- What is left of the expression, and its text for complaints. -/
structure Reader where
  signs : List Sign
  text : Octets

abbrev Calculation := StateT Reader Run

def refuse {α : Type} (why : String) : Calculation α := do
  let text := (← get).text
  Run.fail (("arithmetic expression: " ++ why ++ ": \"").toList ++ text ++ ['"'])

def peek : Calculation (Option Sign) := do
  return (← get).signs.head?

def skip : Calculation Unit :=
  modify fun r => { r with signs := r.signs.drop 1 }

/-- The number that a variable holds. -/
def lookUp (name : Octets) : Calculation Int := do
  match (← Run.process).valueOf? name with
  | none => return 0
  | some text =>
    let r := Octets.scanInt text
    if r.outOfRange || (r.rest.any fun c => !Octets.isSpace c) then
      Run.fail ("Illegal number: ".toList ++ text)
    else return r.value

def combine (s : String) (wanted : Bool) (a b : Int) : Calculation Int := do
  if !wanted then return b
  match applied? s a b with
  | some n => return n
  | none => refuse "division by zero"

/-- A number, a variable, an expression in parentheses, or one of these after signs. -/
def primary (self : Bool → Calculation Int) : Nat → Bool → Calculation Int
  | 0, _ => refuse "expecting primary"
  | fuel + 1, wanted => do
    match ← peek with
    | some (.number n) => skip; return n
    | some (.variable name) =>
      skip
      if wanted then lookUp name else return 0
    | some (.operator "(") =>
      skip
      let n ← self wanted
      if (← peek) = some (.operator ")") then
        skip
        return n
      else refuse "expecting ')'"
    | some (.operator "+") => skip; primary self fuel wanted
    | some (.operator "-") => skip; return Octets.wrap (-(← primary self fuel wanted))
    | some (.operator "!") => skip; return truth ((← primary self fuel wanted) = 0)
    | some (.operator "~") => skip; return -(← primary self fuel wanted) - 1
    | _ => refuse "expecting primary"

/-- Goes on after a value with operators that bind tighter than a level. -/
def climb (operand : Bool → Calculation Int) : Nat → Nat → Bool → Int → Calculation Int
  | 0, _, _, a => return a
  | fuel + 1, level, wanted, a => do
    match ← peek with
    | some (.operator s) =>
      match level? s with
      | some l =>
        if l < level then
          skip
          let b ← operand wanted
          let b ← climb operand fuel l wanted b
          let a ← combine s wanted a b
          climb operand fuel level wanted a
        else return a
      | none => return a
    | _ => return a

/-- Operands joined by an operator that stops as soon as its value is known. -/
def joined (s : String) (decided : Int → Bool) (operand : Bool → Calculation Int) :
    Nat → Bool → Int → Calculation Int
  | 0, _, a => return a
  | fuel + 1, wanted, a => do
    if (← peek) = some (.operator s) then
      skip
      let b ← operand (wanted && !decided a)
      let a := if decided a then truth (a ≠ 0) else truth (b ≠ 0)
      joined s decided operand fuel wanted a
    else return a

/-- A choice between two values, or one value. -/
def choice (self : Bool → Calculation Int) : Nat → Bool → Calculation Int
  | 0, _ => refuse "expecting primary"
  | fuel + 1, wanted => do
    let operand := primary self (fuel + 1)
    let binary (wanted : Bool) : Calculation Int := do
      climb operand (fuel + 1) loosest wanted (← operand wanted)
    let conjunction (wanted : Bool) : Calculation Int := do
      joined "&&" (· = 0) binary (fuel + 1) wanted (← binary wanted)
    let a ← joined "||" (· ≠ 0) conjunction (fuel + 1) wanted (← conjunction wanted)
    if (← peek) = some (.operator "?") then
      skip
      let b ← self (wanted && a ≠ 0)
      if (← peek) ≠ some (.operator ":") then refuse "expecting ':'"
      skip
      let c ← choice self fuel (wanted && a = 0)
      return if a ≠ 0 then b else c
    else return a

/-- An assignment or a choice. -/
def expression : Nat → Bool → Calculation Int
  | 0, _ => refuse "expecting primary"
  | fuel + 1, wanted => do
    match (← get).signs with
    | .variable name :: .operator s :: rest =>
      match assigning? s with
      | some op =>
        modify fun r => { r with signs := rest }
        let b ← expression fuel wanted
        if !wanted then return b
        let value ← match op with
          | none => pure b
          | some s => combine s true (← lookUp name) b
        Run.assign name (Octets.ofInt value)
        return value
      | none => choice (expression fuel) (fuel + 1) wanted
    | _ => choice (expression fuel) (fuel + 1) wanted

/-- The value of an expression. -/
def evaluate (text : Octets) : Run Int := do
  let ss := signs (text.length + 1) text
  let (n, r) ← (expression (ss.length + 2) true).run ⟨ss, text⟩
  if r.signs.isEmpty then return n
  let (n, _) ← (refuse "expecting EOF" : Calculation Int).run r
  return n

end Arithmetic

end KeyRelay.Shell
