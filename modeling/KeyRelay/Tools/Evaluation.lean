import KeyRelay.Shell.Condition
import KeyRelay.Tools.Flags
import KeyRelay.Tools.Regex.Program
import KeyRelay.Tools.Regex.Reader

/-!
Words that are evaluated: arithmetic and comparisons whose value is printed, and conditions whose
value is a status.
-/

namespace KeyRelay.Tools.Evaluation
open Shell Job

/-! ### Expressions -/

/-- Why an expression has no value. -/
inductive Fault where
  | missingArgument (after : Octets)
  | unexpected (word : Octets)
  | unexpectedClose
  | notClosed (after : Octets)
  | closedBy (word : Octets)
  | notNumber
  | divisionByZero
  | regex (f : RegexFault)
  deriving DecidableEq, Repr

def Fault.text (f : Fault) : Octets :=
  match f with
  | .missingArgument w => "syntax error: missing argument after ".toList ++ quoted w
  | .unexpected w => "syntax error: unexpected argument ".toList ++ quoted w
  | .unexpectedClose => "syntax error: unexpected ')'".toList
  | .notClosed w => "syntax error: expecting ')' after ".toList ++ quoted w
  | .closedBy w => "syntax error: expecting ')' instead of ".toList ++ quoted w
  | .notNumber => "non-integer argument".toList
  | .divisionByZero => "division by zero".toList
  | .regex f => f.text.toList

/-- Words with the one before them, for complaints. -/
structure Place where
  before : Octets := []
  words : List Octets

abbrev Reading := StateT Place (Except Fault)

/-- Takes a word if it is one of some. -/
def taken? (options : List String) : Reading (Option String) := do
  let p ← get
  match p.words with
  | w :: more =>
    if options.contains (String.ofList w) then
      set ({ before := w, words := more } : Place)
      return some (String.ofList w)
    else return none
  | [] => return none

def next : Reading Octets := do
  let p ← get
  match p.words with
  | w :: more =>
    set ({ before := w, words := more } : Place)
    return w
  | [] => throw (.missingArgument p.before)

/-- A whole number, as an operand has to be. -/
def number? (cs : Octets) : Option Int :=
  if cs.head? = some '+' then none else Octets.int? cs

def isNull (cs : Octets) : Bool :=
  cs.isEmpty || (match number? cs with | some n => n = 0 | none => false)

def truth (b : Bool) : Octets :=
  if b then ['1'] else ['0']

/-- What a pattern matches at the front: the text of its first group, or how much it is. -/
def matched (text pattern : Octets) : Except Fault Octets :=
  match Regex.read .basic pattern with
  | .error e => .error (.regex e)
  | .ok r =>
    let p := Regex.program r {}
    let cs := text.toArray
    match (p.matchAt? cs {} 0).2 with
    | some f => .ok (if 0 < r.groups then f.group cs 1 else Octets.ofNat f.stop)
    | none => .ok (if 0 < r.groups then [] else ['0'])

/-- Operators by how tightly they bind, the loosest first. -/
def operators (level : Nat) : List String :=
  match level with
  | 0 => ["|"]
  | 1 => ["&"]
  | 2 => ["<", "<=", "=", "==", "!=", ">=", ">"]
  | 3 => ["+", "-"]
  | 4 => ["*", "/", "%"]
  | _ => [":"]

def compared (op : String) (o : Ordering) : Bool :=
  match op with
  | "<" => o = .lt
  | "<=" => o ≠ .gt
  | "!=" => o ≠ .eq
  | ">=" => o ≠ .lt
  | ">" => o = .gt
  | _ => o = .eq

def applied (op : String) (a b : Octets) : Except Fault Octets :=
  let numbers (f : Int → Int → Except Fault Int) : Except Fault Octets :=
    match number? a, number? b with
    | some x, some y => (f x y).map Octets.ofInt
    | _, _ => .error .notNumber
  match op with
  | "|" => .ok (if !isNull a then a else if !isNull b then b else ['0'])
  | "&" => .ok (if isNull a || isNull b then ['0'] else a)
  | "+" => numbers fun x y => .ok (x + y)
  | "-" => numbers fun x y => .ok (x - y)
  | "*" => numbers fun x y => .ok (x * y)
  | "/" => numbers fun x y => if y = 0 then .error .divisionByZero else .ok (x.tdiv y)
  | "%" => numbers fun x y => if y = 0 then .error .divisionByZero else .ok (x.tmod y)
  | ":" => matched a b
  | op =>
    match number? a, number? b with
    | some x, some y => .ok (truth (compared op (compare x y)))
    | _, _ => .ok (truth (compared op (Octets.order a b)))

/-- Operands of one level with what follows them; the next level reads an operand. -/
def chain (level : Nat) (operand : Reading Octets) : Nat → Octets → Reading Octets
  | 0, value => return value
  | fuel + 1, value => do
    match ← taken? (operators level) with
    | none => return value
    | some op =>
      let right ← operand
      match applied op value right with
      | .ok v => chain level operand fuel v
      | .error e => throw e

mutual

/-- The value of words from a level on; the fuel bounds how deep parentheses go. -/
def value (size : Nat) : Nat → Nat → Reading Octets
  | 0, _ => next
  | fuel + 1, level =>
    if level = 6 then primary size fuel
    else do
      let first ← value size fuel (level + 1)
      chain level (value size fuel (level + 1)) size first

/-- A word, a call, or something in parentheses. -/
def primary (size : Nat) : Nat → Reading Octets
  | 0 => next
  | fuel + 1 => do
    match ← taken? ["+", "length", "match", "index", "substr", "(", ")"] with
    | none => next
    | some "+" => next
    | some ")" => throw .unexpectedClose
    | some "(" =>
      let v ← value size fuel 0
      match (← get).words with
      | [')'] :: more =>
        set ({ before := [')'], words := more } : Place)
        return v
      | w :: _ => throw (.closedBy w)
      | [] => throw (.notClosed (← get).before)
    | some "length" =>
      return Octets.ofNat (← value size fuel 6).length
    | some "match" =>
      let a ← value size fuel 6
      let b ← value size fuel 6
      match matched a b with
      | .ok v => return v
      | .error e => throw e
    | some "index" =>
      let a ← value size fuel 6
      let b ← value size fuel 6
      return Octets.ofNat (((a.findIdx? b.contains).map (· + 1)).getD 0)
    | some _ =>
      let a ← value size fuel 6
      let start ← value size fuel 6
      let count ← value size fuel 6
      match number? start, number? count with
      | some p, some n =>
        return if p ≤ 0 ∨ n ≤ 0 then [] else (a.drop (p.toNat - 1)).take n.toNat
      | _, _ => return []

end

def expr : Job Unit := do
  let c ← call
  if c.args.isEmpty then missingOperand 2
  let words := if c.args.head? = some ['-', '-'] then c.args.drop 1 else c.args
  let size := c.args.length + 1
  match (value size (8 * size + 8) 0).run { words } with
  | .error e => fail 2 e.text
  | .ok (v, p) =>
    if let w :: _ := p.words then fail 2 (Fault.unexpected w).text
    line v
    setStatus (if isNull v then 1 else 0)

/-! ### Conditions -/

inductive TestFault where
  | extraArgument (word : Octets)
  | missingArgument (after : Octets)
  | binaryExpected (word : Octets)
  | unaryExpected (word : Octets)
  | badNumber (word : Octets)
  | closingExpected (found : Octets)
  deriving DecidableEq, Repr

def TestFault.text (f : TestFault) : Octets :=
  match f with
  | .extraArgument w => "extra argument ".toList ++ quoted w
  | .missingArgument w => "missing argument after ".toList ++ quoted w
  | .binaryExpected w => quoted w ++ ": binary operator expected".toList
  | .unaryExpected w => quoted w ++ ": unary operator expected".toList
  | .badNumber w => "invalid integer ".toList ++ quoted w
  | .closingExpected w => "')' expected, found ".toList ++ w

abbrev Test := Except TestFault

def isBinary (w : Octets) : Bool :=
  Condition.isBinary w || w = ['=', '=']

def isUnary (w : Octets) : Bool :=
  Condition.unaryOperators.contains (String.ofList w)

/-- A value of a condition, with its faults in other words. -/
def converted (a : Condition.Answer) : Test Bool :=
  match a with
  | .ok b => .ok b
  | .error (.illegalNumber w) => .error (.badNumber w)
  | .error _ => .ok false

def unary (s : Condition.Surroundings) (op w : Octets) : Test Bool :=
  converted (Condition.unary s (String.ofList op) w)

def binary (s : Condition.Surroundings) (op a b : Octets) : Test Bool :=
  let trimmed (w : Octets) : Octets :=
    Octets.dropEndWhile Octets.isSpace (w.dropWhile Octets.isSpace)
  let op := if op = ['=', '='] then ['='] else op
  match Octets.int? (trimmed a), Octets.int? (trimmed b) with
  | some x, some y =>
    match String.ofList op with
    | "-eq" => .ok (x = y)
    | "-ne" => .ok (x ≠ y)
    | "-ge" => .ok (x ≥ y)
    | "-gt" => .ok (x > y)
    | "-le" => .ok (x ≤ y)
    | "-lt" => .ok (x < y)
    | op => converted (Condition.binary s op a b)
  | _, _ => converted (Condition.binary s (String.ofList op) a b)

mutual

/-- Alternatives of conditions at the front of words. -/
def disjunction (s : Condition.Surroundings) (before : Octets) :
    Nat → List Octets → Test (Bool × List Octets)
  | 0, ws => .ok (false, ws)
  | fuel + 1, ws => do
    let (v, rest) ← conjunction s before fuel ws
    match rest with
    | ['-', 'o'] :: more =>
      let (u, rest) ← disjunction s ['-', 'o'] fuel more
      return (v || u, rest)
    | rest => return (v, rest)

def conjunction (s : Condition.Surroundings) (before : Octets) :
    Nat → List Octets → Test (Bool × List Octets)
  | 0, ws => .ok (false, ws)
  | fuel + 1, ws => do
    let (v, rest) ← term s before fuel ws
    match rest with
    | ['-', 'a'] :: more =>
      let (u, rest) ← conjunction s ['-', 'a'] fuel more
      return (v && u, rest)
    | rest => return (v, rest)

def term (s : Condition.Surroundings) (before : Octets) :
    Nat → List Octets → Test (Bool × List Octets)
  | 0, ws => .ok (false, ws)
  | fuel + 1, ws =>
    match ws with
    | [] => .error (.missingArgument before)
    | ['!'] :: more => (term s ['!'] fuel more).map fun (v, rest) => (!v, rest)
    | ['('] :: more => do
      let (v, rest) ← disjunction s ['('] fuel more
      match rest with
      | [')'] :: rest => return (v, rest)
      | w :: _ => throw (.closingExpected w)
      | [] => throw (.missingArgument (ws.getLast?.getD []))
    | a :: op :: b :: more =>
      if isBinary op then (binary s op a b).map (·, more)
      else if isUnary a then (unary s a op).map (·, b :: more)
      else .ok (!a.isEmpty, op :: b :: more)
    | [a, b] =>
      if isUnary a then (unary s a b).map (·, [])
      else if isBinary b then .error (.missingArgument b)
      else .ok (!a.isEmpty, [b])
    | [a] => .ok (!a.isEmpty, [])

end

/-- The value of all words. -/
def whole (s : Condition.Surroundings) (ws : List Octets) : Test Bool := do
  let (v, rest) ← disjunction s [] (4 * ws.length + 8) ws
  match rest with
  | [] => return v
  | w :: _ => throw (.extraArgument w)

/-- The value of up to two words. -/
def short (s : Condition.Surroundings) (ws : List Octets) : Test Bool :=
  match ws with
  | [] => .ok false
  | [a] => .ok (!a.isEmpty)
  | [['!'], b] => .ok b.isEmpty
  | [a, b] =>
    if isUnary a then unary s a b
    else if a.length = 2 && a.head? = some '-' then .error (.unaryExpected a)
    else .error (.missingArgument b)
  | ws => whole s ws

def three (s : Condition.Surroundings) (ws : List Octets) : Test Bool :=
  match ws with
  | [a, op, b] =>
    if isBinary op then binary s op a b
    else if a = ['!'] then (short s [op, b]).map (!·)
    else if a = ['('] && b = [')'] then .ok (!op.isEmpty)
    else if op = ['-', 'a'] || op = ['-', 'o'] then whole s ws
    else .error (.binaryExpected op)
  | ws => short s ws

/-- The value of a condition by the number of its words. -/
def condition (s : Condition.Surroundings) (ws : List Octets) : Test Bool :=
  match ws with
  | [['!'], a, b, c] => (three s [a, b, c]).map (!·)
  | [['('], a, b, [')']] => short s [a, b]
  | [_, _, _] => three s ws
  | _ :: _ :: _ :: _ => whole s ws
  | ws => short s ws

/-- The condition of the arguments as a status; under one name a closing bracket has to be the last
of them. -/
def test (bracket : Bool) : Job Unit := do
  let c ← call
  let words ← if bracket then
      match c.args.getLast? with
      | some [']'] => pure c.args.dropLast
      | _ => fail 2 "missing ']'".toList
    else pure c.args
  match condition ⟨c.files, c.directory, c.streams⟩ words with
  | .ok v => setStatus (if v then 0 else 1)
  | .error e => fail 2 e.text

end KeyRelay.Tools.Evaluation
