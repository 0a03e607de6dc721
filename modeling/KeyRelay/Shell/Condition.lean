import KeyRelay.Shell.Arithmetic
import KeyRelay.Shell.Files

/-!
Conditions: words that ask about texts, numbers and files. A condition is read from its first word;
with three words the middle one decides, and with four words or fewer parentheses around all and a
negation are seen first.
-/

namespace KeyRelay.Shell.Condition

/-- What files are asked about. -/
structure Surroundings where
  files : Files
  directory : Path
  /-- What input, output and complaints lead to. -/
  streams : List StreamKind

/-- The kind of the stream that a name stands for. -/
def Surroundings.stream? (s : Surroundings) (name : Octets) : Option StreamKind :=
  match String.ofList name with
  | "/dev/stdin" => s.streams[0]?
  | "/dev/stdout" => s.streams[1]?
  | "/dev/stderr" => s.streams[2]?
  | _ => none

/-- Why a condition has no value. -/
inductive Fault where
  | unexpected (word : Octets)
  | argumentExpected (word : Octets)
  | closingParen
  | illegalNumber (word : Octets)
  deriving DecidableEq, Repr

def Fault.text : Fault → Octets
  | .unexpected w => (if w.isEmpty then [] else w ++ [':', ' ']) ++ "unexpected operator".toList
  | .argumentExpected w => w ++ ": argument expected".toList
  | .closingParen => "closing paren expected".toList
  | .illegalNumber w => "Illegal number: ".toList ++ w

abbrev Answer := Except Fault Bool

def unaryOperators : List String :=
  ["-r", "-w", "-x", "-e", "-f", "-d", "-c", "-b", "-p", "-u", "-g", "-k", "-s", "-t", "-z", "-n",
    "-h", "-L", "-O", "-G", "-S"]

def binaryOperators : List String :=
  ["=", "!=", "<", ">", "-eq", "-ne", "-ge", "-gt", "-le", "-lt", "-nt", "-ot", "-ef"]

def otherOperators : List String :=
  ["!", "-a", "-o", "(", ")"]

/-- What a word is where an operand or operator may stand. -/
inductive Role where
  | ending
  | unary (s : String)
  | binary (s : String)
  | other (s : String)
  | operand
  deriving DecidableEq, Repr

/-- The operator that a word looks like. -/
def operator? (w : Octets) : Option Role :=
  let s := String.ofList w
  if unaryOperators.contains s then some (.unary s)
  else if binaryOperators.contains s then some (.binary s)
  else if otherOperators.contains s then some (.other s)
  else none

def isBinary (w : Octets) : Bool :=
  match operator? w with
  | some (.binary _) => true
  | _ => false

/-- The role of the first word. A unary operator is an operand where nothing follows it, or a binary
one. -/
def role (ws : List Octets) : Role :=
  match ws with
  | [] => .ending
  | w :: more =>
    match operator? w with
    | none => .operand
    | some (.unary s) =>
      match more with
      | [] => .operand
      | [_] => .unary s
      | next :: _ => if isBinary next then .operand else .unary s
    | some (.other "(") => if more.isEmpty then .operand else .other "("
    | some r => r

/-- A decimal number with blanks around it. -/
def number (w : Octets) : Except Fault Int :=
  let body := Octets.dropEndWhile Octets.isSpace (w.dropWhile Octets.isSpace)
  match Octets.int? body with
  | some n => if n < Octets.least ∨ Octets.greatest < n then .error (.illegalNumber w) else .ok n
  | none => .error (.illegalNumber w)

/-- Questions about one text or file. -/
def unary (s : Surroundings) (op : String) (w : Octets) : Answer :=
  let stream? := s.stream? w
  let node? := ((s.files.find s.directory w).toOption).map (·.2)
  let isNode (f : Inode → Bool) : Answer := .ok ((node?.map f).getD false)
  let isKind (k : StreamKind) (f : Inode → Bool) : Answer :=
    if stream? = some k then .ok true else isNode f
  match op with
  | "-z" => .ok w.isEmpty
  | "-n" => .ok (!w.isEmpty)
  | "-t" => (number w).map fun _ => false
  | "-e" | "-r" | "-w" | "-O" | "-G" => .ok (node?.isSome || stream?.any (· ≠ .closed))
  | "-x" => isNode fun n => n.node = .directory || n.mode % 2 = 1 || n.mode / 8 % 2 = 1 ||
    n.mode / 64 % 2 = 1
  | "-d" => isKind .directory fun n => n.node = .directory
  | "-f" => isKind .file fun n => match n.node with | .regular _ | .tool _ => true | _ => false
  | "-c" => isKind .device fun n => match n.node with | .device _ => true | _ => false
  | "-s" => isNode fun n =>
    match n.node with | .regular cs => !cs.isEmpty | .tool _ | .directory => true | _ => false
  | "-p" => isKind .pipe fun _ => false
  | "-u" => isNode fun n => n.mode / 2048 % 2 = 1
  | "-g" => isNode fun n => n.mode / 1024 % 2 = 1
  | "-k" => isNode fun n => n.mode / 512 % 2 = 1
  | "-h" | "-L" =>
    match s.files.resolve s.directory w false with
    | .ok p => .ok (match s.files.node? p with | some (.link _) => true | _ => false)
    | .error _ => .ok false
  | _ => .ok false

/-- Questions about two texts, numbers or files. -/
def binary (s : Surroundings) (op : String) (a b : Octets) : Answer :=
  let numbers (f : Int → Int → Bool) : Answer := do
    let x ← number a
    let y ← number b
    return f x y
  let stamp? (w : Octets) : Option Nat := ((s.files.find s.directory w).toOption).map (·.2.stamp)
  let index? (w : Octets) : Option Nat :=
    ((s.files.find s.directory w).toOption).bind (s.files.index? ·.1)
  match op with
  | "=" => .ok (a = b)
  | "!=" => .ok (a ≠ b)
  | "<" => .ok (Octets.order a b = .lt)
  | ">" => .ok (Octets.order a b = .gt)
  | "-eq" => numbers (· = ·)
  | "-ne" => numbers (· ≠ ·)
  | "-ge" => numbers (· ≥ ·)
  | "-gt" => numbers (· > ·)
  | "-le" => numbers (· ≤ ·)
  | "-lt" => numbers (· < ·)
  | "-nt" => .ok (match stamp? a, stamp? b with | some x, some y => y < x | _, _ => false)
  | "-ot" => .ok (match stamp? a, stamp? b with | some x, some y => x < y | _, _ => false)
  | _ => .ok (index? a = index? b && (index? a).isSome)

/-- The value of an operand or of an operator with its operands, and the words that follow the last
of them; that last word is kept in front. -/
def primary (s : Surroundings) (self : Role → List Octets → Except Fault (Bool × List Octets))
    (r : Role) (ws : List Octets) : Except Fault (Bool × List Octets) :=
  match r with
  | .ending => .ok (false, ws)
  | .other "(" =>
    let inside := ws.drop 1
    match role inside with
    | .other ")" => .ok (false, inside)
    | r => do
      let (value, ws) ← self r inside
      match role (ws.drop 1) with
      | .other ")" => return (value, ws.drop 1)
      | _ => throw .closingParen
  | .unary op =>
    match ws with
    | _ :: w :: more => (unary s op w).map (·, w :: more)
    | _ => .error (.argumentExpected op.toList)
  | _ =>
    match role (ws.drop 1) with
    | .binary op =>
      match ws with
      | a :: _ :: b :: more => (binary s op a b).map (·, b :: more)
      | _ => .error (.argumentExpected op.toList)
    | _ => .ok (!(ws.headD []).isEmpty, ws)

/-- A primary, or one that is negated. -/
def negation (s : Surroundings) (self : Role → List Octets → Except Fault (Bool × List Octets)) :
    Nat → Role → List Octets → Except Fault (Bool × List Octets)
  | 0, _, ws => .ok (false, ws)
  | fuel + 1, r, ws =>
    if r = .other "!" then
      let next := ws.drop 1
      let r := role next
      (negation s self fuel r (if r = .ending then ws else next)).map fun (v, ws) => (!v, ws)
    else primary s self r ws

/-- Operands of `-a` or `-o`, all of which are evaluated. -/
def chain (op : String) (operand : Role → List Octets → Except Fault (Bool × List Octets))
    (join : Bool → Bool → Bool) :
    Nat → Bool → Role → List Octets → Except Fault (Bool × List Octets)
  | 0, value, _, ws => .ok (value, ws)
  | fuel + 1, value, r, ws => do
    let (v, ws) ← operand r ws
    let value := join value v
    if role (ws.drop 1) = .other op then
      let ws := ws.drop 2
      chain op operand join fuel value (role ws) ws
    else return (value, ws)

/-- A condition from a word whose role is known. -/
def disjunction (s : Surroundings) : Nat → Role → List Octets → Except Fault (Bool × List Octets)
  | 0, _, ws => .ok (false, ws)
  | fuel + 1, r, ws =>
    let size := ws.length + 2
    let conjunction (r : Role) (ws : List Octets) :=
      chain "-a" (negation s (disjunction s fuel) size) (· && ·) size true r ws
    chain "-o" conjunction (· || ·) size false r ws

/-- The value of words from one whose role is known, all of which have to be used. -/
def whole (s : Surroundings) (r : Role) (ws : List Octets) : Answer := do
  let (value, left) ← disjunction s (ws.length + 2) r ws
  match left with
  | w :: _ :: _ => throw (.unexpected w)
  | _ => return value

/-- The value of a condition. -/
def evaluate (s : Surroundings) : Nat → List Octets → Answer
  | 0, _ => .ok false
  | _ + 1, [] => .ok false
  | fuel + 1, ws =>
    match ws with
    | [_, op, _] => if isBinary op then whole s .operand ws else bracketed s fuel ws
    | [_, _, _, _] => bracketed s fuel ws
    | ws => whole s (role ws) ws
where
  /-- Parentheses around all words, or a negation, if they come first. -/
  bracketed (s : Surroundings) (fuel : Nat) (ws : List Octets) : Answer :=
    if ws.head? = some ['('] && ws.getLast? = some [')'] then
      let inside := ws.dropLast.drop 1
      whole s (role inside) inside
    else if ws.head? = some ['!'] then (evaluate s fuel (ws.drop 1)).map (!·)
    else whole s (role ws) ws

end KeyRelay.Shell.Condition
