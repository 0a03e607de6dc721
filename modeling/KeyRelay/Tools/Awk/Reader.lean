import KeyRelay.Tools.Awk.Token

/-!
Reading programs. Operators bind by their levels; where a greater-than sign sends output to a file,
or the word that asks for keys belongs to a loop, they end an expression.
-/

namespace KeyRelay.Tools.Awk
open Shell

abbrev Reading := StateT (List (Token × Nat)) (Except (Nat × Fault))

namespace Reading

def peek : Reading Token := do
  return match ← get with
    | (t, _) :: _ => t
    | [] => .ending

def line : Reading Nat := do
  return match ← get with
    | (_, n) :: _ => n
    | [] => 1

def fail {α : Type} (f : Fault) : Reading α := do
  throw (← line, f)

/-- Refuses the token at hand. -/
def refuse {α : Type} : Reading α := do
  match ← peek with
  | .ending => fail .missingBrace
  | .mark ")" => fail (.extra ')')
  | t => fail (.unexpected t.shown)

def drop : Reading Unit :=
  modify (·.drop 1)

def isMark (s : String) : Reading Bool := do
  return match ← peek with
    | .mark m => m = s
    | _ => false

def isWord (s : String) : Reading Bool := do
  return match ← peek with
    | .word w => w = s
    | _ => false

/-- Takes a mark if it is there. -/
def tookMark (s : String) : Reading Bool := do
  if ← isMark s then
    drop
    return true
  return false

def tookWord (s : String) : Reading Bool := do
  if ← isWord s then
    drop
    return true
  return false

def expect (s : String) : Reading Unit := do
  if !(← tookMark s) then
    if s = ")" then
      match ← peek with
      | .ending => fail .missingBrace
      | .mark "\x7d" => fail (.missingClose ['\x7d'])
      | .mark ";" => fail (.missingClose [';'])
      | _ => refuse
    else refuse

def skipLines : Nat → Reading Unit
  | 0 => return ()
  | fuel + 1 => do
    match ← peek with
    | .lineEnd =>
      drop
      skipLines fuel
    | _ => return ()

/-- Line ends, and semicolons among them. -/
def skipEnds : Nat → Reading Unit
  | 0 => return ()
  | fuel + 1 => do
    match ← peek with
    | .lineEnd | .mark ";" =>
      drop
      skipEnds fuel
    | _ => return ()

def size : Reading Nat := do
  return (← get).length + 1

/-- Tries to read something, and goes back where that fails. -/
def tried {α : Type} (r : Reading α) : Reading (Option α) := fun s =>
  match r s with
  | .ok (a, t) => .ok (some a, t)
  | .error _ => .ok (none, s)

end Reading

open Reading

/-- Where an expression stands: which operators do not belong to it. -/
structure Context where
  noIn : Bool := false
  noGreater : Bool := false

def isTarget (e : Expr) : Bool :=
  match e with
  | .var _ | .item .. | .field _ => true
  | _ => false

/-- Whether a token can begin an operand that is joined to the one before it. -/
def beginsOperand (t : Token) : Bool :=
  match t with
  | .number .. | .text _ | .regex _ | .name _ | .call _ => true
  | .word s => (Builtin.named.find? fun e => e.1 = s).isSome
  | .mark s => s = "$" || s = "(" || s = "!" || s = "-" || s = "+" || s = "++" || s = "--"
  | _ => false

def relation? (c : Context) (s : String) : Option Relation :=
  match s with
  | "<" => some .lt
  | "<=" => some .le
  | "==" => some .eq
  | "!=" => some .ne
  | ">=" => some .ge
  | ">" => if c.noGreater then none else some .gt
  | _ => none

def assignment? (s : String) : Option (Option Arith) :=
  match s with
  | "=" => some none
  | "+=" => some (some .add)
  | "-=" => some (some .sub)
  | "*=" => some (some .mul)
  | "/=" => some (some .div)
  | "%=" => some (some .mod)
  | "^=" => some (some .pow)
  | _ => none

def product? (s : String) : Option Arith :=
  match s with
  | "*" => some .mul
  | "/" => some .div
  | "%" => some .mod
  | _ => none

def regexOf (cs : Octets) : Reading Regex.Program := do
  match Regex.read .plain cs with
  | .ok r => return Regex.program r {}
  | .error e => fail (.regex e cs)

mutual

/-- An expression, assignments among them. -/
def expr : Nat → Context → Reading Expr
  | 0, _ => refuse
  | fuel + 1, c => do
    let left ← choice fuel c
    match ← peek with
    | .mark m =>
      match if isTarget left then assignment? m else none with
      | some op =>
        drop
        return .assign op left (← expr fuel c)
      | none => return left
    | _ => return left

def choice : Nat → Context → Reading Expr
  | 0, _ => refuse
  | fuel + 1, c => do
    let cond ← operands fuel c 0
    if ← tookMark "?" then
      skipLines (← size)
      let a ← expr fuel c
      skipLines (← size)
      expect ":"
      skipLines (← size)
      return .choice cond a (← expr fuel c)
    return cond

/-- Operands of a level and the operators between them; greater levels bind more tightly. -/
def operands : Nat → Context → Nat → Reading Expr
  | 0, _, _ => refuse
  | fuel + 1, c, level => do
    if level = 8 then prefixed fuel c
    else
      let first ← operands fuel c (level + 1)
      more fuel c level first

/-- What follows an operand of a level. -/
def more : Nat → Context → Nat → Expr → Reading Expr
  | 0, _, _, _ => refuse
  | fuel + 1, c, level, left => do
    let t ← peek
    match level, t with
    | 0, .mark "||" =>
      drop
      skipLines (← size)
      more fuel c level (.or left (← operands fuel c 1))
    | 1, .mark "&&" =>
      drop
      skipLines (← size)
      more fuel c level (.and left (← operands fuel c 2))
    | 2, .word "in" =>
      if c.noIn then return left
      drop
      match ← peek with
      | .name table =>
        drop
        more fuel c level (.isKey [left] table)
      | _ => refuse
    | 3, .mark "~" =>
      drop
      more fuel c level (.matches false left (← operands fuel c 4))
    | 3, .mark "!~" =>
      drop
      more fuel c level (.matches true left (← operands fuel c 4))
    | 4, .mark "|" =>
      match (← get).drop 1 with
      | (.word "getline", _) :: _ =>
        drop
        drop
        more fuel c level (.getline (← target? fuel c) .command [left])
      | _ => return left
    | 4, .mark m =>
      if m = ">=" && c.noGreater then fail (.unexpected ['='])
      match relation? c m with
      | some op =>
        drop
        return .compare op left (← operands fuel c 5)
      | none => return left
    | 5, t =>
      match t with
      | .mark "-" | .mark "+" | .mark "!" => return left
      | t =>
        if beginsOperand t then more fuel c level (.append left (← operands fuel c 6))
          else return left
    | 6, .mark "+" =>
      drop
      more fuel c level (.arith .add left (← operands fuel c 7))
    | 6, .mark "-" =>
      drop
      more fuel c level (.arith .sub left (← operands fuel c 7))
    | 7, .mark m =>
      match product? m with
      | some op =>
        drop
        more fuel c level (.arith op left (← operands fuel c 8))
      | none => return left
    | _, _ => return left

/-- An operand with what may stand in front of it. -/
def prefixed : Nat → Context → Reading Expr
  | 0, _ => refuse
  | fuel + 1, c => do
    if ← tookMark "!" then return .not (← prefixed fuel c)
    else if ← tookMark "-" then return .negated (← prefixed fuel c)
    else if ← tookMark "+" then return .positive (← prefixed fuel c)
    else
      let base ← counted fuel c
      if ← tookMark "^" then return .arith .pow base (← prefixed fuel c)
      return base

/-- An operand that may be counted up or down. -/
def counted : Nat → Context → Reading Expr
  | 0, _ => refuse
  | fuel + 1, c => do
    if ← tookMark "++" then
      let e ← primary fuel c
      if isTarget e then return .count true true e else refuse
    else if ← tookMark "--" then
      let e ← primary fuel c
      if isTarget e then return .count true false e else refuse
    else
      let e ← primary fuel c
      if !isTarget e then return e
      else if ← tookMark "++" then return .count false true e
      else if ← tookMark "--" then return .count false false e
      else return e

/-- A target behind a word that reads a line. -/
def target? : Nat → Context → Reading (List Expr)
  | 0, _ => return []
  | fuel + 1, c => do
    match ← peek with
    | .name _ | .mark "$" => return [← primary fuel c]
    | _ => return []

/-- Expressions with commas between them, up to a closing mark. -/
def listed : Nat → Reading (List Expr)
  | 0 => refuse
  | fuel + 1 => do
    let e ← expr fuel {}
    skipLines (← size)
    if ← tookMark "," then
      skipLines (← size)
      return e :: (← listed fuel)
    return [e]

/-- Arguments behind an opening parenthesis. -/
def arguments : Nat → Reading (List Expr)
  | 0 => refuse
  | fuel + 1 => do
    if ← tookMark ")" then return []
    let es ← listed fuel
    expect ")"
    return es

def primary : Nat → Context → Reading Expr
  | 0, _ => refuse
  | fuel + 1, c => do
    match ← peek with
    | .number x _ =>
      drop
      return .number x
    | .text cs =>
      drop
      return .text cs
    | .regex cs =>
      let p ← regexOf cs
      drop
      return .regex p
    | .name s =>
      drop
      if ← tookMark "[" then
        let keys ← listed fuel
        expect "]"
        return .item s keys
      return .var s
    | .call s =>
      drop
      drop
      return .call s (← arguments fuel)
    | .word "getline" =>
      drop
      let target ← target? fuel c
      if ← tookMark "<" then return .getline target .file [← counted fuel c]
      return .getline target .main []
    | .word s =>
      match (Builtin.named.find? fun e => e.1 = s).map (·.2) with
      | none => refuse
      | some b =>
        drop
        if ← tookMark "(" then return .builtin b (← arguments fuel)
        else if b = .length then return .builtin b []
        else refuse
    | .mark "$" =>
      drop
      if ← tookMark "++" then return .field (.count true true (← primary fuel c))
      else if ← tookMark "--" then return .field (.count true false (← primary fuel c))
      else if ← tookMark "-" then return .field (.negated (← primary fuel c))
      else return .field (← primary fuel c)
    | .mark "(" =>
      drop
      skipLines (← size)
      let es ← listed fuel
      expect ")"
      match es with
      | [e] => return .group e
      | es =>
        if ← tookWord "in" then
          match ← peek with
          | .name table =>
            drop
            return .isKey es table
          | _ => refuse
        else refuse
    | .mark "-" =>
      drop
      return .negated (← primary fuel c)
    | _ => refuse

end

/-! ### Statements -/

/-- Where printed text is sent, if it is. -/
def outlet? (fuel : Nat) : Reading (Option (Outlet × Expr)) := do
  let kind : Option Outlet ← do
    if ← tookMark ">" then pure (some .file)
    else if ← tookMark ">>" then pure (some .append)
    else if ← tookMark "|" then pure (some .command)
    else pure none
  match kind with
  | none => return none
  | some k => return some (k, ← operands fuel { noGreater := true } (if k = .command then 5 else 8))

/-- Whether nothing more is printed. -/
def endsPrint : Reading Bool := do
  return match ← peek with
    | .lineEnd | .ending => true
    | .mark m => m = ";" || m = "\x7d" || m = ">" || m = ">>" || m = "|"
    | _ => false

/-- What is printed: a list in parentheses, or expressions in which a greater-than sign does not
compare. -/
def printed (fuel : Nat) : Reading (List Expr) := do
  if ← endsPrint then return []
  let inParens ← if ← isMark "(" then
      tried (do
        drop
        let es ← listed fuel
        expect ")"
        if ← endsPrint then return es else refuse)
    else pure none
  match inParens with
  | some es => return es
  | none => bare fuel
where
  bare : Nat → Reading (List Expr)
    | 0 => refuse
    | fuel + 1 => do
      let e ← expr fuel { noGreater := true }
      if ← tookMark "," then
        skipLines (← size)
        return e :: (← bare fuel)
      return [e]

/-- The end of a simple statement. -/
def endSimple : Reading Unit := do
  match ← peek with
  | .lineEnd | .mark ";" => drop
  | .mark "\x7d" => return ()
  | .ending => fail .missingBrace
  | _ => refuse

/-- An expression unless the statement ends. -/
def optional (fuel : Nat) : Reading (Option Expr) := do
  match ← peek with
  | .lineEnd | .mark ";" | .mark "\x7d" | .ending => return none
  | _ => return some (← expr fuel {})

/-- A statement that has no other in it. -/
def simple (fuel : Nat) : Reading Statement := do
  if ← tookWord "print" then
    let es ← printed fuel
    return .print es (← outlet? fuel)
  else if ← tookWord "printf" then
    let es ← printed fuel
    if es.isEmpty then refuse
    return .printf es (← outlet? fuel)
  else if ← tookWord "delete" then
    match ← peek with
    | .name s =>
      drop
      if ← tookMark "[" then
        let keys ← listed fuel
        expect "]"
        return .delete s keys
      return .deleteAll s
    | _ => refuse
  else return .expr (← expr fuel {})

mutual

def statement : Nat → Reading Statement
  | 0 => refuse
  | fuel + 1 => do
    match ← peek with
    | .mark "\x7b" =>
      drop
      let ss ← statements fuel
      expect "\x7d"
      return .block ss
    | .mark ";" =>
      drop
      return .block []
    | .word "if" =>
      drop
      let c ← condition fuel
      let a ← statement fuel
      let before ← get
      skipEnds (← size)
      if ← tookWord "else" then
        skipLines (← size)
        return .ifElse c a (← statement fuel)
      set before
      return .ifElse c a (.block [])
    | .word "while" =>
      drop
      let c ← condition fuel
      return .while c (← statement fuel)
    | .word "do" =>
      drop
      skipLines (← size)
      let body ← statement fuel
      skipEnds (← size)
      if !(← tookWord "while") then refuse
      let c ← condition fuel
      return .doWhile body c
    | .word "for" =>
      drop
      loop fuel
    | .word "next" => plain .next
    | .word "nextfile" => plain .nextFile
    | .word "break" => plain .break
    | .word "continue" => plain .continue
    | .word "exit" =>
      drop
      let e ← optional fuel
      endSimple
      return .exit e
    | .word "return" =>
      drop
      let e ← optional fuel
      endSimple
      return .return e
    | _ =>
      let s ← simple fuel
      endSimple
      return s
where
  plain (s : Statement) : Reading Statement := do
    drop
    endSimple
    return s

/-- A condition in parentheses. -/
def condition : Nat → Reading Expr
  | 0 => refuse
  | fuel + 1 => do
    expect "("
    let c ← expr fuel {}
    expect ")"
    skipLines (← size)
    return c

/-- What follows the word of a loop over keys or over values. -/
def loop : Nat → Reading Statement
  | 0 => refuse
  | fuel + 1 => do
    expect "("
    match (← get).take 4 with
    | [(.name s, _), (.word "in", _), (.name table, _), (.mark ")", _)] =>
      modify (·.drop 4)
      skipLines (← size)
      return .forIn s table (← statement fuel)
    | _ =>
      let init ← if ← isMark ";" then pure (.block []) else simple fuel
      expect ";"
      skipLines (← size)
      let c ← if ← isMark ";" then pure none else pure (some (← expr fuel {}))
      expect ";"
      skipLines (← size)
      let step ← if ← isMark ")" then pure (.block []) else simple fuel
      expect ")"
      skipLines (← size)
      return .for init c step (← statement fuel)

/-- Statements up to a closing brace. -/
def statements : Nat → Reading (List Statement)
  | 0 => refuse
  | fuel + 1 => do
    skipEnds (← size)
    match ← peek with
    | .mark "\x7d" => return []
    | .ending => fail .missingBrace
    | _ =>
      let s ← statement fuel
      return s :: (← statements fuel)

end

/-! ### Programs -/

def action (fuel : Nat) : Reading Statement := do
  expect "\x7b"
  let ss ← statements fuel
  expect "\x7d"
  return .block ss

def parameters : Nat → Reading (List String)
  | 0 => refuse
  | fuel + 1 => do
    skipLines (← size)
    match ← peek with
    | .mark ")" =>
      drop
      return []
    | .name s =>
      drop
      skipLines (← size)
      let _ ← tookMark ","
      return s :: (← parameters fuel)
    | _ => refuse

/-- One rule or function. -/
def element (fuel : Nat) (p : Program) : Reading Program := do
  let rule (pattern : Pattern) : Reading Program := do
    if ← isMark "\x7b" then
      let a ← action fuel
      return { p with rules := p.rules ++ [(pattern, some a)] }
    return { p with rules := p.rules ++ [(pattern, none)] }
  match ← peek with
  | .word "BEGIN" =>
    drop
    if !(← isMark "\x7b") then refuse
    rule .begin
  | .word "END" =>
    drop
    if !(← isMark "\x7b") then refuse
    rule .ending
  | .word "function" | .word "func" =>
    drop
    let name ← match ← peek with
      | .call s =>
        drop
        pure s
      | .name s =>
        drop
        pure s
      | _ => refuse
    expect "("
    let params ← parameters fuel
    skipLines (← size)
    let body ← action fuel
    return { p with functions := p.functions ++ [⟨name, params, body⟩] }
  | .mark "\x7b" => rule .always
  | .mark "\x7d" => fail (.extra '\x7d')
  | _ =>
    let a ← expr fuel {}
    if ← tookMark "," then
      skipLines (← size)
      rule (.range a (← expr fuel {}))
    else rule (.expr a)

def elements (fuel : Nat) : Nat → Program → Reading Program
  | 0, p => return p
  | count + 1, p => do
    skipEnds (← size)
    match ← peek with
    | .ending => return p
    | _ => elements fuel count (← element fuel p)

/-! ### Names and words in their places -/

/-- Whether a name is used as a table or as a value, by the tokens around it; none where both may be
meant. -/
def isTable? (before : List Token) (after : Token) : Option Bool :=
  match before, after with
  | _, .mark "[" => some true
  | .word "in" :: _, _ => some true
  | .word "delete" :: _, _ => some true
  | .mark "," :: _, _ | .mark "(" :: _, _ => none
  | _, _ => some false

/-- The first name that is used in both ways, but for parameters. -/
def conflict? (params : List String) :
    List (String × Bool) → List Token → List (Token × Nat) → Option (Nat × Fault)
  | _, _, [] => none
  | known, before, (t, line) :: more =>
    let after : Token := match more with
      | (next, _) :: _ => next
      | [] => .ending
    let seen : Option (String × Bool) := match t with
      | .name s => if params.contains s then none else (isTable? before after).map (s, ·)
      | _ => none
    match seen with
    | none => conflict? params known (t :: before) more
    | some (s, table) =>
      match known.find? fun (k : String × Bool) => k.1 = s with
      | none => conflict? params ((s, table) :: known) (t :: before) more
      | some (_, was) =>
        if was = table then conflict? params known (t :: before) more
        else
          some (line, .misplaced ("illegal reference to " ++
            (if was then "array " else "variable ") ++ s))

/-- The first word that makes sense in functions, loops or rules for records only, where it has none
around it. -/
def misplaced? (p : Program) (tokens : List (Token × Nat)) : Option (Nat × Fault) :=
  let places : List (Statement × Bool × Bool) :=
    p.functions.map (fun f => (f.body, true, false)) ++
      p.rules.filterMap fun (q, s) => s.map fun s =>
        (s, false, match q with | .begin | .ending => false | _ => true)
  let found := places.findSome? fun (s, inFunction, inRecord) =>
    stray inFunction inRecord 1000 false s
  found.map fun (word, text) =>
    let line := (tokens.find? fun t => match t.1 with | .word w => w = word | _ => false).map (·.2)
    (line.getD 1, .misplaced text)
where
  stray (inFunction inRecord : Bool) : Nat → Bool → Statement → Option (String × String)
    | 0, _, _ => none
    | fuel + 1, inLoop, s =>
      match s with
      | .block ss => ss.findSome? (stray inFunction inRecord fuel inLoop)
      | .ifElse _ a b =>
        (stray inFunction inRecord fuel inLoop a).or (stray inFunction inRecord fuel inLoop b)
      | .while _ b | .doWhile b _ | .for _ _ _ b | .forIn _ _ b =>
        stray inFunction inRecord fuel true b
      | .next => if inRecord then none else some ("next", "improper use of next")
      | .nextFile => if inRecord then none else some ("nextfile", "improper use of nextfile")
      | .return _ => if inFunction then none else some ("return", "return outside function body")
      | .break => if inLoop then none else some ("break", "break statement outside of loop")
      | .continue =>
        if inLoop then none else some ("continue", "continue statement outside of loop")
      | _ => none

/-- Tokens without the first closing mark that has no opening one, and the token behind it. -/
def withoutExtra (c : Char) :
    Nat → List (Token × Nat) → List (Token × Nat) → List (Token × Nat) × Token
  | _, done, [] => (done.reverse, .ending)
  | open', done, (t, line) :: more =>
    let (o, z) : String × String := if c = ')' then ("(", ")") else ("\x7b", "\x7d")
    let isMark (s : String) : Bool := match t with
      | .mark m => m = s
      | .call _ => false
      | _ => false
    if isMark o then withoutExtra c (open' + 1) ((t, line) :: done) more
    else if isMark z then
      if open' = 0 then (done.reverse ++ more, (more.head?.map (·.1)).getD .ending)
      else withoutExtra c (open' - 1) ((t, line) :: done) more
    else withoutExtra c open' ((t, line) :: done) more

/-- Reads tokens; where a closing mark is too much, reading goes on behind it for one more fault. -/
def readTokens : Nat → List (Token × Nat) → Except (List (Nat × Fault)) Program
  | 0, _ => .ok {}
  | fuel + 1, tokens =>
    match (elements (20 * tokens.length + 50) (tokens.length + 1) {}).run tokens with
    | .ok (p, _) => .ok p
    | .error (line, .extra c) =>
      let (others, next) := withoutExtra c 0 [] tokens
      let later := match next, readTokens fuel others with
        | .lineEnd, .ok _ | .ending, .ok _ =>
          if c = '\x7d' then [(line, .unexpected next.shown)] else []
        | _, .ok _ => []
        | _, .error fs => fs
      .error ((line, .extra c) :: later)
    | .error f => .error [f]

/-- Reads a program. -/
def read (cs : Octets) : Except (List (Nat × Fault)) Program := do
  let tokens ← (Token.ofText cs).mapError ([·])
  let p ← readTokens 3 tokens
  let missing := tokens.findSome? fun (t, _) =>
    match t with
    | .call s => if p.functions.any fun f => f.name = s then none else some s
    | _ => none
  match conflict? (p.functions.flatMap (·.params)) [] [] tokens, misplaced? p tokens, missing with
  | some f, _, _ | none, some f, _ => throw [f]
  | none, none, some s => throw [((tokens.getLast?.map (·.2)).getD 1, .neverDefined s)]
  | none, none, none => return p

end KeyRelay.Tools.Awk
