import Std.Data.HashMap
import KeyRelay.Tools.Awk.Reader
import KeyRelay.Tools.Awk.Value
import KeyRelay.Tools.Job

/-!
Running programs that go through records. Names have one table for the whole program and one for
each call of a function; tables of values are kept by number, so that a function can change those of
its caller.
-/

namespace KeyRelay.Tools.Awk
open Shell

/-- A table: values by their keys, with the order in which keys were added. -/
structure Table where
  items : Std.HashMap String (Nat × Value) := {}
  added : Nat := 0
  deriving Inhabited

/-- What a name stands for. -/
inductive Cell where
  | value (v : Value)
  | table (n : Nat)
  /-- Nothing yet; a table of this number, should it become one. -/
  | unused (n : Nat)

/-- Text to be written to a file or a command. -/
structure Written where
  outlet : Outlet
  name : Octets
  pieces : List Octets := []

structure Machine where
  work : Work
  program : Program
  globals : Std.HashMap String Cell := {}
  locals : List (Std.HashMap String Cell) := []
  tables : Array Table := #[]
  record : Octets := []
  fields : Array Octets := #[]
  /-- Fields have been told apart; the record has been put together from them. -/
  isSplit : Bool := true
  isJoined : Bool := true
  /-- Operands that are still to be read. -/
  operands : List Octets := []
  /-- What is left of the input at hand. -/
  input : Option Octets := none
  /-- No operand was a file. -/
  noFile : Bool := true
  /-- What is left of files and of the output of commands, by their names. -/
  readers : List (Octets × Octets) := []
  /-- What was printed but not passed on yet, newest first. -/
  pending : List Octets := []
  /-- What is written to files and commands, that used last in front. -/
  written : List Written := []
  seed : Nat := 1
  /-- For each rule with a range, whether it is on. -/
  ranges : List Nat := []

/-- What ends a statement early. -/
inductive Jump where
  | next
  | exit (status : Nat)
  | broke
  | continued
  | returned (v : Value)
  | fault (text : Octets) (atRun : Bool)
  | endless

/-- A part of the pass of a program over its records. -/
abbrev Pass := EStateM Jump Machine

namespace Pass

/-! ### Names -/

def cell? (name : String) : Pass (Option Cell) := do
  let m ← get
  match m.locals with
  | l :: _ =>
    match l[name]? with
    | some c => return some c
    | none => return m.globals[name]?
  | [] => return m.globals[name]?

def setCell (name : String) (c : Cell) : Pass Unit :=
  modify fun m =>
    match m.locals with
    | l :: more =>
      if l.contains name then { m with locals := l.insert name c :: more }
      else { m with globals := m.globals.insert name c }
    | [] => { m with globals := m.globals.insert name c }

def addTable : Pass Nat := do
  let n := (← get).tables.size
  modify fun m => { m with tables := m.tables.push {} }
  return n

/-- The table that a name stands for. -/
def table (name : String) : Pass Nat := do
  match ← cell? name with
  | some (.table n) => return n
  | some (.unused n) =>
    setCell name (.table n)
    return n
  | some (.value _) => throw (.fault ("illegal reference to variable ".toList ++ name.toList) false)
  | none =>
    let n ← addTable
    setCell name (.table n)
    return n

def scalar (name : String) : Pass Value := do
  match ← cell? name with
  | some (.value v) => return v
  | some (.table _) => throw (.fault ("illegal reference to array ".toList ++ name.toList) false)
  | _ => return .none

/-- The value of a name as text. -/
def textOf (name : String) : Pass Octets := do
  return match ← cell? name with
    | some (.value v) => v.octets "%.6g".toList
    | _ => []

def convfmt : Pass Octets := textOf "CONVFMT"

def text (v : Value) : Pass Octets := do
  match v with
  | .number x =>
    match Value.whole? x with
    | some ds => return ds
    | none => return v.octets (← convfmt)
  | v => return v.octets []

def setGlobal (name : String) (v : Value) : Pass Unit :=
  modify fun m => { m with globals := m.globals.insert name (.value v) }

def globalNumber (name : String) : Pass Float := do
  return match (← get).globals[name]? with
    | some (.value v) => v.float
    | _ => 0.0

/-! ### Regular expressions and fields -/

/-- The expression that a text is, when it is used as one. -/
def regexOf (cs : Octets) : Pass Regex.Program := do
  match Regex.read .plain cs with
  | .ok r => return Regex.program r {}
  | .error e =>
    throw (.fault (Fault.regexText e cs) true)

/-- Pieces of a text between matches. -/
def splitBy (p : Regex.Program) (text : Array Char) : Nat → Nat → Nat → List Octets
  | 0, from', _ => [(text.extract from' text.size).toList]
  | fuel + 1, from', i =>
    match p.search? text i with
    | none => [(text.extract from' text.size).toList]
    | some f =>
      if f.stop = f.start then
        if text.size ≤ f.start then [(text.extract from' text.size).toList]
        else splitBy p text fuel from' (f.start + 1)
      else (text.extract from' f.start).toList :: splitBy p text fuel f.stop f.stop

/-- Pieces of a text by a separator: blanks, a character, or an expression. -/
def pieces (separator cs : Octets) : Pass (List Octets) := do
  match separator with
  | [' '] => return (Octets.splitAt (fun c => Octets.isBlank c || c = '\n') cs).filter (· ≠ [])
  | [] => return cs.map ([·])
  | [c] =>
    return if cs.isEmpty then [] else Octets.splitAt (· = c) cs
  | s =>
    if cs.isEmpty then return [] else return splitBy (← regexOf s) cs.toArray (cs.length + 2) 0 0

def setFieldCount (n : Nat) : Pass Unit :=
  setGlobal "NF" (.ofNat n)

/-- Tells the fields of the record apart. -/
def splitRecord : Pass Unit := do
  let m ← get
  if !m.isSplit then
    let paragraphs := (← textOf "RS").isEmpty
    let separator ← textOf "FS"
    let parts ← if paragraphs && separator ≠ [' '] then do
        let ls := Octets.splitAt (· = '\n') m.record
        let ps ← ls.mapM (pieces separator)
        pure ps.flatten
      else pieces separator m.record
    modify fun m => { m with fields := parts.toArray, isSplit := true }
    setFieldCount parts.length

def setRecord (cs : Octets) : Pass Unit :=
  modify fun m => { m with record := cs, isSplit := false, isJoined := true }

/-- The record, put together from its fields where one was changed. -/
def recordText : Pass Octets := do
  let m ← get
  if m.isJoined then return m.record
  let separator ← textOf "OFS"
  let cs := Octets.joinWith separator m.fields.toList
  modify fun m => { m with record := cs, isJoined := true }
  return cs

def atField {α : Type} (x : Float) : Pass α := do
  throw (.fault ("negative field index $".toList ++ (Value.number x).octets "%.6g".toList) true)

def field (x : Float) : Pass Value := do
  let n := Value.truncated x
  if n < 0 then atField x
  else if n = 0 then return Value.ofInput (← recordText)
  else
    splitRecord
    match (← get).fields[n.toNat - 1]? with
    | some cs => return Value.ofInput cs
    | none => return .none

/-- Makes the record have so many fields. -/
def resize (n : Nat) : Pass Unit := do
  splitRecord
  modify fun m =>
    let fs := m.fields.toList.take n
    { m with fields := (fs ++ List.replicate (n - fs.length) []).toArray, isJoined := false }
  setFieldCount n

def setField (x : Float) (v : Value) : Pass Unit := do
  let n := Value.truncated x
  let cs ← text v
  if n < 0 then atField x
  else if n = 0 then
    setRecord cs
    splitRecord
  else
    splitRecord
    if (← get).fields.size < n.toNat then resize n.toNat
    modify fun m => { m with fields := m.fields.setIfInBounds (n.toNat - 1) cs, isJoined := false }

def setVariable (name : String) (v : Value) : Pass Unit := do
  match ← cell? name with
  | some (.table _) => throw (.fault ("illegal reference to array ".toList ++ name.toList) false)
  | _ =>
    if name = "NF" then splitRecord
    setCell name (.value v)
    if name = "NF" then resize (Value.truncated v.float).toNat

/-! ### Records -/

/-- The first record of a text by the separator, and what follows it. -/
def firstRecord? (separator cs : Octets) : Pass (Option (Octets × Octets)) := do
  match separator with
  | [] =>
    let body := cs.dropWhile (· = '\n')
    if body.isEmpty then return none
    let (record, rest) := paragraph (body.length + 1) [] body
    return some (record, rest)
  | [c] =>
    if cs.isEmpty then return none
    let record := cs.takeWhile (· ≠ c)
    return some (record, cs.drop (record.length + 1))
  | s =>
    if cs.isEmpty then return none
    let text := cs.toArray
    match (← regexOf s).search? text 0 with
    | none => return some (if cs.getLast? = some '\n' then cs.dropLast else cs, [])
    | some f =>
      return some ((text.extract 0 f.start).toList, (text.extract f.stop text.size).toList)
where
  /-- Lines up to an empty one. -/
  paragraph : Nat → Octets → Octets → Octets × Octets
    | 0, done, cs => (done.reverse, cs)
    | _ + 1, done, [] => (done.reverse, [])
    | _ + 1, done, '\n' :: '\n' :: rest => (done.reverse, rest)
    | _ + 1, done, ['\n'] => (done.reverse, [])
    | fuel + 1, done, c :: rest => paragraph fuel (c :: done) rest

/-- A variable that is set by an operand. -/
def operandSetting? (cs : Octets) : Option (String × Octets) :=
  let name := cs.takeWhile Regex.isWord
  match cs.drop name.length with
  | '=' :: value => if name.isEmpty || (name.headD '0').isDigit then none
    else some (String.ofList name, value)
  | _ => none

/-- A value from the command line, with its escapes resolved. -/
def settingValue (cs : Octets) : Value :=
  Value.ofInput (Token.resolved (cs.length + 1) cs)

/-- Opens the next input; `false` where there is none. -/
def openInput : Nat → Pass Bool
  | 0 => return false
  | fuel + 1 => do
    let m ← get
    match m.operands with
    | [] =>
      if m.noFile then
        modify fun m =>
          { m with noFile := false, input := some m.work.left, work := { m.work with left := [] } }
        return true
      return false
    | o :: more =>
      set { m with operands := more }
      match operandSetting? o with
      | some (name, value) =>
        setVariable name (settingValue value)
        openInput fuel
      | none =>
        if o.isEmpty then openInput fuel
        else
          modify fun m => { m with noFile := false }
          setGlobal "FILENAME" (.text o)
          setGlobal "FNR" (.number 0.0)
          if o = ['-'] || o = "/dev/stdin".toList then
            modify fun m => { m with input := some m.work.left, work := { m.work with left := [] } }
            return true
          else
            let w := m.work
            match w.files.read w.call.directory o Files.muchOf with
            | .ok cs =>
              modify fun m => { m with input := some cs }
              return true
            | .error .isADirectory =>
              modify fun m => { m with input := some [] }
              return true
            | .error e =>
              throw (.fault ("cannot open \"".toList ++ o ++ "\" (".toList ++ e.octets ++
                [')']) false)

/-- The next record of the main input. -/
def nextRecord? : Nat → Pass (Option Octets)
  | 0 => return none
  | fuel + 1 => do
    match (← get).input with
    | none =>
      if ← openInput ((← get).operands.length + 2) then nextRecord? fuel else return none
    | some cs =>
      match ← firstRecord? (← textOf "RS") cs with
      | some (record, rest) =>
        modify fun m => { m with input := some rest }
        setGlobal "NR" (.number ((← globalNumber "NR") + 1.0))
        setGlobal "FNR" (.number ((← globalNumber "FNR") + 1.0))
        return some record
      | none =>
        modify fun m => { m with input := none }
        nextRecord? fuel

def mainRecord? : Pass (Option Octets) := do
  nextRecord? (2 * (← get).operands.length + 5)

/-! ### Output -/

def out (cs : Octets) : Pass Unit :=
  if cs.isEmpty then return () else modify fun m => { m with pending := cs :: m.pending }

/-- Passes on what was printed, as is done before any command is run. -/
def passOn : Pass Unit :=
  modify fun m =>
    let work := { m.work with printed := m.pending.map (false, ·) ++ m.work.printed }
    { m with work, pending := [] }

/-- Runs a command with some input; what it prints is printed. Gives its status. -/
def runCommand (command input : Octets) : Pass Nat := do
  let m ← get
  let r := m.work.call.shell m.work.files input command
  modify fun m =>
    { m with
      work := { m.work with files := r.files, printed := r.printed.reverse ++ m.work.printed } }
  return r.status

/-- Sends text to where it goes. -/
def send (outlet : Outlet) (name cs : Octets) : Pass Unit := do
  if name = "/dev/stdout".toList || name = ['-'] && outlet ≠ .command then out cs
  else if name = "/dev/stderr".toList then
    modify fun m => { m with work := { m.work with printed := (true, cs) :: m.work.printed } }
  else
    let m ← get
    match m.written.find? fun w => w.name = name with
    | some w =>
      let others := m.written.filter fun w => w.name ≠ name
      set { m with written := { w with pieces := cs :: w.pieces } :: others }
    | none =>
      if outlet = .command then passOn
      let w := m.work
      if outlet = .file then
        match w.files.write w.call.directory name [] (Nat.land 438 (511 - w.call.umask % 512)) with
        | .ok files => modify fun m => { m with work := { m.work with files } }
        | .error e =>
          throw (.fault ("cannot open \"".toList ++ name ++ "\" for output (".toList ++ e.octets ++
            [')']) false)
      modify fun m => { m with written := ⟨outlet, name, [cs]⟩ :: m.written }

/-- Writes what was sent to a file, or runs the command that it was sent to. -/
def flush (w : Written) : Pass Nat := do
  let text := w.pieces.reverse.flatten
  match w.outlet with
  | .command => runCommand w.name text
  | _ =>
    let work := (← get).work
    let before := (work.files.read work.call.directory w.name Files.muchOf).toOption.getD []
    let mode := Nat.land 438 (511 - work.call.umask % 512)
    match work.files.write work.call.directory w.name (before ++ text) mode with
    | .ok files =>
      modify fun m => { m with work := { m.work with files } }
      return 0
    | .error _ => return 1

/-- Ends what is written to or read from a name. -/
def close (name : Octets) : Pass Value := do
  let m ← get
  let ws := m.written.filter fun w => w.name = name
  let known := !ws.isEmpty || m.readers.any fun r => r.1 = name
  let others := m.written.filter fun w => w.name ≠ name
  set { m with written := others, readers := m.readers.filter fun r => r.1 ≠ name }
  let statuses ← ws.mapM flush
  return .number (if known then Float.ofNat (statuses.headD 0) else -1.0)

/-! ### Formats -/

def notEnough {α : Type} (function : String) (layout : Octets) : Pass α :=
  throw (.fault ("not enough arguments passed to ".toList ++ function.toList ++
    "(\"".toList ++ layout ++ "\")".toList) true)

/-- A format carried out with values; text newest first. -/
def formatted (function : String) (layout : Octets) :
    Nat → List Octets → List Value → Nat → Octets → Pass Octets
  | 0, done, _, _, _ => return done.reverse.flatten
  | _ + 1, done, _, _, [] => return done.reverse.flatten
  | fuel + 1, done, vs, n, '%' :: '%' :: rest =>
    formatted function layout fuel (['%'] :: done) vs n rest
  | fuel + 1, done, vs, n, '%' :: rest => do
    let flags := rest.takeWhile fun c => "-+ #0".toList.contains c
    let rest := rest.drop flags.length
    let (width, rest, vs) ← size vs rest
    let (precision, rest, vs) : Option Int × Octets × List Value ← match rest with
      | '.' :: more => do
        let (p, more, vs) ← size vs more
        pure (some (p.getD 0), more, vs)
      | rest => pure (none, rest, vs)
    let rest := rest.dropWhile fun c => c = 'l' || c = 'h' || c = 'L'
    let width := width.getD 0
    let d : Format.Directive :=
      { flags := if width < 0 then '-' :: flags else flags, width := width.natAbs
        precision := precision.bind fun p => if p < 0 then none else some p.toNat }
    match rest with
    | [] => return (('%' :: flags) :: done).reverse.flatten
    | c :: rest =>
      if !("diouxXeEfFgGcs".toList.contains c) then
        throw (.fault ("improper conversion(number ".toList ++ Octets.ofNat (n + 1) ++
          ") in ".toList ++
          function.toList ++ "(\"".toList ++ layout ++ "\")".toList) true)
      match vs with
      | [] => notEnough function layout
      | v :: vs =>
        let cs ← match c with
          | 's' => do pure (d.text (← text v))
          | 'c' => pure (match v with
              | .number x => d.padded [Octets.octet (Value.truncated x).toNat]
              | v => d.padded ((v.octets []).take 1))
          | 'd' | 'i' => pure (d.signed (Value.wide v.float))
          | 'o' | 'u' | 'x' | 'X' =>
            let n := Value.wide v.float
            pure (d.unsigned c (n % 18446744073709551616).toNat)
          | c => pure (Value.floating d c v.float)
        formatted function layout fuel (cs :: done) vs (n + 1) rest
  | fuel + 1, done, vs, n, cs =>
    let plain := cs.takeWhile (· ≠ '%')
    formatted function layout fuel (plain :: done) vs n (cs.drop plain.length)
where
  size (vs : List Value) (cs : Octets) : Pass (Option Int × Octets × List Value) :=
    match cs with
    | '*' :: rest =>
      match vs with
      | v :: vs => return (some (Value.truncated v.float), rest, vs)
      | [] => notEnough function layout
    | cs =>
      let ds := cs.takeWhile Char.isDigit
      return (if ds.isEmpty then none else some (Octets.valueOf 10 ds), cs.drop ds.length, vs)

/-! ### Tables -/

/-- The place of a key in the order of a table. -/
def keyHash (key : String) : Nat :=
  ((Octets.ofText key).foldl (fun (h : UInt32) c => (h ^^^ UInt32.ofNat c.toNat) * 16777619)
    2166136261).toNat % 64

/-- The keys of a table in the order in which they are gone through. -/
def keys (t : Table) : List String :=
  let es := t.items.toList.map fun (k, n, _) => (keyHash k, n, k)
  (es.mergeSort fun a b => a.1 < b.1 || a.1 = b.1 && b.2.1 ≤ a.2.1).map fun e => e.2.2

def insert (t : Nat) (key : String) (v : Value) : Pass Unit :=
  modify fun m =>
    { m with
      tables := m.tables.modify t fun t =>
        match t.items[key]? with
        | some (n, _) => { t with items := t.items.insert key (n, v) }
        | none => { items := t.items.insert key (t.added, v), added := t.added + 1 } }

/-- The item of a key, which is added where it is missing. -/
def item (t : Nat) (key : String) : Pass Value := do
  match ((← get).tables[t]?.getD {}).items[key]? with
  | some (_, v) => return v
  | none =>
    insert t key .none
    return .none

def keyOf (vs : List Value) : Pass String := do
  let cs ← vs.mapM text
  return String.ofList (Octets.joinWith (← textOf "SUBSEP") cs)

/-! ### Functions of the language -/

/-- The part of a text from a place on. -/
def substring (cs : Octets) (start : Float) (count : Option Float) : Octets :=
  let i := Value.truncated start
  match count with
  | none => cs.drop (i.toNat - 1)
  | some n =>
    let n := Value.truncated n
    let n := if i ≤ 0 then n - i else n
    (cs.drop (i.toNat - 1)).take n.toNat

/-- The text that stands for a match: ampersands are the match itself. -/
def matchText (found : Octets) : Nat → Octets → Octets
  | 0, cs => cs
  | _ + 1, [] => []
  | fuel + 1, '\\' :: '&' :: rest => '&' :: matchText found fuel rest
  | fuel + 1, '\\' :: '\\' :: '&' :: rest => '\\' :: found ++ matchText found fuel rest
  | fuel + 1, '\\' :: '\\' :: rest => '\\' :: matchText found fuel rest
  | fuel + 1, '&' :: rest => found ++ matchText found fuel rest
  | fuel + 1, c :: rest => c :: matchText found fuel rest

/-- Replaces matches; gives the pieces of the new text, newest first, and how many there were. -/
def replaced (p : Regex.Program) (by' : Octets) (all : Bool) (text : Array Char) :
    Nat → Nat → Bool → Nat → List Octets → List Octets × Nat
  | 0, _, _, n, done => (done, n)
  | fuel + 1, i, behind, n, done =>
    match p.search? text i with
    | none => ((text.extract i text.size).toList :: done, n)
    | some f =>
      let next : Octets := (text.extract f.stop (f.stop + 1)).toList
      if behind && f.stop = i then
        if next.isEmpty then (done, n)
          else replaced p by' all text fuel (i + 1) false n (next :: done)
      else
        let new := matchText (f.group text 0) (by'.length + 1) by'
        let done := new :: (text.extract i f.start).toList :: done
        if !all then ((text.extract f.stop text.size).toList :: done, n + 1)
        else if f.start < f.stop then replaced p by' all text fuel f.stop true (n + 1) done
        else if next.isEmpty then (done, n + 1)
        else replaced p by' all text fuel (f.stop + 1) false (n + 1) (next :: done)

/-- Functions of numbers and texts alone. -/
def plainBuiltin (b : Builtin) (vs : List Value) : Pass Value := do
  let v (i : Nat) : Value := vs[i]?.getD .none
  let x := (v 0).float
  match b with
  | .substr => return .text (substring (← text (v 0)) (v 1).float (vs[2]?.map Value.float))
  | .index => return .ofNat (((Octets.indexOf? (← text (v 1)) (← text (v 0))).map (· + 1)).getD 0)
  | .sprintf =>
    let layout ← text (v 0)
    return .text (← formatted "sprintf" layout (layout.length + 1) [] (vs.drop 1) 0 layout)
  | .sin => return .number x.sin
  | .cos => return .number x.cos
  | .atan2 => return .number (Float.atan2 x (v 1).float)
  | .exp => return .number x.exp
  | .log => return .number x.log
  | .sqrt => return .number x.sqrt
  | .int => return .number (if x < 0.0 then x.ceil else x.floor)
  | .rand =>
    let n := ((← get).seed * 1103515245 + 12345) % 2147483648
    modify fun m => { m with seed := n }
    return .number (Float.ofNat n / 2147483648.0)
  | .srand =>
    let before := (← get).seed
    modify fun m => { m with seed := if vs.isEmpty then 1 else (Value.truncated x).toNat }
    return .ofNat before
  | .tolower => return .text ((← text (v 0)).map Char.toLower)
  | .toupper => return .text ((← text (v 0)).map Char.toUpper)
  | .system =>
    passOn
    return .ofNat (← runCommand (← text (v 0)) [])
  | .close => close (← text (v 0))
  | .fflush =>
    passOn
    return .number 0.0
  | .systime => return .number 1735689600.0
  | _ => return .none

/-! ### Evaluation -/

/-- Repeats something while it says so; not more often than a bound. -/
def repeated (body : Pass Bool) : Nat → Pass Unit
  | 0 => throw .endless
  | n + 1 => fun m =>
    match body m with
    | .ok true m => repeated body n m
    | .ok false m => .ok () m
    | .error j m => .error j m

/-- The remainder of a division of doubles. -/
def remainder (x y : Float) : Float :=
  if y == 0.0 then 0.0 / 0.0
  else
    let q := x / y
    if q.abs < 9007199254740992.0 then x - y * (if q < 0.0 then q.ceil else q.floor) else 0.0

def power (x y : Float) : Float :=
  Float.pow x y

def applied (op : Arith) (x y : Float) : Float :=
  match op with
  | .add => x + y
  | .sub => x - y
  | .mul => x * y
  | .div => x / y
  | .mod => remainder x y
  | .pow => power x y

def holds (op : Relation) (o : Option Ordering) : Bool :=
  match op, o with
  | .lt, o => o = some .lt
  | .le, o => o = some .lt || o = some .eq
  | .eq, o => o = some .eq
  | .ne, o => o ≠ some .eq
  | .ge, o => o = some .gt || o = some .eq
  | .gt, o => o = some .gt

def plenty : Nat := 1000000

mutual

def eval : Nat → Expr → Pass Value
  | 0, _ => throw (.fault "function call nesting too deep".toList true)
  | fuel + 1, e => do
    match e with
    | .number x => return .number x
    | .text cs => return .text cs
    | .regex p => return .ofBool (p.isFound (← recordText))
    | .var name =>
      if name = "NF" then splitRecord
      scalar name
    | .item name ks =>
      let key ← keyOf (← evalAll fuel ks)
      item (← table name) key
    | .field e => field (← eval fuel e).float
    | .assign none target value =>
      let v ← eval fuel value
      setTarget fuel target v
      return v
    | .assign (some op) target value =>
      let y := (← eval fuel value).float
      let x := (← eval fuel target).float
      let v := Value.number (applied op x y)
      setTarget fuel target v
      return v
    | .count before up target =>
      let x := (← eval fuel target).float
      let new := Value.number (if up then x + 1.0 else x - 1.0)
      setTarget fuel target new
      return if before then new else .number x
    | .choice c a b => if (← eval fuel c).isTrue then eval fuel a else eval fuel b
    | .or a b =>
      if (← eval fuel a).isTrue then return .ofBool true
      return .ofBool (← eval fuel b).isTrue
    | .and a b =>
      if !(← eval fuel a).isTrue then return .ofBool false
      return .ofBool (← eval fuel b).isTrue
    | .not a => return .ofBool !(← eval fuel a).isTrue
    | .negated a => return .number (0.0 - (← eval fuel a).float)
    | .positive a => return .number (← eval fuel a).float
    | .arith op a b =>
      let x := (← eval fuel a).float
      let y := (← eval fuel b).float
      return .number (applied op x y)
    | .compare op a b =>
      let x ← eval fuel a
      let y ← eval fuel b
      return .ofBool (holds op (Value.compare (← convfmt) x y))
    | .matches negated a b =>
      let cs ← text (← eval fuel a)
      let p ← pattern fuel b
      return .ofBool (p.isFound cs ≠ negated)
    | .isKey ks name =>
      let key ← keyOf (← evalAll fuel ks)
      let t ← table name
      return .ofBool (((← get).tables[t]?.getD {}).items.contains key)
    | .append a b =>
      let x ← text (← eval fuel a)
      let y ← text (← eval fuel b)
      return .text (x ++ y)
    | .group e => eval fuel e
    | .call name args => call fuel name args
    | .builtin b args => builtin fuel b args
    | .getline target origin source => getline fuel target origin source

/-- An expression for matching: as it stands, or from a value. -/
def pattern : Nat → Expr → Pass Regex.Program
  | 0, _ => throw .endless
  | fuel + 1, e =>
    match e with
    | .regex p | .group (.regex p) => return p
    | e => do regexOf (← text (← eval fuel e))

def evalAll : Nat → List Expr → Pass (List Value)
  | 0, _ => throw .endless
  | _, [] => return []
  | fuel + 1, e :: es => do
    let v ← eval fuel e
    return v :: (← evalAll fuel es)

def setTarget : Nat → Expr → Value → Pass Unit
  | 0, _, _ => throw .endless
  | fuel + 1, e, v => do
    match e with
    | .var name => setVariable name v
    | .item name ks =>
      let key ← keyOf (← evalAll fuel ks)
      insert (← table name) key v
    | .field e => setField (← eval fuel e).float v
    | .group e => setTarget fuel e v
    | _ => return ()

/-- What parameters of a function stand for: names that are no values are handed over as tables. -/
def bindAll : Nat → List String → List Expr → Pass (List (String × Cell))
  | 0, _, _ => throw .endless
  | _, [], _ => return []
  | fuel + 1, p :: ps, args => do
    let c ← match args with
      | [] => do pure (Cell.unused (← addTable))
      | .var name :: _ => do
        match ← cell? name with
        | some (.table n) => pure (Cell.table n)
        | some (.unused n) => pure (Cell.unused n)
        | none =>
          let n ← addTable
          setCell name (.unused n)
          pure (Cell.unused n)
        | some (.value _) => do pure (Cell.value (← eval fuel (.var name)))
      | e :: _ => do pure (Cell.value (← eval fuel e))
    return (p, c) :: (← bindAll fuel ps (args.drop 1))

def call : Nat → String → List Expr → Pass Value
  | 0, _, _ => throw .endless
  | fuel + 1, name, args => do
    match (← get).program.functions.find? fun f => f.name = name with
    | none => throw (.fault ("function ".toList ++ name.toList ++ " never defined".toList) false)
    | some f =>
      let cells ← bindAll fuel f.params args
      let before := (← get).locals
      -- Names that were handed over unused may have become tables of the caller.
      modify fun m => { m with locals := Std.HashMap.ofList cells :: m.locals }
      let result : Pass Value := fun m =>
        match exec fuel f.body m with
        | .ok () m => .ok .none m
        | .error (.returned v) m => .ok v m
        | .error j m => .error j m
      let v ← result
      modify fun m => { m with locals := before }
      for (arg, cell) in args.zip cells do
        if let (.var a, (_, .unused n)) := (arg, cell) then
          if 0 < ((← get).tables[n]?.getD {}).items.size then setCell a (.table n)
      return v

def builtin : Nat → Builtin → List Expr → Pass Value
  | 0, _, _ => throw .endless
  | fuel + 1, b, args => do
    match b, args with
    | .length, [] => return .ofNat (← recordText).length
    | .length, [.var name] =>
      match ← cell? name with
      | some (.table n) => return .ofNat ((← get).tables[n]?.getD {}).items.size
      | some (.unused _) => return .ofNat 0
      | _ => return .ofNat (← text (← eval fuel (.var name))).length
    | .length, e :: _ => return .ofNat (← text (← eval fuel e)).length
    | .split, s :: .var name :: more =>
      let cs ← text (← eval fuel s)
      let parts ← match more with
        | [] => do pieces (← textOf "FS") cs
        | .regex p :: _ =>
          pure (if cs.isEmpty then [] else splitBy p cs.toArray (cs.length + 2) 0 0)
        | e :: _ => do pieces (← text (← eval fuel e)) cs
      let t ← table name
      let items := parts.zipIdx.map fun (p, i) => (toString (i + 1), i, Value.ofInput p)
      modify fun m =>
        { m with
          tables :=
          m.tables.setIfInBounds t { items := Std.HashMap.ofList items, added := parts.length } }
      return .ofNat parts.length
    | .sub, r :: by' :: more => substitute fuel false r by' more
    | .gsub, r :: by' :: more => substitute fuel true r by' more
    | .match', s :: r :: _ =>
      let cs ← text (← eval fuel s)
      let p ← pattern fuel r
      let (start, size) : Float × Float := match p.search? cs.toArray 0 with
        | some f => (Float.ofNat (f.start + 1), Float.ofNat (f.stop - f.start))
        | none => (0.0, -1.0)
      setGlobal "RSTART" (.number start)
      setGlobal "RLENGTH" (.number size)
      return .number start
    | b, args => plainBuiltin b (← evalAll fuel args)

/-- Replaces matches in a target, or in the record. -/
def substitute : Nat → Bool → Expr → Expr → List Expr → Pass Value
  | 0, _, _, _, _ => throw .endless
  | fuel + 1, all, r, by', more => do
    let p ← pattern fuel r
    let new ← text (← eval fuel by')
    let target := more.headD (.field (.number 0.0))
    let cs := (← text (← eval fuel target)).toArray
    let (done, n) := replaced p new all cs (2 * cs.size + 4) 0 false 0 []
    if n ≠ 0 then setTarget fuel target (.text done.reverse.flatten)
    return .ofNat n

/-- Reads a line; the value tells whether there was one. -/
def getline : Nat → List Expr → Origin → List Expr → Pass Value
  | 0, _, _, _ => throw .endless
  | fuel + 1, target, origin, source => do
    let put (cs : Octets) : Pass Unit :=
      match target with
      | t :: _ => setTarget fuel t (Value.ofInput cs)
      | [] => do
        setRecord cs
        splitRecord
    match origin, source with
    | .main, _ =>
      match ← mainRecord? with
      | some cs =>
        put cs
        return .number 1.0
      | none => return .number 0.0
    | origin, e :: _ =>
      let name ← text (← eval fuel e)
      let m ← get
      let known := (m.readers.find? fun r => r.1 = name).map (·.2)
      let content : Option Octets ← match known, origin with
        | some cs, _ => pure (some cs)
        | none, .command => do
          passOn
          let m ← get
          let r := m.work.call.shell m.work.files [] name
          let complaints := r.printed.filter (·.1)
          modify fun m =>
            { m with
              work :=
              { m.work with files := r.files, printed := complaints.reverse ++ m.work.printed } }
          pure (some ((r.printed.filter fun p => !p.1).flatMap (·.2)))
        | none, _ =>
          if name = ['-'] || name = "/dev/stdin".toList then do
            modify fun m => { m with work := { m.work with left := [] } }
            pure (some m.work.left)
          else pure (m.work.files.read m.work.call.directory name Files.muchOf).toOption
      match content with
      | none => return .number (-1.0)
      | some cs =>
        match ← firstRecord? (← textOf "RS") cs with
        | none =>
          modify fun m => { m with readers := (name, []) :: m.readers.filter fun r => r.1 ≠ name }
          return .number 0.0
        | some (line, rest) =>
          modify fun m => { m with readers := (name, rest) :: m.readers.filter fun r => r.1 ≠ name }
          if origin = .command then setGlobal "NR" (.number ((← globalNumber "NR") + 1.0))
          put line
          return .number 1.0
    | _, [] => return .number (-1.0)

def exec : Nat → Statement → Pass Unit
  | 0, _ => throw (.fault "function call nesting too deep".toList true)
  | fuel + 1, s => do
    match s with
    | .block ss => execAll fuel ss
    | .expr e =>
      let _ ← eval fuel e
    | .print es outlet =>
      let vs ← evalAll fuel es
      let layout ← textOf "OFMT"
      let cs ← if es.isEmpty then recordText
        else pure (Octets.joinWith (← textOf "OFS") (vs.map (·.octets layout)))
      emit fuel (cs ++ (← textOf "ORS")) outlet
    | .printf es outlet =>
      let vs ← evalAll fuel es
      let layout ← text (vs.headD .none)
      emit fuel (← formatted "printf" layout (layout.length + 1) [] (vs.drop 1) 0 layout) outlet
    | .ifElse c a b => if (← eval fuel c).isTrue then exec fuel a else exec fuel b
    | .while c body =>
      repeated (do
        if !(← eval fuel c).isTrue then return false
        turn fuel body) plenty
    | .doWhile body c =>
      repeated (do
        if !(← turn fuel body) then return false
        return (← eval fuel c).isTrue) plenty
    | .for init c step body =>
      exec fuel init
      repeated (do
        if let some c := c then
          if !(← eval fuel c).isTrue then return false
        if !(← turn fuel body) then return false
        exec fuel step
        return true) plenty
    | .forIn name tableName body =>
      let t ← table tableName
      forKeys fuel name body (keys ((← get).tables[t]?.getD {}))
    | .next => throw .next
    | .nextFile =>
      modify fun m => { m with input := some [] }
      throw .next
    | .exit e =>
      let status ← match e with
        | some e => do pure ((Value.truncated (← eval fuel e).float) % 256).toNat
        | none => pure 1000
      throw (.exit status)
    | .return e =>
      let v ← match e with
        | some e => eval fuel e
        | none => pure .none
      throw (.returned v)
    | .break => throw .broke
    | .continue => throw .continued
    | .delete name ks =>
      let key ← keyOf (← evalAll fuel ks)
      let t ← table name
      modify fun m =>
        { m with tables := m.tables.modify t fun t => { t with items := t.items.erase key } }
    | .deleteAll name =>
      let t ← table name
      modify fun m => { m with tables := m.tables.setIfInBounds t {} }

def execAll : Nat → List Statement → Pass Unit
  | 0, _ => throw .endless
  | _, [] => return ()
  | fuel + 1, s :: ss => do
    exec fuel s
    execAll fuel ss

/-- One turn of a loop; whether it goes on. -/
def turn : Nat → Statement → Pass Bool
  | 0, _ => throw .endless
  | fuel + 1, body => fun m =>
    match exec fuel body m with
    | .ok () m => .ok true m
    | .error .broke m => .ok false m
    | .error .continued m => .ok true m
    | .error j m => .error j m

/-- A loop over keys. -/
def forKeys : Nat → String → Statement → List String → Pass Unit
  | 0, _, _, _ => throw .endless
  | fuel + 1, name, body, ks => do
    let mut going := true
    for k in ks do
      if going then
        setVariable name (Value.ofInput k.toList)
        if !(← turn fuel body) then going := false

/-- Sends text to its outlet. -/
def emit : Nat → Octets → Option (Outlet × Expr) → Pass Unit
  | 0, _, _ => throw .endless
  | fuel + 1, cs, outlet => do
    match outlet with
    | none => out cs
    | some (o, e) => send o (← text (← eval fuel e)) cs

end

end Pass

end KeyRelay.Tools.Awk
