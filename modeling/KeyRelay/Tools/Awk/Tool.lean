import KeyRelay.Tools.Awk.Run

/-!
The tool that runs programs that go through records.
-/

namespace KeyRelay.Tools.Awk
open Shell Job

/-- What the command line tells. -/
structure Request where
  settings : List (String × Octets) := []
  files : List Octets := []
  separator : Option Octets := none
  operands : List Octets := []

def usageText : String :=
  "Usage: mawk [Options] [Program] [file ...]\n\nProgram:\n" ++
  "    The -f option value is the name of a file containing program text.\n" ++
  "    If no -f option is given, a \"--\" ends option processing; the following\n" ++
  "    parameters are the program text.\n\nOptions:\n" ++
  "    -f program-file  Program  text is read from file instead of from the\n" ++
  "                     command-line.  Multiple -f options are accepted.\n" ++
  "    -F value         sets the field separator, FS, to value.\n" ++
  "    -v var=value     assigns value to program variable var.\n" ++
  "    --               unambiguous end of options.\n"

/-- Reads options up to the first operand. -/
def request : Nat → Request → List Octets → Job Request
  | 0, r, _ => return r
  | fuel + 1, r, args => do
    match args with
    | ['-', '-'] :: more => return { r with operands := more }
    | ('-' :: c :: attached) :: more =>
      let withValue (act : Octets → Job Request) : Job Request := do
        match attached, more with
        | _ :: _, more => request fuel (← act attached) more
        | [], value :: more => request fuel (← act value) more
        | [], [] => fail 2 ("option -".toList ++ [c] ++ " lacks argument".toList)
      match c with
      | 'F' => withValue fun v => return { r with separator := some v }
      | 'f' => withValue fun v => return { r with files := r.files ++ [v] }
      | 'v' => withValue fun v =>
        match Pass.operandSetting? v with
        | some s => return { r with settings := r.settings ++ [s] }
        | none => fail 2 ("improper assignment: -v ".toList ++ v)
      | 'W' => withValue fun _ => return r
      | _ =>
        if c = '-' && "version".toList.isPrefixOf attached then exit 0
        fail 2 ("not an option: -".toList ++ c :: attached)
    | args => return { r with operands := args }

/-- A cell that holds a text. -/
def textCell (s : String) : Cell :=
  .value (.text s.toList)

/-- Variables that every program has. -/
def usual : List (String × Cell) :=
  [("FS", textCell " "), ("OFS", textCell " "), ("ORS", textCell "\n"), ("RS", textCell "\n"),
    ("SUBSEP", textCell "\x1c"), ("CONVFMT", textCell "%.6g"), ("OFMT", textCell "%.6g"),
    ("FILENAME", textCell ""), ("NR", .value (.number 0.0)), ("FNR", .value (.number 0.0)),
    ("NF", .value (.number 0.0)), ("RSTART", .value (.number 0.0)),
    ("RLENGTH", .value (.number (-1.0)))]

def tableOf (items : List (Octets × Value)) : Table where
  items := Std.HashMap.ofList (items.zipIdx.map fun ((k, v), i) => (String.ofList k, i, v))
  added := items.length

/-- The machine before anything is run. -/
def machine (w : Work) (p : Program) (r : Request) (operands : List Octets) : Machine :=
  let words := w.call.name :: operands
  let arguments := words.zipIdx.map fun (a, i) => (Octets.ofNat i, Value.ofInput a)
  let environment := w.call.environment.map fun (n, v) => (n, Value.ofInput v)
  let tables := #[tableOf arguments, tableOf environment]
  let globals : Std.HashMap String Cell := Std.HashMap.ofList
    (usual ++ [("ARGV", Cell.table 0), ("ENVIRON", .table 1),
      ("ARGC", .value (.ofNat words.length))])
  let globals := match r.separator with
    | some v => globals.insert "FS" (.value (.text ((Pass.settingValue v).octets [])))
    | none => globals
  let globals :=
    r.settings.foldl (fun g (n, v) => g.insert n (.value (Pass.settingValue v))) globals
  { work := w, program := p, globals, tables, ranges := [] }

namespace Pass

/-- How deep statements and calls may go. -/
def depth : Nat := 3000

def action (s : Option Statement) : Pass Unit := do
  match s with
  | some s => exec depth s
  | none => out ((← recordText) ++ (← textOf "ORS"))

def isTrue (e : Expr) : Pass Bool := do
  return (← eval depth e).isTrue

/-- Carries out the rules that hold for the record at hand; the index tells ranges apart. -/
def rules : Nat → List (Pattern × Option Statement) → Pass Unit
  | _, [] => return ()
  | i, (p, s) :: more => do
    match p with
    | .begin | .ending => pure ()
    | .always => action s
    | .expr e => if ← isTrue e then action s
    | .range a z =>
      let on ← if (← get).ranges.contains i then pure true else isTrue a
      if on then
        let ends ← isTrue z
        modify fun m =>
          let others := m.ranges.filter (· ≠ i)
          { m with ranges := if ends then others else i :: others }
        action s
    rules (i + 1) more

/-- Goes through all records. -/
def records (p : Program) : Pass Unit :=
  repeated (do
    match ← mainRecord? with
    | none => return false
    | some cs =>
      setRecord cs
      let turn : Pass Unit := fun m =>
        match rules 0 p.rules m with
        | .error .next m => .ok () m
        | r => r
      turn
      return true) 10000000

/-- The whole of a program. -/
def main (p : Program) : Pass Unit := do
  let kind (isKind : Pattern → Bool) : List (Option Statement) :=
    (p.rules.filter fun r => isKind r.1).map (·.2)
  let beginnings := kind fun q => match q with | .begin => true | _ => false
  let endings := kind fun q => match q with | .ending => true | _ => false
  let reads := p.rules.any fun r => match r.1 with | .begin => false | _ => true
  let body : Pass Unit := do
    beginnings.forM action
    if reads then records p
  let ended : Pass (Option Nat) := fun m =>
    match body m with
    | .ok () m => .ok none m
    | .error (.exit n) m => .ok (some n) m
    | .error j m => .error j m
  let status ← ended
  let last : Pass (Option Nat) := fun m =>
    match endings.forM action m with
    | .ok () m => .ok none m
    | .error (.exit n) m => .ok (some n) m
    | .error j m => .error j m
  let later ← if status.isSome && endings.isEmpty then pure none else last
  let told := [later, status].filterMap fun s => s.bind fun n => if n = 1000 then none else some n
  for w in (← get).written do
    let _ ← flush w
  passOn
  modify fun m => { m with work := { m.work with status := told.headD 0 } }

end Pass

/-- A machine with all passed on that was printed. -/
def passedOn (m : Machine) : Machine :=
  match Pass.passOn m with
  | .ok _ m | .error _ m => m

/-- The text of a fault of a run. -/
def runFault (m : Machine) (text : Octets) (atRun : Bool) : Octets :=
  let number (name : String) : Octets := match m.globals[name]? with
    | some (.value v) => v.octets "%.6g".toList
    | _ => ['0']
  if atRun then
    "run time error: ".toList ++ text ++ "\n\tFILENAME=\"".toList ++
      (match m.globals["FILENAME"]? with
        | some (.value v) => if v.octets [] = [] && !m.noFile then ['-'] else v.octets []
        | _ => []) ++
      "\" FNR=".toList ++ number "FNR" ++ " NR=".toList ++ number "NR"
  else text

def awk : Job Unit := do
  let c ← call
  let r ← request (c.args.length + 1) {} c.args
  let (text, operands) ← match r.files, r.operands with
    | [], [] => do
      errorText usageText.toList
      exit 0
    | [], program :: ops => pure (program, ops)
    | files, ops => do
      let parts ← files.mapM fun f => do
        match ← openOperand f Files.muchOf with
        | .ok cs => return cs
        | .error e => fail 2 ("cannot open \"".toList ++ f ++ "\" (".toList ++ e.octets ++ [')'])
      pure (Octets.joinWith ['\n'] parts, ops)
  match read text with
  | .error fs =>
    for (line, f) in fs do warn (f.text line)
    exit 2
  | .ok p =>
    let w ← get
    let m := { machine w p r operands with operands }
    let finish (m : Machine) : Job Unit := set m.work
    match Pass.main p m with
    | .ok () m => finish m
    | .error (.fault text atRun) m => do
      finish (passedOn m)
      fail 2 (runFault m text atRun)
    | .error .endless m => do
      finish (passedOn m)
      modify fun w => { w with endless := true }
    | .error _ m => finish m

end KeyRelay.Tools.Awk
