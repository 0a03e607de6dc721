import KeyRelay.Tools.Amount
import KeyRelay.Tools.Flags

/-!
What surrounds a process: its environment, its user, the machine, and the time that passes.
-/

namespace KeyRelay.Tools.Surroundings
open Shell Job

def printenv : Job Unit := do
  let f ← flags { letters := "+0", names := [("null", "0")], operandEnds := true } 2
  let ending := if f.has "0" then '\x00' else '\n'
  let environment := (← call).environment
  if f.operands.isEmpty then out (environment.flatMap fun (n, v) => n ++ '=' :: v ++ [ending])
  for n in f.operands do
    match environment.find? fun e => e.1 = n with
    | some (_, v) => out (v ++ [ending])
    | none => setStatus 1

/-- Only operands that are known are accepted. -/
def noOperands (f : Flags) : Job Unit := do
  if let extra :: _ := f.operands then extraOperand 1 extra

def id' : Job Unit := do
  let f ← flags
    { letters := "agnruzGZ"
      names := [("context", "Z"), ("group", "g"), ("groups", "G"), ("name", "n"), ("real", "r"),
        ("user", "u"), ("zero", "z")] } 1
  let known : List Octets := [[], "root".toList, ['0']]
  for user in if f.operands.isEmpty then [[]] else f.operands do
    if !known.contains user then complain 1 (quoted user ++ ": no such user".toList)
    else
      let chosen := ["u", "g", "G"].filter f.has
      if 1 < chosen.length then fail 1 "cannot print \"only\" of more than one choice".toList
      if chosen.isEmpty && (f.has "n" || f.has "r") then
        fail 1 "cannot print only names or real IDs in default format".toList
      if chosen.isEmpty then line "uid=0(root) gid=0(root) groups=0(root)".toList
      else line (if f.has "n" then "root".toList else ['0'])

def whoami : Job Unit := do
  let f ← flags { letters := "" } 1
  noOperands f
  line "root".toList

def groups : Job Unit := do
  let f ← flags { letters := "" } 1
  if f.operands.isEmpty then line "root".toList
  for user in f.operands do
    if user = "root".toList then line "root : root".toList
    else complain 1 (quoted user ++ ": no such user".toList)

def logname : Job Unit := do
  let f ← flags { letters := "" } 1
  noOperands f
  fail 1 "no login name".toList

/-- What is told of the machine, by the letter it is asked with. -/
def machineFacts : List (String × String) :=
  [("s", "Linux"), ("n", "localhost"), ("r", "6.1.0"), ("v", "#1 SMP"), ("m", "x86_64"),
    ("p", "unknown"), ("i", "unknown"), ("o", "GNU/Linux")]

def uname : Job Unit := do
  let f ← flags
    { letters := "asnrvmpio"
      names := [("all", "a"), ("kernel-name", "s"), ("nodename", "n"), ("kernel-release", "r"),
        ("kernel-version", "v"), ("machine", "m"), ("processor", "p"), ("hardware-platform", "i"),
        ("operating-system", "o")] } 1
  noOperands f
  let chosen := machineFacts.filter fun e =>
    if f.has "a" then e.2 ≠ "unknown" else f.has e.1 || f.given.isEmpty && e.1 = "s"
  line (Octets.joinWith [' '] (chosen.map fun e => e.2.toList))

def arch : Job Unit := do
  let f ← flags { letters := "" } 1
  noOperands f
  line "x86_64".toList

def nproc : Job Unit := do
  let f ← flags { letters := "", names := [("all", "all"), ("ignore", "ignore:")] } 1
  noOperands f
  line ['1']

def tty : Job Unit := do
  let f ← flags { letters := "s", names := [("quiet", "s"), ("silent", "s")] } 2
  if let extra :: _ := f.operands then extraOperand 2 extra
  if !f.has "s" then line "not a tty".toList
  setStatus 1

def sleep : Job Unit := do
  let f ← flags { letters := "" } 1
  if f.operands.isEmpty then missingOperand 1
  let bad := f.operands.filter fun d => (Amount.milliseconds? d).isNone && d ≠ "infinity".toList &&
    d ≠ "inf".toList
  for d in bad do
    warn ("invalid time interval ".toList ++ quoted d)
  if !bad.isEmpty then
    errorText ("Try '".toList ++ (← call).name ++ " --help' for more information.\n".toList)
    exit 1
  let known := f.operands.map Amount.milliseconds?
  if known.any Option.isNone then modify fun w => { w with endless := true }
  modify fun w => { w with slept := (known.filterMap fun d => d).foldl (· + ·) 0 }

/-! ### Dates -/

/-- Year, month and day of a number of days after the first day of 1970. -/
def civil (days : Int) : Int × Nat × Nat :=
  let z := days + 719468
  let era := z.fdiv 146097
  let doe := (z - era * 146097).toNat
  let yoe := (doe - doe / 1460 + doe / 36524 - doe / 146096) / 365
  let doy := doe - (365 * yoe + yoe / 4 - yoe / 100)
  let mp := (5 * doy + 2) / 153
  let day := doy - (153 * mp + 2) / 5 + 1
  let month := if mp < 10 then mp + 3 else mp - 9
  (yoe + era * 400 + (if month ≤ 2 then 1 else 0), month, day)

def dayNames : List String :=
  ["Sunday", "Monday", "Tuesday", "Wednesday", "Thursday", "Friday", "Saturday"]

def monthNames : List String :=
  ["January", "February", "March", "April", "May", "June", "July", "August", "September", "October",
    "November", "December"]

/-- Days of a year before a month. -/
def daysBefore (year : Int) (month : Nat) : Nat :=
  let leap := year.emod 4 = 0 && (year.emod 100 ≠ 0 || year.emod 400 = 0)
  ([31, if leap then 29 else 28, 31, 30, 31, 30, 31, 31, 30, 31, 30].take (month - 1)).foldl (· + ·)
    0

/-- A time in seconds after the start of 1970, written by a layout. -/
def written (seconds : Int) : Nat → Octets → Octets
  | 0, cs => cs
  | _ + 1, [] => []
  | fuel + 1, '%' :: c :: rest =>
    let days := seconds.fdiv 86400
    let inDay := (seconds - days * 86400).toNat
    let (year, month, day) := civil days
    let weekday := (days + 4).emod 7 |>.toNat
    let two (n : Nat) : Octets := Octets.fill false '0' 2 (Octets.ofNat n)
    let hour := inDay / 3600
    let minute := inDay / 60 % 60
    let second := inDay % 60
    let dayName := ((dayNames[weekday]?).getD "").toList
    let monthName := ((monthNames[month - 1]?).getD "").toList
    let clock := two hour ++ ':' :: two minute ++ ':' :: two second
    let date := Octets.ofInt year ++ '-' :: two month ++ '-' :: two day
    let text : Octets := match c with
      | 'Y' => Octets.ofInt year
      | 'm' => two month
      | 'd' => two day
      | 'e' => Octets.fill false ' ' 2 (Octets.ofNat day)
      | 'H' => two hour
      | 'M' => two minute
      | 'S' => two second
      | 'N' => List.replicate 9 '0'
      | 'F' => date
      | 'T' => clock
      | 'R' => two hour ++ ':' :: two minute
      | 'D' => two month ++ '/' :: two day ++ '/' :: two (year.emod 100).toNat
      | 'y' => two (year.emod 100).toNat
      | 'C' => two (year.fdiv 100).toNat
      | 'j' => Octets.fill false '0' 3 (Octets.ofNat (daysBefore year month + day))
      | 'u' => Octets.ofNat (if weekday = 0 then 7 else weekday)
      | 'w' => Octets.ofNat weekday
      | 'a' => dayName.take 3
      | 'A' => dayName
      | 'b' | 'h' => monthName.take 3
      | 'B' => monthName
      | 'I' => two ((hour + 11) % 12 + 1)
      | 'p' => (if hour < 12 then "AM" else "PM").toList
      | 's' => Octets.ofInt seconds
      | 'Z' => "UTC".toList
      | 'z' => "+0000".toList
      | 'c' =>
        dayName.take 3 ++ ' ' :: monthName.take 3 ++ ' ' ::
          Octets.fill false ' ' 2 (Octets.ofNat day) ++
          ' ' :: clock ++ ' ' :: Octets.ofInt year
      | 'x' => two month ++ '/' :: two day ++ '/' :: two (year.emod 100).toNat
      | 'X' => clock
      | 'n' => ['\n']
      | 't' => ['\t']
      | '%' => ['%']
      | c => ['%', c]
    text ++ written seconds fuel rest
  | fuel + 1, c :: rest => c :: written seconds fuel rest

/-- The moment that the machine's clock shows. -/
def now : Int := 1735689600

def date : Job Unit := do
  let f ← flags
    { letters := "d:f:I::r:Rs:u"
      names := [("date", "d:"), ("debug", "debug"), ("file", "f:"), ("iso-8601", "I::"),
        ("reference", "r:"),
        ("rfc-2822", "R"), ("rfc-email", "R"), ("rfc-3339", "rfc-3339:"), ("set", "s:"),
          ("uct", "u"), ("utc", "u"),
        ("universal", "u")] } 1
  if let _ :: extra :: _ := f.operands then extraOperand 1 extra
  let seconds ← match f.value? "d" with
    | none => pure now
    | some ('@' :: n) =>
      match Octets.int? n with
      | some n => pure n
      | none => fail 1 ("invalid date ".toList ++ quoted ('@' :: n))
    | some d =>
      if d.isEmpty || d = "now".toList then pure now
        else fail 1 ("invalid date ".toList ++ quoted d)
  match f.operands with
  | ('+' :: layout) :: _ => line (written seconds (layout.length + 1) layout)
  | other :: _ => fail 1 ("invalid date ".toList ++ quoted other)
  | [] =>
    if f.has "I" then line (written seconds 10 "%F".toList)
    else if f.has "R" then line (written seconds 40 "%a, %d %b %Y %T +0000".toList)
    else line (written seconds 40 "%a %b %e %T UTC %Y".toList)

/-- Where a command is found, for each name. -/
def which : Job Unit := do
  let c ← call
  let operands := c.args.dropWhile fun a => a = ['-', 'a'] || a = ['-', 's']
  if let ('-' :: l :: _) :: _ := operands then
    if l ≠ '-' then
      errorText ("Illegal option -".toList ++ [l, '\n'] ++
        "Usage: /usr/bin/which [-as] args\n".toList)
      exit 2
  if operands.isEmpty then exit 1
  let path := ((c.environment.find? fun e => e.1 = "PATH".toList).map (·.2)).getD []
  for n in operands do
    let places := if n.contains '/' then [n]
      else (Octets.splitAt (· = ':') path).map fun d => (if d.isEmpty then ['.'] else d) ++ '/' :: n
    let found := places.filter fun p =>
      match c.files.find c.directory p with
      | .ok (_, i) =>
        (match i.node with | .regular _ | .tool _ => true | _ => false) &&
          (i.mode % 2 = 1 || i.mode / 8 % 2 = 1 || i.mode / 64 % 2 = 1)
      | .error _ => false
    match found with
    | [] => setStatus 1
    | p :: more =>
      if !c.args.contains ['-', 's'] then
        line p
        if c.args.contains ['-', 'a'] then out (Octets.ofLines more)

end KeyRelay.Tools.Surroundings
