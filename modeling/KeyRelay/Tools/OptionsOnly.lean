import KeyRelay.Tools.Flags

/-!
Tools of which only the options are known: a call with an option that the tool does not have is
refused in its words, and any other call does nothing.
-/

namespace KeyRelay.Tools.OptionsOnly
open Shell Job

/-- Letters of options and the status of a refusal, by the names of tools. -/
def rules : List (String × Nat × String) :=
  [("b2sum", 1, "bctl:wz"), ("base32", 1, "diw:"), ("basenc", 1, "diw:"),
    ("csplit", 1, "f:b:kn:sqz"), ("dircolors", 1, "bcp"), ("factor", 1, "h"),
    ("fmt", 1, "0123456789cstuw:p:g:"), ("hostid", 1, ""), ("mkfifo", 1, "m:Z"),
    ("mknod", 1, "m:Z"), ("more", 1, "dflceupsnV"), ("numfmt", 1, "d:z"), ("pathchk", 1, "+pP"),
    ("pinky", 1, "sfwiqbhlp"), ("shred", 1, "fn:s:uvxz"), ("shuf", 1, "ei:n:o:rz"),
    ("sum", 1, "rs"), ("sync", 1, "df"), ("tsort", 1, ""), ("users", 1, ""),
    ("who", 1, "abdlmpqrstuwHT")]

/-- The tool of some rules; behind a leading plus sign, the first operand ends the options. -/
def tool (status : Nat) (letters : String) : Job Unit := do
  let _ ← flags { letters, operandEnds := letters.toList.head? = some '+' } status

/-- The tool of some letters that goes by a name and points to help in words of its own. -/
def worded (name : String) (status : Nat) (letters help : String) : Job Unit :=
  renamed name do
    match FlagRules.read { letters } 1000 {} (← call).args with
    | .ok _ => return ()
    | .error e =>
      warn e.text
      errorText help.toList
      exit status

/-- A language whose first operand is a program. -/
def language : Job Unit := do
  let w ← get
  match w.call.args.find? fun a => a.head? ≠ some '-' with
  | some file =>
    if let .error e := w.files.find w.call.directory file then
      errorText ("Can't open perl script \"".toList ++ file ++ "\": ".toList ++ e.octets ++ ['\n'])
      exit 2
  | none => return ()

/-- Complains of the value that an option has, as it would be refused if it is no number. -/
def withNumber (letters : String) (key : String) (refuse : Octets → Octets) : Job Unit := do
  let f ← flags { letters } 1
  if let some v := f.value? key then
    if (Octets.nat? v).isNone then fail 1 (refuse v)

/-- Complains of a separator that is longer than a character. -/
def withSeparator (letters what : String) : Job Unit := do
  let f ← flags { letters } 1
  if let some v := f.value? "t" then
    if 1 < v.length then fail 1 (("multi-character " ++ what ++ " ").toList ++ quoted v)

/-- Complains of every operand that is no file. -/
def withFiles (letters : String) (complaint : Octets → Octets) : Job Unit := do
  let f ← flags { letters } 1
  let w ← get
  for n in f.operands do
    if let .error e := w.files.find w.call.directory n
      then complain 1 (complaint n ++ [':', ' '] ++ e.octets)

/-- The directory that files are put in has to be there. -/
def install : Job Unit := do
  let f ← flags { letters := "bcCsDdg:m:o:pt:TvS:Z" } 1
  let w ← get
  match f.value? "t", f.operands with
  | some d, _ =>
    if let .error e := w.files.find w.call.directory d then
      fail 1 ("failed to access ".toList ++ quoted d ++ [':', ' '] ++ e.octets)
  | none, [] => usage 1 "missing file operand".toList
  | none, [a] => usage 1 ("missing destination file operand after ".toList ++ quoted a)
  | none, _ => return ()

def stty : Job Unit := do
  match (← call).args.find? fun a => !(["-a", "-g"].contains (String.ofList a)) with
  | some a => usage 1 ("invalid argument ".toList ++ quoted a)
  | none => fail 1 "'standard input': Inappropriate ioctl for device".toList

/-- The name of the machine cannot be told; options are refused. -/
def hostname : Job Unit := do
  match FlagRules.read { letters := "aAbdfF:hiIsVy" } 1000 {} (← call).args with
  | .ok _ => line "localhost".toList
  | .error e => fail 255 e.text

/-- Where packing tools say that help is found. -/
def packingHelp : String := "Try \x60gzip --help' for more information.\n"

def tarHelp : String := "Try 'tar --help' or 'tar --usage' for more information.\n"

def all : List (String × Job Unit) :=
  rules.map (fun (name, status, letters) => (name, tool status letters)) ++
    [("du", withNumber "0abd:chHklmst:xB:DLPSX:" "t" fun v =>
      "invalid -t argument ".toList ++ quoted v),
      ("hostname", hostname), ("install", install),
      ("join", withSeparator "1:2:a:e:ij:o:t:v:z" "tab"),
      ("pr", withNumber "abcdfFtTvmh:l:n::N:o:w:W:s::S::e::i::D:J" "o" fun v =>
        "'-o MARGIN' invalid line offset: ".toList ++ quoted v),
      ("split", withSeparator "0123456789C:a:b:del:n:t:ux" "separator"), ("stty", stty),
      ("unexpand", withNumber ",0123456789at:" "t" fun v =>
        "tab size contains invalid character(s): ".toList ++ quoted v),
      ("chcon", withFiles "HLPRhvu:r:t:l:" fun n => "cannot access ".toList ++ quoted n),
      ("df", withFiles "aB:iF:hHklmPTt:vx:" id),
      ("gzip", worded "gzip" 1 "ab:cdfhklLmMnNqrS:tvVZ123456789" packingHelp),
      ("gunzip", worded "gzip" 1 "ab:cdfhklLmMnNqrS:tvVZ123456789" packingHelp),
      ("zcat", worded "gzip" 1 "ab:cdfhklLmMnNqrS:tvVZ123456789" packingHelp), ("perl", language),
      ("tar", worded "tar" 64 "AcdrtuxGgI:jJzZaf:C:X:T:K:N:V:b:BFhiklL:mMnoOpPRsSUvwW" tarHelp)]

end KeyRelay.Tools.OptionsOnly
