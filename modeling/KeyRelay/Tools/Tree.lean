import KeyRelay.Shell.Format
import KeyRelay.Tools.Flags

/-!
Tools that look at the tree of files and change it: listing, making, removing, moving and copying.
-/

namespace KeyRelay.Tools.Tree
open Shell Job

/-! ### Looking -/

/-- The path of an operand and what stands there; the last link may be followed. -/
def find (name : Octets) (follow : Bool) : Job (Except SystemFault (Path × Inode)) := do
  let w ← get
  return do
    let p ← w.files.resolve w.call.directory name (follow || name.getLast? = some '/')
    match w.files.inode? p with
    | some i => return (p, i)
    | none => throw .missing

def isDirectory (name : Octets) : Job Bool := do
  let w ← get
  return w.files.isDirectory w.call.directory name

/-- Letters of the permissions of three groups, the special bits among them. -/
def permissions (mode : Nat) : Octets :=
  let bit (n : Nat) : Bool := mode / n % 2 = 1
  let three (r w x special : Nat) (set unset : Char) : Octets :=
    [if bit r then 'r' else '-', if bit w then 'w' else '-',
      if bit special then (if bit x then set else unset) else if bit x then 'x' else '-']
  three 256 128 64 2048 's' 'S' ++ three 32 16 8 1024 's' 'S' ++ three 4 2 1 512 't' 'T'

def kindLetter (n : Node) : Char :=
  match n with
  | .directory => 'd'
  | .link _ => 'l'
  | .device _ => 'c'
  | .regular _ | .tool _ => '-'

def modeText (i : Inode) : Octets :=
  kindLetter i.node :: permissions i.mode

def sizeOf (n : Node) : Nat :=
  match n with
  | .directory => 4096
  | .regular cs => cs.length
  | .link t => t.length
  | .device _ => 0
  | .tool name => name.length + 4

/-! ### Listing -/

def lsRules : FlagRules where
  letters := "abcdfghiklmnopqrstuvw:xABCDFGHI:LNQRST:UXZ1"
  names := [("all", "a"), ("almost-all", "A"), ("author", "author"), ("escape", "b"),
    ("block-size", "block-size:"), ("ignore-backups", "B"), ("color", "color::"),
    ("directory", "d"), ("dired", "D"), ("classify", "F::"), ("file-type", "file-type"),
    ("format", "format:"), ("full-time", "full-time"),
    ("group-directories-first", "group-directories-first"), ("no-group", "G"),
    ("human-readable", "h"), ("si", "si"), ("dereference-command-line", "H"), ("hide", "hide:"),
    ("hyperlink", "hyperlink::"), ("indicator-style", "indicator-style:"), ("inode", "i"),
    ("ignore", "I:"), ("kibibytes", "k"), ("dereference", "L"), ("numeric-uid-gid", "n"),
    ("literal", "N"), ("hide-control-chars", "q"), ("show-control-chars", "show-control-chars"),
    ("quote-name", "Q"), ("quoting-style", "quoting-style:"), ("reverse", "r"), ("recursive", "R"),
    ("size", "s"), ("sort", "sort:"), ("time", "time:"), ("time-style", "time-style:"),
    ("tabsize", "T:"), ("width", "w:"), ("context", "Z"), ("zero", "zero")]

/-- An entry of a listing. -/
structure Entry where
  name : Octets
  path : Path
  inode : Inode

/-- The mark behind a name. -/
def indicator (f : Flags) (i : Inode) : Octets :=
  if f.has "F" then
    match i.node with
    | .directory => ['/']
    | .link _ => if f.has "l" then [] else ['@']
    | .regular _ | .tool _ => if i.mode / 64 % 2 = 1 then ['*'] else []
    | .device _ => []
  else if f.has "p" && i.node = .directory then ['/'] else []

/-- One entry as a line. -/
def entryLine (f : Flags) (files : Files) (width : Nat) (e : Entry) : Octets :=
  let name := (if f.has "Q" then '"' :: e.name ++ ['"'] else e.name) ++ indicator f e.inode
  let target := match e.inode.node with
    | .link t => " -> ".toList ++ t
    | _ => []
  let number := if f.has "i" then Octets.ofNat (((files.index? e.path).getD 0) + 100) ++ [' ']
    else []
  if f.has "l" || f.has "n" || f.has "g" || f.has "o" then
    let owner := if f.has "g" then [] else (if f.has "n" then "0 " else "root ").toList
    let group := if f.has "o" || f.has "G" then [] else (if f.has "n" then "0 " else "root ").toList
    let links := if e.inode.node = .directory then
        2 + (files.names.filter fun n => n.1.dropLast = e.path && !n.1.isEmpty &&
          files.nodeAt? n.2 = some .directory).length
      else (files.names.filter fun n => some n.2 = files.index? e.path).length
    number ++ modeText e.inode ++ ' ' :: Octets.ofNat links ++ ' ' :: owner ++ group ++
      Octets.fill false ' ' width (Octets.ofNat (sizeOf e.inode.node)) ++ " Jan  1 00:00 ".toList ++
      name ++ target
  else number ++ name

/-- Entries in the order that is asked for. -/
def ordered (f : Flags) (es : List Entry) : List Entry :=
  if f.has "U" || f.has "f" then es
  else
    let byName := es.mergeSort fun a b => (Octets.order a.name b.name).isLE
    let sorted :=
      if f.has "t" then byName.mergeSort fun a b => b.inode.stamp ≤ a.inode.stamp
      else if f.has "S" then byName.mergeSort fun a b => sizeOf b.inode.node ≤ sizeOf a.inode.node
      else byName
    if f.has "r" then sorted.reverse else sorted

def showEntries (f : Flags) (es : List Entry) : Job Unit := do
  let files ← files
  let es := ordered f es
  let width := es.foldl (fun m e => max m (Octets.ofNat (sizeOf e.inode.node)).length) 0
  let texts := es.map (entryLine f files width)
  if f.has "m" then
    if !texts.isEmpty then line (Octets.joinWith [',', ' '] texts)
  else if (f.has "x" || f.has "C") && !f.has "l" && !f.has "1" then
    if !texts.isEmpty then line (Octets.joinWith [' ', ' '] texts)
  else out (Octets.ofLines texts)

/-- Entries of a directory, hidden ones only if they are wanted. -/
def within (f : Flags) (files : Files) (p : Path) : List Entry :=
  let all := f.has "a" || f.has "f"
  let names := (files.entries p).filter fun n => n.head? ≠ some '.' || all || f.has "A"
  let real := names.filterMap fun n => (files.inode? (p ++ [n])).map fun i => ⟨n, p ++ [n], i⟩
  let dots : List Entry :=
    if all then
      [⟨['.'], p, (files.inode? p).getD default⟩,
        ⟨['.', '.'], p.dropLast, (files.inode? p.dropLast).getD default⟩]
    else []
  dots ++ real

/-- Directories with heads; those below follow where that is asked for. -/
def showDirectories (f : Flags) (heads : Bool) : Nat → Bool → List (Octets × Path) → Job Unit
  | 0, _, _ => return ()
  | _ + 1, _, [] => return ()
  | fuel + 1, first, (name, p) :: more => do
    let files ← files
    let es := within f files p
    if heads then out ((if first then [] else ['\n']) ++ name ++ [':', '\n'])
    if f.has "l" then line ("total ".toList ++
      Octets.ofNat (4 * (es.filter fun e => sizeOf e.inode.node ≠ 0).length))
    showEntries f es
    let below := if f.has "R" then
        (ordered f es).filterMap fun e =>
          if e.inode.node = .directory && e.name ≠ ['.'] && e.name ≠ ['.', '.'] then
            some (Octets.dropEndWhile (· = '/') name ++ '/' :: e.name, e.path)
          else none
      else []
    showDirectories f heads fuel false (below ++ more)

def ls : Job Unit := do
  let f ← flags lsRules 2
  let names := if f.operands.isEmpty then [['.']] else f.operands
  let follow := !(f.has "l" || f.has "F" || f.has "d") || f.has "H" || f.has "L"
  let found ← names.filterMapM fun n => do
    match ← find n follow with
    | .ok (p, i) => return some (n, p, i)
    | .error e =>
      match ← if f.has "L" then pure (.error e) else find n false with
      | .ok (p, i) => return some (n, p, i)
      | .error e =>
        complain 2 ("cannot access ".toList ++ quoted n ++ [':', ' '] ++ e.octets)
        return none
  let isListed (i : Inode) : Bool := i.node = .directory && !f.has "d"
  let plain := found.filter fun (_, _, i) => !isListed i
  let directories := found.filter fun (_, _, i) => isListed i
  showEntries f (plain.map fun (n, p, i) => ⟨n, p, i⟩)
  let heads := 1 < names.length || f.has "R"
  let sorted := (ordered f (directories.map fun (n, p, i) => ⟨n, p, i⟩)).map fun e =>
    (e.name, e.path)
  showDirectories f heads 2000 plain.isEmpty sorted

/-! ### Modes -/

/-- The mode that a text makes of another: octal digits, or clauses of who, how and what. -/
def changedMode? (isDirectory : Bool) (umask mode : Nat) (text : Octets) : Option Nat :=
  if !text.isEmpty && text.all fun c => '0' ≤ c && c ≤ '7' then
    let n := Octets.valueOf 8 text
    if n < 4096 then some n else none
  else
    (Octets.splitAt (· = ',') text).foldl (fun m clause => m.bind fun mode =>
      clauseMode mode clause) (some mode)
where
  bits (mode : Nat) (c : Char) : Option Nat :=
    match c with
    | 'r' => some 292
    | 'w' => some 146
    | 'x' => some 73
    | 'X' =>
      some (if isDirectory || mode / 64 % 2 = 1 || mode / 8 % 2 = 1 || mode % 2 = 1 then 73 else 0)
    | 's' => some 3072
    | 't' => some 512
    | 'u' => some (mode / 64 % 8 * 73)
    | 'g' => some (mode / 8 % 8 * 73)
    | 'o' => some (mode % 8 * 73)
    | _ => none
  clauseMode (mode : Nat) (clause : Octets) : Option Nat := do
    let who := clause.takeWhile "ugoa".toList.contains
    let mask := who.foldl (fun m c => Nat.lor m (match c with
      | 'u' => 2496
      | 'g' => 1080
      | 'o' => 519
      | _ => 4095)) 0
    let mask := if who.isEmpty then 4095 - Nat.land umask 511 else mask
    if clause.length = who.length then failure
    actions mode mask (clause.length + 1) (clause.drop who.length)
  actions (mode mask : Nat) : Nat → Octets → Option Nat
    | 0, _ => none
    | _ + 1, [] => some mode
    | fuel + 1, op :: rest => do
      let letters := rest.takeWhile fun c => !"+-=".toList.contains c
      let wanted ← letters.foldlM (fun n c => (bits mode c).map (Nat.lor n)) 0
      let wanted := Nat.land wanted mask
      let next ← match op with
        | '+' => some (Nat.lor mode wanted)
        | '-' => some (mode - Nat.land mode wanted)
        | '=' => some (Nat.lor (mode - Nat.land mode (Nat.land mask 511)) wanted)
        | _ => none
      actions next mask fuel (rest.drop letters.length)

def chmodRules : FlagRules where
  letters := "Rcfvr::w::x::X::s::t::u::g::o::a::,::+::=::0::1::2::3::4::5::6::7::"
  names := [("changes", "c"), ("recursive", "R"), ("no-preserve-root", "no-preserve-root"),
    ("quiet", "f"), ("preserve-root", "preserve-root"), ("reference", "reference:"),
    ("silent", "f"), ("verbose", "v")]

def chmod : Job Unit := do
  let f ← flags chmodRules 1
  let inOptions := f.given.filter fun e => e.1.length = 1 && !(["R", "c", "f", "v"].contains e.1)
  let (mode, names) ← match inOptions, f.operands with
    | (key, value) :: _, ops => pure ('-' :: key.toList ++ value, ops)
    | [], [] => missingOperand 1
    | [], [m] => usage 1 ("missing operand after ".toList ++ quoted m)
    | [], m :: ops => pure (m, ops)
  let umask := (← call).umask
  if (changedMode? false umask 0 mode).isNone then
    usage 1 ("invalid mode: ".toList ++ quoted mode)
  if names.isEmpty then usage 1 ("missing operand after ".toList ++ quoted mode)
  for n in names do
    match ← find n true with
    | .error e =>
      if !f.has "f" then complain 1 ("cannot access ".toList ++ quoted n ++ [':', ' '] ++ e.octets)
    | .ok (p, i) =>
      let files ← files
      let below := if f.has "R" then files.names.filter fun e => p.isPrefixOf e.1 && e.1 ≠ p else []
      let targets := (files.index? p).toList ++ below.map (·.2)
      let changed := targets.foldl (fun (fs : Files) k =>
        { fs with
          inodes := fs.inodes.modify k fun j =>
            { j with mode := (changedMode? (j.node = .directory) umask j.mode mode).getD i.mode } })
              files
      setFiles changed

/-! ### Making and removing -/

/-- The permissions of what is made. -/
def freshMode (base : Nat) : Job Nat := do
  return Nat.land base (4095 - (← call).umask % 512)

/-- Makes a directory. -/
def makeDirectory (name : Octets) (mode : Nat) : Job (Except SystemFault Unit) := do
  let w ← get
  match w.files.resolve w.call.directory name true with
  | .error e => return .error e
  | .ok p =>
    if (w.files.inode? p).isSome then return .error .isPresent
    else
      setFiles (w.files.add p .directory mode)
      return .ok ()

/-- All paths on the way to a name. -/
def waysTo (name : Octets) : List Octets :=
  let parts := (Octets.splitAt (· = '/') name).filter (· ≠ [])
  let start : Octets := if name.head? = some '/' then ['/'] else []
  (List.range parts.length).map fun i => start ++ Octets.joinWith ['/'] (parts.take (i + 1))

def mkdir : Job Unit := do
  let f ← flags
    { letters := "pm:vZ"
      names := [("context", "Z"), ("mode", "m:"), ("parents", "p"), ("verbose", "v")] } 1
  if f.operands.isEmpty then missingOperand 1
  let usual ← freshMode 511
  let mode ← match f.value? "m" with
    | none => pure usual
    | some m =>
      match changedMode? true 0 511 m with
      | some n => pure n
      | none => fail 1 ("invalid mode ".toList ++ quoted m)
  for n in f.operands do
    let steps := if f.has "p" then waysTo n else [n]
    let count := steps.length
    for (s, i) in steps.zipIdx do
      let skip ← if f.has "p" then isDirectory s else pure false
      unless skip do
        match ← makeDirectory s (if i + 1 = count then mode else usual) with
        | .ok () =>
          if f.has "v" then line ((← call).name ++ ": created directory ".toList ++ quoted s)
        | .error e =>
          complain 1 ("cannot create directory ".toList ++ quoted s ++ [':', ' '] ++
            e.octets)
          break

def rmdir : Job Unit := do
  let f ← flags
    { letters := "pv"
      names := [("ignore-fail-on-non-empty", "ignore-fail-on-non-empty"), ("parents", "p"),
        ("verbose", "v")] } 1
  if f.operands.isEmpty then missingOperand 1
  for n in f.operands do
    let steps := if f.has "p" then (waysTo n).reverse else [n]
    for s in steps do
      if f.has "v" then line ((← call).name ++ ": removing directory, ".toList ++ quoted s)
      let refuse (e : SystemFault) : Job Unit :=
        complain 1 ("failed to remove ".toList ++ quoted s ++ [':', ' '] ++ e.octets)
      match ← find s false with
      | .error e =>
        refuse e
        break
      | .ok (p, i) =>
        let files ← files
        if i.node ≠ .directory then
          refuse .notADirectory
          break
        else if !(files.entries p).isEmpty then
          unless f.has "ignore-fail-on-non-empty" do refuse .notEmpty
          break
        else setFiles (files.removeName p)

def rm : Job Unit := do
  let f ← flags
    { letters := "dfirvIR"
      names :=
        [("force", "f"), ("interactive", "interactive::"), ("one-file-system", "one-file-system"),
        ("no-preserve-root", "no-preserve-root"), ("preserve-root", "preserve-root::"),
          ("recursive", "r"),
        ("dir", "d"), ("verbose", "v")] } 1
  if f.operands.isEmpty then
    if f.has "f" then exit 0 else missingOperand 1
  let recursive := f.has "r" || f.has "R"
  for n in f.operands do
    let refuse (why : Octets) : Job Unit :=
      complain 1 ("cannot remove ".toList ++ quoted n ++ [':', ' '] ++ why)
    let base := Path.lastName n
    if recursive && (base = ['.'] || base = ['.', '.']) then
      complain 1 ("refusing to remove '.' or '..' directory: skipping ".toList ++ quoted n)
    else
      match ← find n false with
      | .error e => if !(f.has "f" && (e = .missing || e = .notADirectory)) then refuse e.octets
      | .ok (p, i) =>
        let files ← files
        if p.isEmpty then
          warn "it is dangerous to operate recursively on '/'".toList
          complain 1 "use --no-preserve-root to override this failsafe".toList
        else if i.node = .directory then
          if recursive then
            if f.has "v" then
              let below := (files.names.filter fun e => p.isPrefixOf e.1).map (·.1)
              for q in below.mergeSort (fun a b => (Octets.order b.text a.text).isLE) do
                let shown := n ++ (q.drop p.length).flatMap ('/' :: ·)
                let done := if files.node? q = some .directory then "removed directory "
                  else "removed "
                line (done.toList ++ quoted shown)
            setFiles (files.removeTree p)
          else if f.has "d" then
            if (files.entries p).isEmpty then setFiles (files.removeName p)
              else refuse SystemFault.notEmpty.octets
          else refuse SystemFault.isADirectory.octets
        else
          setFiles (files.removeName p)
          if f.has "v" then line ("removed ".toList ++ quoted n)

def touch : Job Unit := do
  let f ← flags
    { letters := "acd:fhmr:t:"
      names := [("time", "time:"), ("no-create", "c"), ("date", "d:"), ("reference", "r:"),
        ("no-dereference", "h")] } 1
  if let some t := f.value? "t" then
    let digits := t.filter Char.isDigit
    if !(t.all fun c => c.isDigit || c = '.') || !([8, 10, 12, 14].contains digits.length) then
      fail 1 ("invalid date format ".toList ++ quoted t)
  if let some r := f.value? "r" then
    if let .error e ← find r true then
      fail 1 ("failed to get attributes of ".toList ++ quoted r ++ [':', ' '] ++ e.octets)
  if f.operands.isEmpty then usage 1 "missing file operand".toList
  let mode ← freshMode 438
  for n in f.operands do
    let w ← get
    let refuse (e : SystemFault) : Job Unit :=
      complain 1 ("cannot touch ".toList ++ quoted n ++ [':', ' '] ++ e.octets)
    match w.files.resolve w.call.directory n true with
    | .error e => if !(f.has "c" && e = .missing) then refuse e
    | .ok p =>
      match w.files.index? p with
      | some k => setFiles (w.files.update k id)
      | none =>
        if p.isEmpty || f.has "c" then pure ()
        else if n.getLast? = some '/' then refuse .missing
        else setFiles (w.files.add p (.regular []) mode)

/-! ### Moving and copying -/

/-- Where operands go: into a directory, or to a name. -/
inductive Target where
  | directory (name : Octets)
  | name (name : Octets)

/-- Sources and target of operands; faults end the tool, in words of its own where a directory is
missing. -/
def targetOf (f : Flags) (missing : String) : Job (List Octets × Target) := do
  match f.value? "t" with
  | some d =>
    if f.operands.isEmpty then usage 1 "missing file operand".toList
    if !(← isDirectory d) then
      match ← find d true with
      | .ok _ => fail 1 ("target directory ".toList ++ quoted d ++ ": Not a directory".toList)
      | .error e => fail 1 (missing.toList ++ ' ' :: quoted d ++ [':', ' '] ++ e.octets)
    return (f.operands, .directory d)
  | none =>
    match f.operands with
    | [] => usage 1 "missing file operand".toList
    | [a] => usage 1 ("missing destination file operand after ".toList ++ quoted a)
    | ops =>
      let last := ops.getLast?.getD []
      let sources := ops.dropLast
      if f.has "T" then
        if let _ :: extra :: _ := sources then extraOperand 1 extra
        return (sources, .name last)
      if ← isDirectory last then return (sources, .directory last)
      if 1 < sources.length then
        match ← find last true with
        | .ok _ => fail 1 ("target ".toList ++ quoted last ++ ": Not a directory".toList)
        | .error e => fail 1 ("target ".toList ++ quoted last ++ [':', ' '] ++ e.octets)
      return (sources, .name last)

/-- The name that a source gets. -/
def Target.nameFor (t : Target) (source : Octets) : Octets :=
  match t with
  | .name n => n
  | .directory d =>
    Octets.dropEndWhile (· = '/') d ++ (if d.all (· = '/') then [] else ['/']) ++
      Path.lastName source

def mvRules : FlagRules where
  letters := "bfint:uvS:TZ"
  names := [("backup", "b"), ("context", "Z"), ("force", "f"), ("interactive", "i"),
    ("no-clobber", "n"), ("no-target-directory", "T"),
    ("strip-trailing-slashes", "strip-trailing-slashes"), ("suffix", "S:"),
    ("target-directory", "t:"), ("update", "u"), ("verbose", "v")]

def mv : Job Unit := do
  let f ← flags mvRules 1
  let (sources, target) ← targetOf f "target directory"
  for s in sources do
    let n := target.nameFor s
    match ← find s false with
    | .error e => complain 1 ("cannot stat ".toList ++ quoted s ++ [':', ' '] ++ e.octets)
    | .ok (p, i) =>
      let w ← get
      let refuse (e : SystemFault) : Job Unit :=
        complain 1 ("cannot move ".toList ++ quoted s ++ " to ".toList ++ quoted n ++
          [':', ' '] ++ e.octets)
      match w.files.resolve w.call.directory n false with
      | .error e => refuse e
      | .ok q =>
        if p = q then complain 1 (quoted s ++ " and ".toList ++ quoted n ++
          " are the same file".toList)
        else if p.isPrefixOf q then
          complain 1 ("cannot move ".toList ++ quoted s ++
            " to a subdirectory of itself, ".toList ++ quoted n)
        else
          match w.files.node? q with
          | some .directory =>
            if i.node ≠ .directory then
              complain 1 ("cannot overwrite directory ".toList ++ quoted n ++
                " with non-directory".toList)
            else if !(w.files.entries q).isEmpty then refuse .notEmpty
            else setFiles (w.files.move p q)
          | there =>
            if there.isSome && i.node = .directory then
              complain 1
                ("cannot overwrite non-directory ".toList ++ quoted n ++
                  " with directory ".toList ++ quoted s)
            else if there.isSome && f.has "n" then pure ()
            else
              setFiles (w.files.move p q)
              if f.has "v" then
                line ("renamed ".toList ++ quoted s ++ " -> ".toList ++ quoted n)

def cpRules : FlagRules where
  letters := "abdfHilLnprst:uvxPRS:TZ"
  names := [("archive", "a"), ("attributes-only", "attributes-only"), ("backup", "b"),
    ("context", "Z"), ("copy-contents", "copy-contents"), ("dereference", "L"), ("force", "f"),
    ("interactive", "i"), ("link", "l"), ("no-clobber", "n"), ("no-dereference", "P"),
    ("no-preserve", "no-preserve:"), ("no-target-directory", "T"), ("one-file-system", "x"),
    ("parents", "parents"), ("path", "parents"), ("preserve", "preserve::"), ("recursive", "R"),
    ("remove-destination", "remove-destination"), ("sparse", "sparse:"), ("reflink", "reflink::"),
    ("strip-trailing-slashes", "strip-trailing-slashes"), ("suffix", "S:"), ("symbolic-link", "s"),
    ("target-directory", "t:"), ("update", "u"), ("verbose", "v")]

/-- Copies all that stands at a path to another. -/
def copyTree (files : Files) (source target : Path) : Files :=
  let moved := (files.names.filter fun e => source.isPrefixOf e.1).mergeSort fun a b =>
    a.1.length ≤ b.1.length
  moved.foldl (fun (fs : Files) (p, k) =>
    let q := target ++ p.drop source.length
    match files.inodes[k]? with
    | some i =>
      match i.node, fs.node? q with
      | .directory, some .directory => fs
      | node, _ => fs.add q node i.mode
    | none => fs) files

def cp : Job Unit := do
  let f ← flags cpRules 1
  let (sources, target) ← targetOf f "target directory"
  let recursive := f.has "r" || f.has "R" || f.has "a"
  for s in sources do
    let n := target.nameFor s
    match ← find s (!(f.has "P" || f.has "d" || f.has "a")) with
    | .error e => complain 1 ("cannot stat ".toList ++ quoted s ++ [':', ' '] ++ e.octets)
    | .ok (p, i) =>
      let w ← get
      if i.node = .directory && !recursive then
        complain 1 ("-r not specified; omitting directory ".toList ++ quoted s)
      else
        let refuse (e : SystemFault) : Job Unit :=
          let kind := if i.node = .directory then "directory " else "regular file "
          complain 1 ("cannot create ".toList ++ kind.toList ++ quoted n ++ [':', ' '] ++ e.octets)
        match w.files.resolve w.call.directory n true with
        | .error e => refuse e
        | .ok q =>
          if p = q then complain 1 (quoted s ++ " and ".toList ++ quoted n ++
            " are the same file".toList)
          else if i.node = .directory then
            if p.isPrefixOf q then
              complain 1 ("cannot copy a directory, ".toList ++ quoted s ++
                ", into itself, ".toList ++ quoted n)
            else setFiles (copyTree w.files p q)
          else
            match w.files.node? q with
            | some .directory =>
              complain 1 ("cannot overwrite directory ".toList ++ quoted n ++
                " with non-directory".toList)
            | there =>
              if there.isNone && n.getLast? = some '/' then refuse .notADirectory
              else if there.isSome && f.has "n" then pure ()
              else
                match i.node, (w.files.index? q).bind fun k => (w.files.nodeAt? k).map (k, ·) with
                | .regular cs, some (k, .regular _) =>
                  setFiles (w.files.update k fun j => { j with node := .regular cs })
                | .device d, some (k, .regular _) =>
                  setFiles (w.files.update k fun j =>
                    { j with node := .regular (Files.deviceText d Files.muchOf) })
                | _, some (_, .device _) => pure ()
                | .device d, none =>
                  setFiles (w.files.add q (.regular (Files.deviceText d Files.muchOf)) 420)
                | node, _ =>
                  setFiles (w.files.add q node (Nat.land i.mode (4095 - w.call.umask % 512)))
                if f.has "v" then line (quoted s ++ " -> ".toList ++ quoted n)

def lnRules : FlagRules where
  letters := "bdfinrst:vFLPS:T"
  names := [("backup", "b"), ("directory", "d"), ("no-dereference", "n"),
    ("no-target-directory", "T"), ("force", "f"), ("interactive", "i"), ("suffix", "S:"),
    ("target-directory", "t:"), ("logical", "L"), ("physical", "P"), ("relative", "r"),
    ("symbolic", "s"), ("verbose", "v")]

def ln : Job Unit := do
  let f ← flags lnRules 1
  let f := if f.operands.length = 1 && !f.has "t" then { f with operands := f.operands ++ [['.']] }
    else f
  if f.operands.isEmpty then usage 1 "missing file operand".toList
  let (sources, target) ← targetOf f "failed to access"
  let symbolic := f.has "s"
  for s in sources do
    let n := target.nameFor s
    let w ← get
    let what := (if symbolic then "symbolic link" else "hard link").toList
    let refuse (e : SystemFault) : Job Unit :=
      complain 1 ("failed to create ".toList ++ what ++ ' ' :: quoted n ++
        (if symbolic then [] else " => ".toList ++ quoted s) ++ [':', ' '] ++ e.octets)
    match ← if symbolic then pure (.ok ([], default)) else find s (f.has "L") with
    | .error e => complain 1 ("failed to access ".toList ++ quoted s ++ [':', ' '] ++ e.octets)
    | .ok (p, i) =>
      if !symbolic && i.node = .directory then
        complain 1 (s ++ ": hard link not allowed for directory".toList)
      else
        match w.files.resolve w.call.directory n false with
        | .error e => refuse e
        | .ok q =>
          if (w.files.inode? q).isSome && !f.has "f" then refuse .isPresent
          else
            if symbolic then setFiles (w.files.add q (.link s) 511)
            else setFiles (w.files.addName q ((w.files.index? p).getD 0))
            if f.has "v" then
              line (quoted n ++ (if symbolic then " -> " else " => ").toList ++ quoted s)

/-! ### Facts about files -/

def kindText (n : Node) : String :=
  match n with
  | .directory => "directory"
  | .regular [] => "regular empty file"
  | .regular _ | .tool _ => "regular file"
  | .link _ => "symbolic link"
  | .device _ => "character special file"

/-- A layout with the facts of a file in the place of its directives. -/
def described (files : Files) (name : Octets) (p : Path) (i : Inode) (escapes : Bool) :
    Nat → Octets → Octets
  | 0, cs => cs
  | _ + 1, [] => []
  | fuel + 1, '%' :: rest =>
    let digits := rest.takeWhile fun c => c.isDigit || c = '-'
    match rest.drop digits.length with
    | [] => '%' :: digits
    | c :: more =>
      let text : Octets := match c with
        | 'a' => Nat.toDigits 8 i.mode
        | 'A' => modeText i
        | 'n' => name
        | 'N' => quoted name ++ (match i.node with | .link t => " -> ".toList ++ quoted t | _ => [])
        | 's' => Octets.ofNat (sizeOf i.node)
        | 'F' => (kindText i.node).toList
        | 'u' | 'g' => ['0']
        | 'U' | 'G' => "root".toList
        | 'h' => Octets.ofNat (files.names.filter fun e => some e.2 = files.index? p).length
        | 'f' => Nat.toDigits 16 (i.mode + match i.node with
            | .directory => 16384
            | .link _ => 40960
            | .device _ => 8192
            | _ => 32768)
        | 'i' => Octets.ofNat (((files.index? p).getD 0) + 100)
        | '%' => ['%']
        | _ => ['?']
      let left := digits.head? = some '-'
      Octets.fill left ' ' (Octets.valueOf 10 (digits.filter Char.isDigit)) text ++
        described files name p i escapes fuel more
  | fuel + 1, '\\' :: c :: rest =>
    if escapes then (Format.escape? c).getD c :: described files name p i escapes fuel rest
    else '\\' :: described files name p i escapes fuel (c :: rest)
  | fuel + 1, c :: rest => c :: described files name p i escapes fuel rest

def stat : Job Unit := do
  let f ← flags
    { letters := "c:fLt"
      names := [("dereference", "L"), ("file-system", "f"), ("format", "c:"), ("printf", "printf:"),
        ("terse", "t"), ("cached", "cached:")] } 1
  if f.operands.isEmpty then missingOperand 1
  let files ← files
  for n in f.operands do
    match ← find n (f.has "L") with
    | .error e => complain 1 ("cannot statx ".toList ++ quoted n ++ [':', ' '] ++ e.octets)
    | .ok (p, i) =>
      match f.value? "printf", f.value? "c" with
      | some layout, _ => out (described files n p i true (layout.length + 1) layout)
      | none, some layout => line (described files n p i false (layout.length + 1) layout)
      | none, none =>
        line (described files n p i false 100
          "  File: %n\n  Size: %s\tBlocks: 0\tIO Block: 4096 %F".toList)

end KeyRelay.Tools.Tree
