import KeyRelay.Tools.Amount
import KeyRelay.Tools.Tree

/-!
Tools that do one thing to a file: give it another name, take one away, cut it to a size, change its
owner.
-/

namespace KeyRelay.Tools.OneFile
open Shell Job

/-- Names of users and groups. -/
def known (name : Octets) : Bool :=
  (Octets.nat? name).isSome ||
    ["root", "daemon", "bin", "sys", "sync", "games", "man", "lp", "mail", "news", "uucp", "proxy",
      "www-data", "backup", "list", "irc", "nobody", "nogroup", "adm", "tty", "disk", "users",
      "staff"].contains (String.ofList name)

def link : Job Unit := do
  let f ← flags { letters := "" } 1
  match f.operands with
  | [] => missingOperand 1
  | [a] => usage 1 ("missing operand after ".toList ++ quoted a)
  | [a, b] =>
    let w ← get
    let refuse (e : SystemFault) : Job Unit :=
      complain 1 ("cannot create link ".toList ++ quoted b ++ " to ".toList ++ quoted a ++
        [':', ' '] ++ e.octets)
    match ← Tree.find a false, w.files.resolve w.call.directory b false with
    | .error e, _ | _, .error e => refuse e
    | .ok (p, i), .ok q =>
      if i.node = .directory then refuse .notPermitted
      else if (w.files.inode? q).isSome then refuse .isPresent
      else setFiles (w.files.addName q ((w.files.index? p).getD 0))
  | _ :: _ :: c :: _ => extraOperand 1 c

def unlink : Job Unit := do
  let f ← flags { letters := "" } 1
  match f.operands with
  | [] => missingOperand 1
  | [a] =>
    let refuse (e : SystemFault) : Job Unit :=
      complain 1 ("cannot unlink ".toList ++ quoted a ++ [':', ' '] ++ e.octets)
    match ← Tree.find a false with
    | .error e => refuse e
    | .ok (p, i) =>
      if i.node = .directory then refuse .isADirectory else setFiles ((← files).removeName p)
  | _ :: b :: _ => extraOperand 1 b

/-- The size that a text makes of another: a number, or one with a sign that says how. -/
def newSize? (old : Nat) (cs : Octets) : Option Nat :=
  match cs with
  | '+' :: n => (Amount.read? n).map (old + ·)
  | '-' :: n => (Amount.read? n).map (old - ·)
  | '<' :: n => (Amount.read? n).map (min old)
  | '>' :: n => (Amount.read? n).map (max old)
  | '/' :: n => (Amount.read? n).map fun k => old / k * k
  | '%' :: n => (Amount.read? n).map fun k => (old + k - 1) / k * k
  | n => Amount.read? n

def truncate : Job Unit := do
  let f ← flags
    { letters := "cor:s:"
      names := [("no-create", "c"), ("io-blocks", "o"), ("reference", "r:"), ("size", "s:")] } 1
  match f.value? "s" with
  | none => usage 1 "you must specify either '--size' or '--reference'".toList
  | some size =>
    if (newSize? 0 size).isNone then fail 1 ("Invalid number: ".toList ++ quoted size)
    if f.operands.isEmpty then usage 1 "missing file operand".toList
    for n in f.operands do
      let old := (← readFile n 0).toOption
      if old.isSome || !f.has "c" then
        let cs := old.getD []
        let count := (newSize? cs.length size).getD 0
        if let .error e ← writeFile n (cs.take count ++ List.replicate (count - cs.length) '\x00')
            then
          complain 1 ("cannot open ".toList ++ quoted n ++ " for writing: ".toList ++ e.octets)

/-- Owners are looked at and left as they are, since there is only one user. -/
def own (isGroup : Bool) : Job Unit := do
  let f ← flags
    { letters := "HLPRcfhv"
      names := [("changes", "c"), ("dereference", "dereference"), ("no-dereference", "h"),
        ("from", "from:"),
        ("no-preserve-root", "no-preserve-root"), ("preserve-root", "preserve-root"),
          ("quiet", "f"),
        ("recursive", "R"), ("reference", "reference:"), ("silent", "f"), ("verbose", "v")] } 1
  match f.operands with
  | [] => missingOperand 1
  | [a] => usage 1 ("missing operand after ".toList ++ quoted a)
  | owner :: names =>
    let user := if isGroup then [] else owner.takeWhile (· ≠ ':')
    let group := if isGroup then owner else (owner.drop (user.length + 1))
    if !user.isEmpty && !known user then fail 1 ("invalid user: ".toList ++ quoted owner)
    if !group.isEmpty && !known group then fail 1 ("invalid group: ".toList ++ quoted owner)
    for n in names do
      if let .error e ← Tree.find n true then
        if !f.has "f" then complain 1 ("cannot access ".toList ++ quoted n ++
          [':', ' '] ++ e.octets)
        else setStatus 1

end KeyRelay.Tools.OneFile
