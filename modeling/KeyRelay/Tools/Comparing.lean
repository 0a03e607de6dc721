import KeyRelay.Tools.Flags

/-!
Comparing two files: by octets up to the first that differs, and by lines, which ones are to be
deleted and added to make one of the other.
-/

namespace KeyRelay.Tools.Comparing
open Shell Job

/-- Complains of how a tool is used, and names the tool again. -/
def misuse {α : Type} (text : Octets) : Job α := do
  let name := (← call).name
  warn text
  warn ("Try '".toList ++ name ++ " --help' for more information.".toList)
  exit 2

/-- The options of the tool. -/
def options (r : FlagRules) : Job Flags := do
  let args := (← call).args
  match r.read (args.length + 1) {} args with
  | .ok f =>
    if f.has "help" || f.has "version" then exit 0
    return f
  | .error e => misuse e.text

/-- The content of an operand; ends where there is none. -/
def content (name : Octets) : Job Octets := do
  match ← openOperand name Files.muchOf with
  | .ok cs => return cs
  | .error e => fail 2 (name ++ [':', ' '] ++ e.octets)

/-! ### By octets -/

/-- The place of the first octets that differ, and its line; none where one text goes on as the
other or ends. -/
def difference? : Nat → Nat → Octets → Octets → Option (Nat × Nat)
  | place, l, a :: as, b :: bs =>
    if a = b then difference? (place + 1) (if a = '\n' then l + 1 else l) as bs else some (place, l)
  | _, _, _, _ => none

def cmp : Job Unit := do
  let f ← options
    { letters := "bci:ln:sv"
      names := [("print-bytes", "b"), ("print-chars", "c"), ("ignore-initial", "i:"),
        ("verbose", "l"), ("bytes", "n:"), ("silent", "s"), ("quiet", "s")] }
  let (a, b) ← match f.operands with
    | [] => misuse ("missing operand after ".toList ++ quoted (← call).name)
    | [a] => pure (a, ['-'])
    | [a, b] => pure (a, b)
    | _ :: _ :: c :: _ => misuse ("extra operand ".toList ++ quoted c)
  let x ← content a
  let y ← content b
  if x ≠ y then
    setStatus 1
    if !f.has "s" then
      match difference? 1 1 x y with
      | some (place, l) =>
        line (a ++ ' ' :: b ++ " differ: char ".toList ++ Octets.ofNat place ++ ", line ".toList ++
          Octets.ofNat l)
      | none =>
        let (name, cs) := if x.length < y.length then (a, x) else (b, y)
        warn ("EOF on ".toList ++ name ++
          if cs.isEmpty then " which is empty".toList
          else " after byte ".toList ++ Octets.ofNat cs.length ++
            (if Octets.endsLine cs then ", line ".toList else ", in line ".toList) ++
            Octets.ofNat ((cs.filter (· = '\n')).length + if Octets.endsLine cs then 0 else 1))

/-! ### By lines -/

/-- For each pair of ends of two lists, how many lines they have in common at most. -/
def commonCounts (as bs : Array Octets) : Array (Array Nat) :=
  as.foldr (fun a rows =>
    let below := rows[0]?.getD #[]
    let row := (List.range bs.size).reverse.foldl (fun (row : List Nat) j =>
      (if some a = bs[j]? then (below[j + 1]?).getD 0 + 1
        else max ((below[j]?).getD 0) (row.headD 0)) :: row) [0]
    #[row.toArray] ++ rows) #[(List.replicate (bs.size + 1) 0).toArray]

/-- A run of lines to be deleted and lines to be added, with the places where they begin. -/
structure Change where
  place : Nat
  otherPlace : Nat
  deleted : List Octets := []
  added : List Octets := []

/-- The changes that make one list of the other. -/
def changes (as bs : Array Octets) (counts : Array (Array Nat)) :
    Nat → Nat → Nat → Option Change → List Change
  | 0, _, _, open' => open'.toList
  | fuel + 1, i, j, open' =>
    let count (i j : Nat) : Nat := ((counts[i]?).bind fun row => row[j]?).getD 0
    let c := open'.getD { place := i, otherPlace := j }
    match as[i]?, bs[j]? with
    | none, none => open'.toList
    | some a, none =>
      changes as bs counts fuel (i + 1) j (some { c with deleted := c.deleted ++ [a] })
    | none, some b => changes as bs counts fuel i (j + 1) (some { c with added := c.added ++ [b] })
    | some a, some b =>
      if a = b then open'.toList ++ changes as bs counts fuel (i + 1) (j + 1) none
      else if count i (j + 1) ≤ count (i + 1) j then
        changes as bs counts fuel (i + 1) j (some { c with deleted := c.deleted ++ [a] })
      else changes as bs counts fuel i (j + 1) (some { c with added := c.added ++ [b] })

/-- The numbers of some lines. -/
def rangeText (start count : Nat) : Octets :=
  if count = 0 then Octets.ofNat start
  else if count = 1 then Octets.ofNat (start + 1)
  else Octets.ofNat (start + 1) ++ ',' :: Octets.ofNat (start + count)

def Change.text (c : Change) : Octets :=
  let letter := if c.deleted.isEmpty then 'a' else if c.added.isEmpty then 'd' else 'c'
  let marked (mark : Char) (ls : List Octets) : Octets :=
    Octets.ofLines (ls.map fun l => mark :: ' ' :: l)
  rangeText c.place c.deleted.length ++ letter :: rangeText c.otherPlace c.added.length ++ ['\n'] ++
    marked '<' c.deleted ++ (if letter = 'c' then "---\n".toList else []) ++ marked '>' c.added

def diffRules : FlagRules where
  letters := "0123456789abBcC:dD:eEfF:hHiI:lL:nNpPqrsS:tTuU:vwW:x:X:yZ"
  names := [("brief", "q"), ("report-identical-files", "s"), ("unified", "u"), ("context", "c"),
    ("text", "a"),
    ("ignore-case", "i"), ("ignore-all-space", "w"), ("ignore-space-change", "b"),
      ("ignore-blank-lines", "B"),
    ("new-file", "N"), ("recursive", "r"), ("side-by-side", "y"), ("normal", "normal"),
      ("label", "L:")]

def diff : Job Unit := do
  let f ← options diffRules
  let (a, b) ← match f.operands with
    | [] => misuse ("missing operand after ".toList ++ quoted (← call).name)
    | [a] => misuse ("missing operand after ".toList ++ quoted a)
    | [a, b] => pure (a, b)
    | _ :: _ :: c :: _ => misuse ("extra operand ".toList ++ quoted c)
  let w ← get
  let isDirectory (n : Octets) : Bool := w.files.isDirectory w.call.directory n
  let under (d n : Octets) : Octets := Octets.dropEndWhile (· = '/') d ++ '/' :: Path.lastName n
  let (a, b) :=
    if isDirectory a && !isDirectory b then (under a b, b)
    else if isDirectory b && !isDirectory a then (a, under b a) else (a, b)
  let x ← content a
  let y ← content b
  let key (l : Octets) : Octets :=
    let l := if f.has "w" then l.filter (!Octets.isSpace ·) else l
    if f.has "i" then l.map Char.toLower else l
  if x = y then
    if f.has "s" then line ("Files ".toList ++ a ++ " and ".toList ++ b ++ " are identical".toList)
  else
    let as := (Octets.lines x).toArray
    let bs := (Octets.lines y).toArray
    let cs := changes as bs (commonCounts as bs) (as.size + bs.size + 1) 0 0 none
    if as.map key ≠ bs.map key || cs.isEmpty then
      setStatus 1
      if f.has "q" then line ("Files ".toList ++ a ++ " and ".toList ++ b ++ " differ".toList)
      else out (cs.flatMap Change.text)

end KeyRelay.Tools.Comparing
