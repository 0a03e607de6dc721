import KeyRelay.Shell.Format
import KeyRelay.Tools.Flags

/-!
Lines in order: sorting them by keys, leaving out repeated ones, and comparing two sorted files.
Texts are compared by the codes of their octets.
-/

namespace KeyRelay.Tools.Sorting
open Shell Job

/-! ### Keys -/

/-- How a part of a line is compared. -/
structure Manner where
  skipBlanks : Bool := false
  dictionary : Bool := false
  fold : Bool := false
  printable : Bool := false
  numeric : Bool := false
  general : Bool := false
  human : Bool := false
  month : Bool := false
  version : Bool := false
  reverse : Bool := false
  deriving DecidableEq, Repr

/-- Where a key begins or ends: a field, and a character in it; zero for the end of the field. -/
structure Place where
  field : Nat
  char : Nat
  skipBlanks : Bool := false
  deriving DecidableEq, Repr

structure Key where
  start : Place
  stop : Option Place
  manner : Manner
  deriving Repr

namespace Manner

/-- The manner with one more letter. -/
def letter? (m : Manner) (c : Char) : Option Manner :=
  match c with
  | 'b' => some { m with skipBlanks := true }
  | 'd' => some { m with dictionary := true }
  | 'f' => some { m with fold := true }
  | 'g' => some { m with general := true }
  | 'h' => some { m with human := true }
  | 'i' => some { m with printable := true }
  | 'M' => some { m with month := true }
  | 'n' => some { m with numeric := true }
  | 'r' => some { m with reverse := true }
  | 'V' => some { m with version := true }
  | _ => none

def isPlain (m : Manner) : Bool :=
  m = {}

/-- A number at the front of a text, as its sign, its whole digits and the digits behind the
point. -/
def number (cs : Octets) : Bool × Octets × Octets :=
  let cs := cs.dropWhile Octets.isBlank
  let (negative, cs) := match cs with
    | '-' :: rest => (true, rest)
    | rest => (false, rest)
  let whole := cs.takeWhile Char.isDigit
  let places := match cs.drop whole.length with
    | '.' :: rest => rest.takeWhile Char.isDigit
    | _ => []
  let whole := whole.dropWhile (· = '0')
  let places := Octets.dropEndWhile (· = '0') places
  (negative && !(whole.isEmpty && places.isEmpty), whole, places)

def orderDigits (a b : Octets × Octets) : Ordering :=
  ((compare a.1.length b.1.length).then (Octets.order a.1 b.1)).then (Octets.order a.2 b.2)

def orderSigned (a b : Bool × Octets × Octets) : Ordering :=
  match a.1, b.1 with
  | false, false => orderDigits a.2 b.2
  | true, true => orderDigits b.2 a.2
  | true, false => .lt
  | false, true => .gt

/-- The letter that a number of people is followed by, as its rank. -/
def unit (cs : Octets) : Nat :=
  let rest := (cs.dropWhile Octets.isBlank).dropWhile fun c => c.isDigit || c = '-' || c = '.'
  match rest with
  | c :: _ => ("KMGTPEZY".toList.idxOf? (if c = 'k' then 'K' else c)).elim 0 (· + 1)
  | [] => 0

def orderHuman (a b : Octets) : Ordering :=
  let x := number a
  let y := number b
  let isZero (n : Bool × Octets × Octets) : Bool := n.2.1.isEmpty && n.2.2.isEmpty
  let rank (n : Bool × Octets × Octets) (cs : Octets) : Int :=
    if isZero n then 0 else if n.1 then -(unit cs : Int) else unit cs
  ((compare (if x.1 then 0 else 1) (if y.1 then 0 else 1)).then
    (compare (rank x a) (rank y b))).then
    (orderSigned x y)

def monthRank (cs : Octets) : Nat :=
  let name := ((cs.dropWhile Octets.isBlank).take 3).map Char.toUpper
  (["JAN", "FEB", "MAR", "APR", "MAY", "JUN", "JUL", "AUG", "SEP", "OCT", "NOV", "DEC"].idxOf?
    (String.ofList name)).elim 0 (· + 1)

/-- The rank of a character that is no digit in versions. -/
def versionRank (c : Option Char) : Int :=
  match c with
  | none => 0
  | some c =>
    if c = '~' then -1 else if c.isDigit then 0 else if c.isAlpha then c.toNat else c.toNat + 256

/-- Versions: runs of digits by value, what stands between them by letters first. -/
def orderVersion : Nat → Octets → Octets → Ordering
  | 0, _, _ => .eq
  | _ + 1, [], [] => .eq
  | fuel + 1, as, bs =>
    let isWord (c : Option Char) : Bool := (c.map fun c => !c.isDigit).getD false
    if isWord as.head? || isWord bs.head? then
      match compare (versionRank as.head?) (versionRank bs.head?) with
      | .eq => orderVersion fuel (as.drop 1) (bs.drop 1)
      | o => o
    else
      let x := (as.takeWhile Char.isDigit).dropWhile (· = '0')
      let y := (bs.takeWhile Char.isDigit).dropWhile (· = '0')
      match (compare x.length y.length).then (Octets.order x y) with
      | .eq => orderVersion fuel (as.dropWhile Char.isDigit) (bs.dropWhile Char.isDigit)
      | o => o

/-- The characters of a text that count, as they are compared. -/
def seen (m : Manner) (cs : Octets) : Octets :=
  let cs := if m.dictionary then cs.filter fun c => c.isAlphanum || Octets.isBlank c else cs
  let cs := if m.printable then cs.filter fun c => ' ' ≤ c && c ≤ '~' else cs
  if m.fold then cs.map Char.toUpper else cs

/-- Two parts of lines in a manner, without regard to the direction. -/
def forward (m : Manner) (a b : Octets) : Ordering :=
  if m.numeric then orderSigned (number a) (number b)
  else if m.human then orderHuman a b
  else if m.general then
    let value (cs : Octets) : Float := (Format.scanFloat? cs).elim (-1.0 / 0.0) (·.1)
    if value a < value b then .lt else if value b < value a then .gt else .eq
  else if m.month then compare (monthRank a) (monthRank b)
  else if m.version then orderVersion (a.length + b.length + 1) a b
  else Octets.order (m.seen a) (m.seen b)

def order (m : Manner) (a b : Octets) : Ordering :=
  if m.reverse then (m.forward a b).swap else m.forward a b

end Manner

/-! ### Fields -/

/-- What follows so many fields, the mark behind the last of them included where there is one. -/
def afterFields (mark : Option Char) : Nat → Octets → Octets
  | 0, cs => cs
  | n + 1, cs =>
    match mark with
    | some t => afterFields mark n ((cs.dropWhile (· ≠ t)).drop 1)
    | none => afterFields mark n ((cs.dropWhile Octets.isBlank).dropWhile (!Octets.isBlank ·))

/-- What of a line a key begins with. -/
def fromPlace (mark : Option Char) (p : Place) (cs : Octets) : Octets :=
  let rest := afterFields mark (p.field - 1) cs
  (if p.skipBlanks then rest.dropWhile Octets.isBlank else rest).drop (p.char - 1)

/-- What of a line follows a key. -/
def behindPlace (mark : Option Char) (p : Place) (cs : Octets) : Octets :=
  if p.char = 0 then
    match mark with
    | some t => (afterFields mark (p.field - 1) cs).dropWhile (· ≠ t)
    | none => afterFields mark p.field cs
  else
    let rest := afterFields mark (p.field - 1) cs
    (if p.skipBlanks then rest.dropWhile Octets.isBlank else rest).drop p.char

/-- The part of a line that a key names. -/
def Key.part (k : Key) (mark : Option Char) (cs : Octets) : Octets :=
  let start := fromPlace mark k.start cs
  let part := match k.stop with
    | none => start
    | some p => start.take (start.length - (behindPlace mark p cs).length)
  if k.manner.skipBlanks then part.dropWhile Octets.isBlank else part

/-- The first key that tells lines apart decides. -/
def orderKeys (mark : Option Char) (ks : List Key) (a b : Octets) : Ordering :=
  ks.foldr (fun k rest => (k.manner.order (k.part mark a) (k.part mark b)).then rest) .eq

/-! ### Reading keys -/

inductive KeyFault where
  | badCount (at' : Octets)
  | zeroField (key : Octets)
  | zeroOffset (key : Octets)
  | stray (key : Octets)
  | badNumber (field : Octets)
  deriving DecidableEq, Repr

def KeyFault.text (f : KeyFault) : Octets :=
  match f with
  | .badCount cs => "invalid number after '.': invalid count at start of ".toList ++ quoted cs
  | .badNumber cs => "invalid number at field start: invalid count at start of ".toList ++ quoted cs
  | .zeroField cs => "field number is zero: invalid field specification ".toList ++ quoted cs
  | .zeroOffset cs => "character offset is zero: invalid field specification ".toList ++ quoted cs
  | .stray cs => "stray character in field spec: invalid field specification ".toList ++ quoted cs

/-- Letters behind a place; blanks that are skipped belong to the place. -/
def mannerLetters (m : Manner) (skip : Bool) : Octets → Manner × Bool × Octets
  | [] => (m, skip, [])
  | c :: cs =>
    if c = 'b' then mannerLetters m true cs
    else
      match m.letter? c with
      | some m => mannerLetters m skip cs
      | none => (m, skip, c :: cs)

/-- A place: a field, and behind a point a character. -/
def place (key : Octets) (noChar : Nat) (cs : Octets) : Except KeyFault (Place × Octets) := do
  let field := cs.takeWhile Char.isDigit
  if field.isEmpty then throw (.badNumber cs)
  if Octets.valueOf 10 field = 0 then throw (.zeroField key)
  match cs.drop field.length with
  | '.' :: rest =>
    let ds := rest.takeWhile Char.isDigit
    if ds.isEmpty then throw (.badCount rest)
    return ({ field := Octets.valueOf 10 field, char := Octets.valueOf 10 ds }, rest.drop ds.length)
  | rest => return ({ field := Octets.valueOf 10 field, char := noChar }, rest)

def key (cs : Octets) : Except KeyFault Key := do
  let (start, rest) ← place cs 1 cs
  if start.char = 0 then throw (.zeroOffset cs)
  let (m, skip, rest) := mannerLetters {} false rest
  let start := { start with skipBlanks := skip }
  match rest with
  | [] => return ⟨start, none, m⟩
  | ',' :: rest =>
    let (stop, rest) ← place cs 0 rest
    let (m, skip, rest) := mannerLetters m false rest
    if !rest.isEmpty then throw (.stray cs)
    return ⟨start, some { stop with skipBlanks := skip }, m⟩
  | _ => throw (.stray cs)

/-! ### The sorter -/

def sortRules : FlagRules where
  letters := "bcCdfghik:mMno:rRsS:t:T:uVy:z"
  names := [("ignore-leading-blanks", "b"), ("check", "check::"), ("dictionary-order", "d"),
    ("ignore-case", "f"), ("general-numeric-sort", "g"), ("human-numeric-sort", "h"),
    ("ignore-nonprinting", "i"), ("key", "k:"), ("merge", "m"), ("month-sort", "M"),
    ("numeric-sort", "n"), ("output", "o:"), ("reverse", "r"), ("random-sort", "R"),
    ("sort", "sort:"), ("stable", "s"), ("buffer-size", "S:"), ("field-separator", "t:"),
    ("temporary-directory", "T:"), ("unique", "u"), ("version-sort", "V"), ("zero-terminated", "z"),
    ("batch-size", "batch-size:"), ("compress-program", "compress-program:"), ("debug", "debug"),
    ("files0-from", "files0-from:"), ("parallel", "parallel:"), ("random-source", "random-source:")]

/-- The manner that options tell for keys without one of their own. -/
def globalManner (f : Flags) : Manner :=
  f.given.foldl (fun m (key, value) =>
    let word := if key = "sort"
      then (value.head?.map fun c => if c = 'm' then 'M' else if c = 'v' then 'V' else c)
      else if key.length = 1 then key.toList.head? else none
    (word.bind m.letter?).getD m) {}

/-- Of neighbours that are alike the first. -/
def firsts (alike : Octets → Octets → Bool) : List Octets → List Octets
  | [] => []
  | a :: as => a :: go a as
where
  go (last : Octets) : List Octets → List Octets
    | [] => []
    | b :: bs => if alike last b then go last bs else b :: go b bs

/-- The first line that does not come after the one before it, with its number. -/
def disorder? (inOrder : Octets → Octets → Bool) : Nat → List Octets → Option (Nat × Octets)
  | n, a :: b :: more => if inOrder a b then disorder? inOrder (n + 1) (b :: more)
    else some (n + 1, b)
  | _, _ => none

def separator (value : Octets) : Job Char :=
  match value with
  | [] => fail 2 "empty tab".toList
  | [c] => return c
  | ['\\', '0'] => return '\x00'
  | _ => fail 2 ("multi-character tab ".toList ++ quoted value)

def readKeys (values : List Octets) : Job (List Key) :=
  values.mapM fun v =>
    match key v with
    | .ok k => return k
    | .error e => fail 2 e.text

def sort : Job Unit := do
  let f ← flags sortRules 2
  let mark ← (f.value? "t").mapM separator
  let global := globalManner f
  let named ← readKeys (f.values "k")
  let keys := named.map fun k =>
    let plain := k.manner.isPlain && !k.start.skipBlanks && !(k.stop.any (·.skipBlanks))
    if plain then
      { k with
        manner := global
        start := { k.start with skipBlanks := global.skipBlanks }
        stop := k.stop.map fun p => { p with skipBlanks := global.skipBlanks } }
    else k
  let whole : List Key := if keys.isEmpty && !({ global with reverse := false } : Manner).isPlain
      then
      [⟨{ field := 1, char := 1, skipBlanks := global.skipBlanks }, none, global⟩]
    else keys
  let onlyKeys := f.has "u" || f.has "s"
  let last (a b : Octets) : Ordering :=
    if global.reverse then (Octets.order a b).swap else Octets.order a b
  let compare' (a b : Octets) : Ordering :=
    if whole.isEmpty then last a b
    else (orderKeys mark whole a b).then (if onlyKeys then .eq else last a b)
  let mode := f.last? ["c", "C", "check"]
  if mode.isSome then
    if let second :: _ := f.operands.drop 1 then
      fail 2 ("extra operand ".toList ++ quoted second ++ " not allowed with -c".toList)
  let names := if f.operands.isEmpty then [['-']] else f.operands
  let parts ← names.mapM fun n => do
    match ← openOperand n Files.muchOf with
    | .ok cs => return cs
    | .error .isADirectory => fail 2 ("read failed: ".toList ++ n ++ ": Is a directory".toList)
    | .error e => fail 2 ("cannot read: ".toList ++ n ++ [':', ' '] ++ e.octets)
  let ending := if f.has "z" then '\x00' else '\n'
  let lines (cs : Octets) : List Octets :=
    let pieces := Octets.splitAt (· = ending) cs
    if pieces.getLast? = some [] then pieces.dropLast else pieces
  let all := parts.flatMap lines
  match mode with
  | some how =>
    let inOrder (a b : Octets) : Bool :=
      match compare' a b with
      | .lt => true
      | .eq => !f.has "u"
      | .gt => false
    match disorder? inOrder 1 all with
    | none => return ()
    | some (n, line) =>
      if how = "C" || (f.value? "check").any (fun v => v = "silent".toList || v = "quiet".toList)
        then exit 1
      fail 1 (names.headD ['-'] ++ [':'] ++ Octets.ofNat n ++ ": disorder: ".toList ++ line)
  | none =>
    let sorted := all.mergeSort fun a b => (compare' a b).isLE
    let sorted := if f.has "u" then firsts (fun a b => compare' a b = .eq) sorted else sorted
    let text := sorted.flatMap (· ++ [ending])
    match f.value? "o" with
    | none => out text
    | some file =>
      match ← writeFile file text with
      | .ok () => return ()
      | .error e => fail 2 ("open failed: ".toList ++ file ++ [':', ' '] ++ e.octets)

/-! ### Repeated lines -/

def uniqRules : FlagRules where
  letters := "0123456789Dcdf:is:uw:z"
  names := [("count", "c"), ("repeated", "d"), ("all-repeated", "all-repeated::"),
    ("group", "group::"), ("ignore-case", "i"), ("unique", "u"), ("skip-fields", "f:"),
    ("skip-chars", "s:"), ("check-chars", "w:"), ("zero-terminated", "z")]

/-- Runs of neighbours that are alike. -/
def runs (alike : Octets → Octets → Bool) (ls : List Octets) : List (List Octets) :=
  ls.splitBy alike

def uniq : Job Unit := do
  let f ← flags uniqRules 1
  if let extra :: _ := f.operands.drop 2 then extraOperand 1 extra
  let amount (key : String) (what : String) : Job Nat :=
    match f.value? key with
    | none => return 0
    | some v =>
      match Octets.nat? v with
      | some n => return n
      | none => fail 1 (v ++ ": invalid number of ".toList ++ what.toList)
  let fields ← amount "f" "fields to skip"
  let chars ← amount "s" "bytes to skip"
  let most ← (f.value? "w").mapM fun _ => amount "w" "bytes to compare"
  let skipField (cs : Octets) : Octets :=
    (cs.dropWhile Octets.isBlank).dropWhile (!Octets.isBlank ·)
  let part (cs : Octets) : Octets :=
    let cs := ((List.range fields).foldl (fun cs _ => skipField cs) cs).drop chars
    let cs := most.elim cs cs.take
    if f.has "i" then cs.map Char.toUpper else cs
  let name := f.operands.headD ['-']
  let text ← match ← openOperand name Files.muchOf with
    | .ok cs => pure cs
    | .error .isADirectory =>
      fail 1 ("error reading ".toList ++ quoted name ++ ": Is a directory".toList)
    | .error e => fail 1 (name ++ [':', ' '] ++ e.octets)
  let groups := runs (fun a b => part a = part b) (Octets.lines (if f.has "z" then text.map fun c =>
    if c = '\x00' then '\n' else c else text))
  let kept := groups.filter fun g =>
    (!f.has "d" || 1 < g.length) && (!f.has "u" || g.length = 1) &&
      (!(f.has "D" || f.has "all-repeated") || 1 < g.length)
  let ending := if f.has "z" then '\x00' else '\n'
  let shown := kept.flatMap fun g =>
    let first := g.headD []
    if f.has "D" || f.has "all-repeated" then g.flatMap (· ++ [ending])
    else if f.has "c" then Octets.fill false ' ' 7 (Octets.ofNat g.length) ++ ' ' ::
      first ++ [ending]
    else first ++ [ending]
  match f.operands[1]? with
  | none => out shown
  | some file =>
    match ← writeFile file shown with
    | .ok () => return ()
    | .error e => fail 1 (file ++ [':', ' '] ++ e.octets)

/-! ### Comparing sorted files -/

def commRules : FlagRules where
  letters := "123z"
  names := [("check-order", "check-order"), ("nocheck-order", "nocheck-order"),
    ("output-delimiter", "output-delimiter:"), ("total", "total"), ("zero-terminated", "z")]

/-- Lines of two sorted files with the column they belong to. -/
def compared : List Octets → List Octets → List (Nat × Octets)
  | [], bs => bs.map (2, ·)
  | as, [] => as.map (1, ·)
  | a :: as, b :: bs =>
    match Octets.order a b with
    | .eq => (3, a) :: compared as bs
    | .lt => (1, a) :: compared as (b :: bs)
    | .gt => (2, b) :: compared (a :: as) bs

def comm : Job Unit := do
  let f ← flags commRules 1
  match f.operands with
  | [] => missingOperand 1
  | [a] => usage 1 ("missing operand after ".toList ++ quoted a)
  | _ :: _ :: extra :: _ => extraOperand 1 extra
  | [a, b] =>
    let content (n : Octets) : Job (List Octets) := do
      match ← operand? n 1 with
      | some cs => return Octets.lines cs
      | none => exit 1
    let as ← content a
    let bs ← content b
    let mark := (f.value? "output-delimiter").getD ['\t']
    let without (n : Nat) : Bool := f.has (toString n)
    for (column, text) in compared as bs do
      unless without column do
        let marks := ((List.range column).drop 1).filter fun n => !without n
        line (marks.flatMap (fun _ => mark) ++ text)

end KeyRelay.Tools.Sorting
