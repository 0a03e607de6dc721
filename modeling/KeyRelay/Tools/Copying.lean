import KeyRelay.Tools.Excerpt

/-!
Copies of files to the output: as they are, with marks and numbers, from the last line or the last
character on, to other files as well, or only their sizes.
-/

namespace KeyRelay.Tools.Copying
open Shell Job

/-! ### Copies with marks -/

def catRules : FlagRules where
  letters := "benstuvAET"
  names := [("number-nonblank", "b"), ("number", "n"), ("squeeze-blank", "s"),
    ("show-nonprinting", "v"), ("show-ends", "E"), ("show-tabs", "T"), ("show-all", "A")]

/-- Which marks are made. -/
structure Marks where
  ends : Bool
  tabs : Bool
  control : Bool

/-- An octet as it is shown. -/
def Marks.shown (m : Marks) (c : Char) : Octets :=
  if c = '\t' then (if m.tabs then ['^', 'I'] else [c])
  else if !m.control || c = '\n' then [c]
  else
    let plain (n : Nat) : Octets :=
      if n < 32 then ['^', Char.ofNat (n + 64)] else if n = 127 then ['^', '?'] else [Char.ofNat n]
    if 128 ≤ c.toNat then "M-".toList ++ plain (c.toNat - 128) else plain c.toNat

/-- Lines with the numbers in front of them; a run of empty ones may be made one. -/
def numbered (all nonEmpty squeeze : Bool) : Nat → Bool → List Octets → List (Octets × Octets)
  | _, _, [] => []
  | n, wasEmpty, l :: more =>
    if squeeze && wasEmpty && l.isEmpty then numbered all nonEmpty squeeze n true more
    else if all && !(nonEmpty && l.isEmpty) then
      (Octets.fill false ' ' 6 (Octets.ofNat n) ++ ['\t'], l) ::
        numbered all nonEmpty squeeze (n + 1) l.isEmpty more
    else ([], l) :: numbered all nonEmpty squeeze n l.isEmpty more

def cat : Job Unit := do
  let f ← flags catRules 1
  let text ← contents f.operands 1
  let m : Marks :=
    { ends := f.has "E" || f.has "e" || f.has "A"
      tabs := f.has "T" || f.has "t" || f.has "A"
      control := f.has "v" || f.has "e" || f.has "t" || f.has "A" }
  if f.given.all fun e => e.1 = "u" then out text
  else
    let ls := numbered (f.has "n" || f.has "b") (f.has "b") (f.has "s") 1 false (Octets.lines text)
    let open' := !Octets.endsLine text
    let count := ls.length
    out (ls.zipIdx.flatMap fun ((number, l), i) =>
      number ++ l.flatMap m.shown ++
        if open' && i + 1 = count then [] else if m.ends then ['$', '\n'] else ['\n'])

/-! ### From the end on -/

def tacRules : FlagRules where
  letters := "brs:"
  names := [("before", "b"), ("regex", "r"), ("separator", "s:")]

/-- Pieces of a text that each end with a separator, except perhaps the last. -/
def records (separator : Octets) : Nat → Octets → Octets → List Octets
  | 0, held, cs => [held.reverse ++ cs]
  | _ + 1, held, [] => if held.isEmpty then [] else [held.reverse]
  | fuel + 1, held, c :: cs =>
    if !separator.isEmpty && separator.isPrefixOf (c :: cs) then
      (held.reverse ++ separator) :: records separator fuel [] ((c :: cs).drop separator.length)
    else records separator fuel (c :: held) cs

def tac : Job Unit := do
  let f ← flags tacRules 1
  let separator := (f.value? "s").getD ['\n']
  for n in if f.operands.isEmpty then [['-']] else f.operands do
    match ← openOperand n Files.muchOf with
    | .ok cs => out (records separator (cs.length + 1) [] cs).reverse.flatten
    | .error .isADirectory => complain 1 (n ++ ": read error: Invalid argument".toList)
    | .error e =>
      complain 1 ("failed to open ".toList ++ quoted n ++ " for reading: ".toList ++ e.octets)

def rev : Job Unit := do
  let f ← flags { letters := "hV0", names := [("zero", "0")] } 1
  for n in if f.operands.isEmpty then [['-']] else f.operands do
    match ← openOperand n Files.muchOf with
    | .ok cs => out (Octets.joinWith ['\n'] ((Octets.splitAt (· = '\n') cs).map List.reverse))
    | .error .isADirectory => setStatus 1
    | .error e => complain 1 ("cannot open ".toList ++ n ++ [':', ' '] ++ e.octets)

/-! ### Numbered lines -/

def nlRules : FlagRules where
  letters := "h:b:f:v:i:pl:s:w:n:d:"
  names := [("header-numbering", "h:"), ("body-numbering", "b:"), ("footer-numbering", "f:"),
    ("starting-line-number", "v:"), ("line-increment", "i:"), ("no-renumber", "p"),
    ("join-blank-lines", "l:"), ("number-separator", "s:"), ("number-width", "w:"),
    ("number-format", "n:"), ("section-delimiter", "d:")]

/-- Words without the letters that are no options, and those letters. -/
def withoutStrays (letters : String) : List Octets → List Octets × List Char
  | [] => ([], [])
  | word :: more =>
    let (words, strays) := withoutStrays letters more
    match word with
    | ['-', '-'] => (word :: more, [])
    | '-' :: '-' :: _ => (word :: words, strays)
    | '-' :: cs =>
      let flags := cs.takeWhile fun c => FlagRules.letterRule? c letters.toList ≠ some .always
      let (good, bad) := flags.partition fun c => (FlagRules.letterRule? c letters.toList).isSome
      let kept := good ++ cs.drop flags.length
      (if kept.isEmpty && !bad.isEmpty then words else ('-' :: kept) :: words, bad ++ strays)
    | word => (word :: words, strays)

def nl : Job Unit := do
  let c ← call
  let (args, strays) := withoutStrays nlRules.letters c.args
  for x in strays do warn (FlagFault.invalid x).text
  let f ← flagsOf nlRules args 1
  let style := (f.value? "b").getD ['t']
  if !([['a'], ['t'], ['n']].contains style) then
    usage 1 ("invalid body numbering style: ".toList ++ quoted style)
  let amount (key what : String) (fallback : Int) : Job Int :=
    match f.value? key with
    | none => return fallback
    | some v =>
      match Octets.int? v with
      | some n => return n
      | none => fail 1 ("invalid ".toList ++ what.toList ++ ": ".toList ++ quoted v)
  let start ← amount "v" "starting line number" 1
  let step ← amount "i" "line number increment" 1
  let width ← amount "w" "line number field width" 6
  if width < 1 then
    fail 1 ("invalid line number field width: ".toList ++ quoted ((f.value? "w").getD []) ++
      ": Numerical result out of range".toList)
  let layout := (f.value? "n").getD "rn".toList
  if !(["ln", "rn", "rz"].contains (String.ofList layout)) then
    usage 1 ("invalid line numbering format: ".toList ++ quoted layout)
  if !strays.isEmpty then tryHelp 1
  let separator := (f.value? "s").getD ['\t']
  let text ← contents f.operands 1
  let number (n : Int) : Octets :=
    let ds := Octets.ofInt n
    if layout = "ln".toList then Octets.fill true ' ' width.toNat ds
    else if layout = "rz".toList then
      if n < 0 then '-' :: Octets.fill false '0' (width.toNat - 1) (ds.drop 1)
      else Octets.fill false '0' width.toNat ds
    else Octets.fill false ' ' width.toNat ds
  let (ls, _) := (Octets.lines text).foldl (fun (done, n) l =>
    if ["\\:\\:\\:", "\\:\\:", "\\:"].contains (String.ofList l) then ([] :: done, start)
    else if style = ['a'] || style = ['t'] && !l.isEmpty
      then ((number n ++ separator ++ l) :: done, n + step)
    else ((List.replicate (width.toNat + separator.length) ' ' ++ l) :: done, n))
      (([] : List Octets), start)
  out (Octets.ofLines ls.reverse)

/-! ### Copies to other files -/

def teeRules : FlagRules where
  letters := "aip"
  names := [("append", "a"), ("ignore-interrupts", "i"), ("output-error", "output-error::")]

def tee : Job Unit := do
  let f ← flags teeRules 1
  let text ← takeInput
  for n in f.operands do
    if n = "/dev/stdout".toList || n = "/dev/stderr".toList then
      if n = "/dev/stdout".toList then out text else errorText text
    else
      let before ← if f.has "a" then readFile n Files.muchOf else pure (.ok [])
      match ← writeFile n (before.toOption.getD [] ++ text) with
      | .ok () => pure ()
      | .error e => complain 1 (n ++ [':', ' '] ++ e.octets)
  out text

/-! ### Sizes -/

def wcRules : FlagRules where
  letters := "clLmw"
  names := [("bytes", "c"), ("chars", "m"), ("lines", "l"), ("words", "w"),
    ("files0-from", "files0-from:"), ("max-line-length", "L"), ("total", "total:")]

/-- What is counted of a text. -/
structure Sizes where
  lines : Nat := 0
  words : Nat := 0
  octets : Nat := 0
  longest : Nat := 0

def Sizes.of (cs : Octets) : Sizes where
  lines := (cs.filter (· = '\n')).length
  words := (Octets.words cs).length
  octets := cs.length
  longest := (Octets.splitAt (fun c => c = '\n' || c = '\r' || c = '\x0c') cs).foldl (fun m l =>
    max m (l.foldl (fun n c => if c = '\t' then n + 8 - n % 8 else if ' ' ≤ c && c ≤ '~' then n + 1
      else n) 0)) 0

def Sizes.add (a b : Sizes) : Sizes :=
  ⟨a.lines + b.lines, a.words + b.words, a.octets + b.octets, max a.longest b.longest⟩

def wc : Job Unit := do
  let f ← flags wcRules 1
  let all := !(["l", "w", "m", "c", "L"].any f.has)
  let columns (s : Sizes) : List Nat :=
    (if all || f.has "l" then [s.lines] else []) ++ (if all || f.has "w" then [s.words] else []) ++
      (if f.has "m" then [s.octets] else []) ++ (if all || f.has "c" then [s.octets] else []) ++
      (if f.has "L" then [s.longest] else [])
  let names := if f.operands.isEmpty then [['-']] else f.operands
  let w ← get
  let single := (columns {}).length = 1
  let known (n : Octets) : Option Nat :=
    if n = ['-'] then (if w.call.streams.head? = some .file then some w.left.length else none)
    else
      match w.files.find w.call.directory n with
      | .ok (_, ⟨.regular cs, _, _⟩) => some cs.length
      | .ok _ => none
      | .error _ => some 0
  let sizes := names.map known
  let total := (sizes.filterMap id).foldl (· + ·) 0
  let digits := (Octets.ofNat total).length
  let width :=
    if names.length = 1 && single then 1
    else if sizes.any Option.isNone then max 7 digits else digits
  let show' (s : Sizes) (n : Octets) : Job Unit :=
    line (Octets.joinWith [' '] ((columns s).map fun k =>
      Octets.fill false ' ' width (Octets.ofNat k)) ++
      if n.isEmpty then [] else ' ' :: n)
  let sum ← names.foldlM (fun (sum : Sizes) n => do
    let label := if f.operands.isEmpty then [] else n
    match ← openOperand n Files.muchOf with
    | .ok cs =>
      let s := Sizes.of cs
      show' s label
      return sum.add s
    | .error e =>
      complain 1 (n ++ [':', ' '] ++ e.octets)
      if e = .isADirectory then show' {} label
      return sum) {}
  if 1 < names.length then show' sum "total".toList

end KeyRelay.Tools.Copying
