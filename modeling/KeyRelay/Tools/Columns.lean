import KeyRelay.Tools.Excerpt

/-!
Parts of lines by their places: columns that are cut out, joined side by side, or broken at a width.
-/

namespace KeyRelay.Tools.Columns
open Shell Job

/-! ### Lists of places -/

/-- Places from one to another, or to the end. -/
abbrev Span := Nat × Option Nat

/-- What is wrong with a list of places. -/
inductive SpanFault where
  | zero
  | bad (rest : Octets)
  | badRange
  | decreasing
  | noEnds
  deriving DecidableEq, Repr

/-- A list of places: numbers and ranges with commas or blanks between them. -/
def spans (cs : Octets) : Except SpanFault (List Span) :=
  each (Octets.splitAt (fun c => c = ',' || Octets.isBlank c) cs) cs
where
  /-- Pieces in turn, with the text that begins with them for complaints. -/
  each : List Octets → Octets → Except SpanFault (List Span)
    | [], _ => .ok []
    | p :: more, whole => do
      let s ← one p whole
      let rest ← each more (whole.drop (p.length + 1))
      return s :: rest
  one (p whole : Octets) : Except SpanFault Span := do
    let low := p.takeWhile Char.isDigit
    let rest := p.drop low.length
    let a := Octets.valueOf 10 low
    match rest with
    | [] => if a = 0 then throw .zero else return (a, some a)
    | '-' :: more =>
      let high := more.takeWhile Char.isDigit
      if !low.isEmpty && a = 0 then throw .zero
      match more.drop high.length with
      | [] =>
        if low.isEmpty && high.isEmpty then throw .noEnds
        let first := if low.isEmpty then 1 else a
        if high.isEmpty then return (first, none)
        else
          let z := Octets.valueOf 10 high
          if z < first then throw .decreasing else return (first, some z)
      | '-' :: _ => throw .badRange
      | _ => throw (.bad (whole.drop (low.length + 1 + high.length)))
    | _ => throw (.bad (whole.drop low.length))

def within (ss : List Span) (n : Nat) : Bool :=
  ss.any fun s => s.1 ≤ n && s.2.all (n ≤ ·)

/-- Whether a span begins at a place. -/
def begins (ss : List Span) (n : Nat) : Bool :=
  n = 1 || !(ss.any fun s => s.1 < n && s.2.all (n ≤ ·))

/-! ### Cutting -/

def cutRules : FlagRules where
  letters := "b:c:d:f:nsz"
  names := [("bytes", "b:"), ("characters", "c:"), ("fields", "f:"), ("delimiter", "d:"),
    ("only-delimited", "s"), ("output-delimiter", "output-delimiter:"),
    ("complement", "complement"), ("zero-terminated", "z")]

def spanFaultText (fields : Bool) (f : SpanFault) : Octets :=
  match f with
  | .zero =>
    (if fields then "fields are numbered from 1"
      else "byte/character positions are numbered from 1").toList
  | .bad rest =>
    (if fields then "invalid field value " else "invalid byte/character position ").toList ++
      quoted rest
  | .badRange =>
    (if fields then "invalid field range" else "invalid byte or character range").toList
  | .decreasing => "invalid decreasing range".toList
  | .noEnds => "invalid range with no endpoint: -".toList

/-- Chosen characters of a line; where a span begins behind another, a mark may be put. -/
def chosenChars (chosen : Nat → Bool) (starts : Nat → Bool) (mark : Octets) (cs : Octets) :
    Octets :=
  let (done, _) := cs.zipIdx.foldl (fun (done, any) (c, i) =>
    if chosen (i + 1) then
      (if any && starts (i + 1) then (c :: mark.reverse) ++ done else c :: done, true)
    else (done, any)) (([] : Octets), false)
  done.reverse

def cut : Job Unit := do
  let f ← flags cutRules 1
  let lists := f.given.filter fun e => e.1 = "b" || e.1 = "c" || e.1 = "f"
  match lists with
  | [] => usage 1 "you must specify a list of bytes, characters, or fields".toList
  | (key, list) :: more =>
    if !more.isEmpty then usage 1 "only one list may be specified".toList
    let fields := key = "f"
    let mark ← match f.value? "d" with
      | none => pure '\t'
      | some [] => pure '\x00'
      | some [c] => pure c
      | some _ => usage 1 "the delimiter must be a single character".toList
    if !fields && f.has "d" then
      usage 1 "an input delimiter may be specified only when operating on fields".toList
    if !fields && f.has "s" then
      usage 1 "suppressing non-delimited lines makes sense\n\tonly when operating on fields".toList
    match spans list with
    | .error e => usage 1 (spanFaultText fields e)
    | .ok ss =>
      let chosen (n : Nat) : Bool := within ss n ≠ f.has "complement"
      let starts (n : Nat) : Bool :=
        f.has "output-delimiter" &&
          (if f.has "complement" then !chosen (n - 1) else begins ss n || !chosen (n - 1))
      let outMark := (f.value? "output-delimiter").getD (if fields then [mark] else [])
      let ending := if f.has "z" then '\x00' else '\n'
      let cutLine (l : Octets) : Option Octets :=
        if fields then
          if !l.contains mark then (if f.has "s" then none else some l)
          else
            let parts := (Octets.splitAt (· = mark) l).zipIdx.filterMap fun (p, i) =>
              if chosen (i + 1) then some p else none
            some (Octets.joinWith outMark parts)
        else some (chosenChars chosen starts outMark l)
      let text ← contents f.operands 1
      let pieces := Octets.splitAt (· = ending) text
      let pieces := if pieces.getLast? = some [] then pieces.dropLast else pieces
      out ((pieces.filterMap cutLine).flatMap (· ++ [ending]))

/-! ### Side by side -/

def pasteRules : FlagRules where
  letters := "d:sz"
  names := [("delimiters", "d:"), ("serial", "s"), ("zero-terminated", "z")]

/-- Marks of a list, each of at most one character; none where it ends with a backslash. -/
def marks : Octets → Option (List Octets)
  | [] => some []
  | ['\\'] => none
  | '\\' :: c :: rest =>
    (marks rest).map fun ms =>
      (match c with
        | '0' => []
        | 'b' => ['\x08']
        | 'f' => ['\x0c']
        | 'n' => ['\n']
        | 'r' => ['\r']
        | 't' => ['\t']
        | 'v' => ['\x0b']
        | c => [c]) :: ms
  | c :: rest => (marks rest).map ([c] :: ·)

/-- Words with marks in turn between them. -/
def joinInTurn (ms : List Octets) (words : List Octets) : Octets :=
  (words.zipIdx.map fun (w, i) =>
    if i = 0 then w else (ms[(i - 1) % ms.length]?).getD [] ++ w).flatten

def paste : Job Unit := do
  let f ← flags pasteRules 1
  let list := (f.value? "d").getD ['\t']
  match marks list with
  | none => fail 1 ("delimiter list ends with an unescaped backslash: ".toList ++ list)
  | some ms =>
    let ms := if ms.isEmpty then [[]] else ms
    let names := if f.operands.isEmpty then [['-']] else f.operands
    if f.has "s" then
      for n in names do
        if let some cs ← operand? n 1 then line (joinInTurn ms (Octets.lines cs))
    else
      let others ← names.mapM fun n => if n = ['-'] then return some [] else operand? n 1
      if others.any Option.isNone then exit 1
      let input ← if names.contains ['-'] then takeInput else pure []
      let turns := (names.filter (· = ['-'])).length
      let inputLines := Octets.lines input
      let columns := (names.zip others).foldl (fun (cols, k) (n, cs) =>
        if n = ['-'] then
          (cols ++ [inputLines.zipIdx.filterMap fun (l, i) => if i % turns = k then some l
            else none], k + 1)
        else (cols ++ [Octets.lines (cs.getD [])], k)) (([] : List (List Octets)), 0)
      let height := columns.1.foldl (fun m c => max m c.length) 0
      for i in List.range height do
        line (joinInTurn ms (columns.1.map fun column => column[i]?.getD []))

/-! ### Widths -/

/-- The column behind a character. -/
def advance (column : Nat) (c : Char) : Nat :=
  match c with
  | '\x08' => column - 1
  | '\r' => 0
  | '\t' => column + 8 - column % 8
  | _ => column + 1

/-- A line broken at a width, at blanks if that is wanted; what is at hand is kept newest first. -/
def folded (width : Nat) (atBlanks octets : Bool) : Nat → Octets → Octets → Octets
  | 0, line, cs => line.reverse ++ cs
  | _ + 1, line, [] => line.reverse
  | fuel + 1, line, c :: cs =>
    let column := line.reverse.foldl (if octets then fun n _ => n + 1 else advance) 0
    let next := if octets then column + 1 else advance column c
    if width < next && !line.isEmpty then
      let tail := if atBlanks then line.takeWhile (!Octets.isBlank ·) else []
      if atBlanks && tail.length < line.length then
        (line.drop tail.length).reverse ++ '\n' :: folded width atBlanks octets fuel tail (c :: cs)
      else line.reverse ++ '\n' :: folded width atBlanks octets fuel [] (c :: cs)
    else folded width atBlanks octets fuel (c :: line) cs

def foldRules : FlagRules where
  letters := "bsw:0123456789"
  names := [("bytes", "b"), ("spaces", "s"), ("width", "w:")]

def fold : Job Unit := do
  let f ← flags foldRules 1
  let digits := f.given.filterMap fun e => if e.1.all Char.isDigit then e.1.toList.head? else none
  let width ← match f.value? "w" with
    | none => pure (if digits.isEmpty then 80 else Octets.valueOf 10 digits)
    | some v =>
      match Octets.nat? v with
      | some 0 =>
        fail 1 ("invalid number of columns: ".toList ++ quoted v ++
          ": Numerical result out of range".toList)
      | some n => pure n
      | none => fail 1 ("invalid number of columns: ".toList ++ quoted v)
  let text ← contents f.operands 1
  let fold' (l : Octets) : Octets := folded width (f.has "s") (f.has "b") (2 * l.length + 2) [] l
  let pieces := Octets.splitAt (· = '\n') text
  out (Octets.joinWith ['\n'] (pieces.map fold'))

/-- A line with its tabs spread to columns. -/
def spread (size : Nat) (onlyFirst : Bool) (cs : Octets) : Octets :=
  let (done, _, _) := cs.foldl (fun (done, column, start) c =>
    if c = '\t' && (start || !onlyFirst) then
      let gap := size - column % size
      (List.replicate gap ' ' ++ done, column + gap, start)
    else (c :: done, if c = '\x08' then column - 1 else column + 1, start && c = ' '))
    (([] : Octets), 0, true)
  done.reverse

def expandRules : FlagRules where
  letters := "it:0123456789"
  names := [("initial", "i"), ("tabs", "t:")]

def expand : Job Unit := do
  let f ← flags expandRules 1
  let size ← match f.value? "t" with
    | none => pure 8
    | some v =>
      match Octets.nat? v with
      | some 0 => fail 1 "tab size cannot be 0".toList
      | some n => pure n
      | none => fail 1 ("tab size contains invalid character(s): ".toList ++ quoted v)
  let text ← contents f.operands 1
  out (Octets.joinWith ['\n'] ((Octets.splitAt (· = '\n') text).map (spread size (f.has "i"))))

end KeyRelay.Tools.Columns
