import KeyRelay.Decimal.Layout
import KeyRelay.Shell.Arithmetic

/-!
Formatted printing: escapes, and directives that turn arguments into padded text. The shell and the
tool of the same name print alike and differ in a few escapes and in their complaints.
-/

namespace KeyRelay.Shell.Format

/-- The character that a letter after a backslash stands for. -/
def escape? (c : Char) : Option Char :=
  match c with
  | 'a' => some '\x07'
  | 'b' => some '\x08'
  | 'e' => some '\x1b'
  | 'f' => some '\x0c'
  | 'n' => some '\n'
  | 'r' => some '\r'
  | 't' => some '\t'
  | 'v' => some '\x0b'
  | '\\' => some '\\'
  | _ => none

def isOctal (c : Char) : Bool :=
  '0' ≤ c && c ≤ '7'

/-- The character that up to so many octal digits denote, and what follows them. -/
def octal (most : Nat) (cs : Octets) : Char × Octets :=
  let ds := (cs.take most).takeWhile isOctal
  (Octets.octet (Octets.valueOf 8 ds), cs.drop ds.length)

/-- Text with the escapes of arguments, newest character first; `false` where an escape ends all
output. -/
def escaped : Nat → Octets → Octets → Octets × Bool
  | 0, done, _ => (done.reverse, true)
  | _ + 1, done, [] => (done.reverse, true)
  | fuel + 1, done, '\\' :: c :: rest =>
    match escape? c with
    | some x => escaped fuel (x :: done) rest
    | none =>
      if c = 'c' then (done.reverse, false)
      else if c = '0' then
        let (x, rest) := octal 3 rest
        escaped fuel (x :: done) rest
      else if isOctal c then
        let (x, rest) := octal 3 (c :: rest)
        escaped fuel (x :: done) rest
      else escaped fuel (c :: '\\' :: done) rest
  | fuel + 1, done, c :: rest => escaped fuel (c :: done) rest

def unescape (cs : Octets) : Octets × Bool :=
  escaped (cs.length + 1) [] cs

/-- The words of the shell's `echo` with blanks between them. -/
def echoed : Bool → List Octets → Octets → Octets
  | newline, [], done => done ++ if newline then ['\n'] else []
  | newline, w :: more, done =>
    let (text, on) := unescape w
    if !on then done ++ text
    else if more.isEmpty then done ++ text ++ if newline then ['\n'] else []
    else echoed newline more (done ++ text ++ [' '])

/-- What the shell's `echo` prints. -/
def echo (args : List Octets) : Octets :=
  match args with
  | ['-', 'n'] :: more => echoed false more []
  | _ => echoed true args []

/-! ### Directives -/

structure Directive where
  flags : List Char := []
  width : Nat := 0
  precision : Option Nat := none
  deriving DecidableEq, Repr

namespace Directive

def has (d : Directive) (c : Char) : Bool :=
  d.flags.contains c

def padded (d : Directive) (cs : Octets) : Octets :=
  Octets.fill (d.has '-') ' ' d.width cs

/-- A text, cut to the precision. -/
def text (d : Directive) (cs : Octets) : Octets :=
  d.padded (match d.precision with
    | some n => cs.take n
    | none => cs)

/-- Digits after a sign or a mark of the base, filled with zeros where that is asked for. -/
def number (d : Directive) (mark digits : Octets) (zeros : Bool) : Octets :=
  if d.has '0' && !d.has '-' && zeros
    then mark ++ Octets.fill false '0' (d.width - mark.length) digits
  else d.padded (mark ++ digits)

/-- The digits of a whole number, at least as many as the precision says. -/
def digits (d : Directive) (base n : Nat) : Octets :=
  match d.precision with
  | some 0 => if n = 0 then [] else Nat.toDigits base n
  | some p => Octets.fill false '0' p (Nat.toDigits base n)
  | none => Nat.toDigits base n

def signMark (d : Directive) (negative : Bool) : Octets :=
  if negative then ['-'] else if d.has '+' then ['+'] else if d.has ' ' then [' '] else []

def signed (d : Directive) (n : Int) : Octets :=
  d.number (d.signMark (n < 0)) (d.digits 10 n.natAbs) d.precision.isNone

/-- A number without sign, in the base of a letter. -/
def unsigned (d : Directive) (letter : Char) (n : Nat) : Octets :=
  let zeros := d.precision.isNone
  match letter with
  | 'o' =>
    let ds := d.digits 8 n
    d.number [] (if d.has '#' && ds.head? ≠ some '0' then '0' :: ds else ds) zeros
  | 'x' => d.number (if d.has '#' && n ≠ 0 then ['0', 'x'] else []) (d.digits 16 n) zeros
  | 'X' =>
    d.number (if d.has '#' && n ≠ 0 then ['0', 'X'] else [])
      ((d.digits 16 n).map Char.toUpper) zeros
  | _ => d.number [] (d.digits 10 n) zeros

/-- A floating-point number in the notation of a letter. -/
def floating (d : Directive) (letter : Char) (x : Float) : Octets :=
  let upper := letter.isUpper
  let cased (cs : Octets) : Octets := if upper then cs.map Char.toUpper else cs
  let mark := d.signMark (Decimal.isNegative x)
  if x.isNaN then d.padded (cased (mark ++ "nan".toList))
  else if x.isInf then d.padded (cased (mark ++ "inf".toList))
  else
    let places := d.precision.getD 6
    let ds := match letter.toLower with
      | 'e' => Decimal.scientific places x
      | 'g' => Decimal.general places (d.has '#') x
      | _ => Decimal.positional places x
    d.number mark (cased ds) true

end Directive

/-! ### Floating-point numbers -/

/-- A floating-point number at the front of a text, and what follows it; none where there is no
digit. -/
def scanFloat? (cs : Octets) : Option (Float × Octets) :=
  let body := cs.dropWhile Octets.isSpace
  let (negative, body) := match body with
    | '-' :: rest => (true, rest)
    | '+' :: rest => (false, rest)
    | rest => (false, rest)
  let sign (x : Float) : Float := if negative then -x else x
  let lower := body.map Char.toLower
  if "infinity".toList.isPrefixOf lower then some (sign (1.0 / 0.0), body.drop 8)
  else if "inf".toList.isPrefixOf lower then some (sign (1.0 / 0.0), body.drop 3)
  else if "nan".toList.isPrefixOf lower then some (0.0 / 0.0, body.drop 3)
  else
    let hex := (lower.drop 2).takeWhile (Octets.digitValue · < 16)
    if ['0', 'x'].isPrefixOf lower && !hex.isEmpty then
      some (sign (Float.ofNat (Octets.valueOf 16 hex)), body.drop (2 + hex.length))
    else
      let whole := body.takeWhile Char.isDigit
      let rest := body.drop whole.length
      let (places, rest) := match rest with
        | '.' :: more => (more.takeWhile Char.isDigit, more.dropWhile Char.isDigit)
        | rest => ([], rest)
      if whole.isEmpty && places.isEmpty then none
      else
        let (power, rest) : Int × Octets := match rest with
          | e :: more =>
            if e = 'e' ∨ e = 'E' then
              let (minus, ds) := match more with
                | '-' :: ds => (true, ds)
                | '+' :: ds => (false, ds)
                | ds => (false, ds)
              let n := ds.takeWhile Char.isDigit
              if n.isEmpty then (0, rest)
              else
                let value := min (Octets.valueOf 10 n) 100000
                (if minus then -(value : Int) else value, ds.drop n.length)
            else (0, rest)
          | [] => (0, rest)
        let shift := power - places.length
        let digits := Octets.valueOf 10 (whole ++ places)
        some (sign (Float.ofScientific digits (shift < 0) shift.natAbs), rest)

/-! ### Formats -/

/-- What formats are used by, which decides on escapes and complaints. -/
inductive Dialect where
  | shell
  | tool
  deriving DecidableEq, Repr

/-- How far a format has been carried out; text newest first. -/
structure Progress where
  printed : List Octets := []
  args : List Octets
  complaints : List Octets := []
  status : Nat := 0
  /-- Arguments were asked for. -/
  used : Bool := false
  stopped : Bool := false

namespace Progress

def put (p : Progress) (cs : Octets) : Progress :=
  { p with printed := cs :: p.printed }

def complain (p : Progress) (cs : Octets) : Progress :=
  { p with complaints := p.complaints ++ [cs], status := 1 }

def take (p : Progress) : Option Octets × Progress :=
  match p.args with
  | a :: more => (some a, { p with args := more, used := true })
  | [] => (none, { p with used := true })

end Progress

/-- What is wrong with a number that was not read to its end. -/
def numberComplaint (dialect : Dialect) (arg : Octets) (found : Bool) : Octets :=
  match dialect with
  | .shell =>
    arg ++ ": ".toList ++ (if found then "not completely converted"
      else "expected numeric value").toList
  | .tool =>
    ['\''] ++ arg ++ "': ".toList ++
      (if found then "value not completely converted" else "expected a numeric value").toList

def rangeComplaint (dialect : Dialect) (arg : Octets) : Octets :=
  let text := "Numerical result out of range".toList
  match dialect with
  | .shell => arg ++ ": ".toList ++ text
  | .tool => ['\''] ++ arg ++ "': ".toList ++ text

/-- The next argument as a whole number within bounds; a quote stands before a character for its
code. -/
def takeInt (dialect : Dialect) (signed : Bool) (p : Progress) : Int × Progress :=
  match p.take with
  | (none, p) => (0, p)
  | (some arg, p) =>
    match arg with
    | q :: more =>
      if q = '"' ∨ q = '\'' then ((more.headD '\x00').toNat, p)
      else
        let r := Octets.scanInt arg
        let top : Int := if signed then Octets.greatest else 18446744073709551615
        let raw : Int :=
          let body := arg.dropWhile Octets.isSpace
          let ds := if body.head? = some '-' ∨ body.head? = some '+' then body.drop 1 else body
          let n : Int := (Octets.leadingNumber ds).1
          if body.head? = some '-' then -n else n
        let low : Int := if signed then Octets.least else -top
        let value := max low (min top raw)
        if !r.rest.isEmpty then (value, p.complain (numberComplaint dialect arg r.found))
        else if raw ≠ value then (if signed then value
          else top, p.complain (rangeComplaint dialect arg))
        else (value, p)
    | [] => (0, p)

def takeFloat (dialect : Dialect) (p : Progress) : Float × Progress :=
  match p.take with
  | (none, p) => (0.0, p)
  | (some arg, p) =>
    match arg with
    | q :: more =>
      if q = '"' ∨ q = '\'' then (Float.ofNat (more.headD '\x00').toNat, p)
      else
        match scanFloat? arg with
        | some (x, []) => (x, p)
        | some (x, _) => (x, p.complain (numberComplaint dialect arg true))
        | none => (0.0, p.complain (numberComplaint dialect arg false))
    | [] => (0.0, p)

/-- Carries out a directive by its letter; none where there is no such letter. -/
def convert? (dialect : Dialect) (d : Directive) (letter : Char) (p : Progress) : Option Progress :=
  if letter = 's' then
    let (arg, p) := p.take
    some (p.put (d.text (arg.getD [])))
  else if letter = 'b' then
    let (arg, p) := p.take
    let (text, on) := unescape (arg.getD [])
    some { p.put (d.text text) with stopped := !on }
  else if letter = 'c' then
    let (arg, p) := p.take
    some (p.put (d.padded [(arg.getD []).headD '\x00']))
  else if letter = 'd' ∨ letter = 'i' then
    let (n, p) := takeInt dialect true p
    some (p.put (d.signed n))
  else if letter = 'o' ∨ letter = 'u' ∨ letter = 'x' ∨ letter = 'X' then
    let (n, p) := takeInt dialect false p
    some (p.put (d.unsigned letter (Arithmetic.bits n)))
  else if ['e', 'E', 'f', 'F', 'g', 'G'].contains letter then
    let (x, p) := takeFloat dialect p
    some (p.put (d.floating letter x))
  else none

/-- Why a format cannot be carried out. -/
inductive FormatFault where
  | noLetter
  | badDirective (shown : Octets)
  deriving DecidableEq, Repr

/-- A width or a precision, which an argument may give. -/
def takeSize (dialect : Dialect) (cs : Octets) (p : Progress) : Option Int × Octets × Progress :=
  match cs with
  | '*' :: rest =>
    let (n, p) := takeInt dialect true p
    (some n, rest, p)
  | _ =>
    let ds := cs.takeWhile Char.isDigit
    (if ds.isEmpty then none else some (Octets.valueOf 10 ds), cs.drop ds.length, p)

/-- An escape in a format: the character, if it is one, and what follows. -/
def formatEscape (dialect : Dialect) (cs : Octets) : Octets × Octets × Bool :=
  match cs with
  | [] => (['\\'], [], true)
  | c :: rest =>
    match escape? c with
    | some x => ([x], rest, true)
    | none =>
      if isOctal c then
        let (x, rest) := octal 3 cs
        ([x], rest, true)
      else if dialect = .shell then (['\\'], cs, true)
      else if c = 'c' then ([], [], false)
      else if c = '"' then (['"'], rest, true)
      else
        let ds := (rest.take 2).takeWhile (Octets.digitValue · < 16)
        if c = 'x' && !ds.isEmpty
          then ([Octets.octet (Octets.valueOf 16 ds)], rest.drop ds.length, true)
        else (['\\', c], rest, true)

/-- One pass over a format. -/
def pass (dialect : Dialect) : Nat → Octets → Progress → Except FormatFault Progress × Progress
  | 0, _, p => (.ok p, p)
  | _ + 1, [], p => (.ok p, p)
  | fuel + 1, '\\' :: rest, p =>
    let (text, rest, on) := formatEscape dialect rest
    if on then pass dialect fuel rest (p.put text) else (.ok { p with stopped := true }, p)
  | fuel + 1, '%' :: '%' :: rest, p => pass dialect fuel rest (p.put ['%'])
  | fuel + 1, '%' :: rest, p =>
    let isFlag (c : Char) : Bool := c = '#' || c = '-' || c = '+' || c = ' ' || c = '0'
    let flags := rest.takeWhile isFlag
    let (width, after, p) := takeSize dialect (rest.drop flags.length) p
    let (precision, after, p) := match after with
      | '.' :: more =>
        let (n, more, p) := takeSize dialect more p
        (some (n.getD 0), more, p)
      | after => (none, after, p)
    let width := width.getD 0
    let d : Directive :=
      { flags := if width < 0 then '-' :: flags else flags
        width := width.natAbs
        precision := precision.bind fun n => if n < 0 then none else some n.toNat }
    match after with
    | [] => (.error .noLetter, p)
    | letter :: more =>
      match convert? dialect d letter p with
      | none => (.error (.badDirective ('%' :: rest.take (rest.length - more.length))), p)
      | some p => if p.stopped then (.ok p, p) else pass dialect fuel more p
  | fuel + 1, c :: rest, p => pass dialect fuel rest (p.put [c])

/-- A format is used again as long as it takes arguments and some are left. -/
def passes (dialect : Dialect) (format : Octets) : Nat → Progress → Option FormatFault × Progress
  | 0, p => (none, p)
  | fuel + 1, p =>
    match pass dialect (format.length + 1) format { p with used := false } with
    | (.error f, p) => (some f, p)
    | (.ok q, _) =>
      if q.stopped || q.args.isEmpty || q.args.length = p.args.length then (none, q)
      else passes dialect format fuel q

/-- Everything that a format prints with its arguments. -/
def run (dialect : Dialect) (format : Octets) (args : List Octets) :
    Option FormatFault × Progress :=
  passes dialect format (args.length + 1) { args }

def Progress.text (p : Progress) : Octets :=
  p.printed.reverse.flatten

end KeyRelay.Shell.Format
