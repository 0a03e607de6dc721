import KeyRelay.Shell.Format
import KeyRelay.Tools.Flags

/-!
Printing words: with blanks between them, or by a format.
-/

namespace KeyRelay.Tools.Printing
open Shell Job

/-- Options at the front, all of whose letters are known. -/
def echoOptions : Bool → Bool → List Octets → Bool × Bool × List Octets
  | newline, escapes, ('-' :: c :: cs) :: more =>
    if (c :: cs).all "neE".toList.contains then
      let escapes := (c :: cs).foldl (fun e x => if x = 'e' then true else if x = 'E' then false
        else e) escapes
      echoOptions (newline && !(c :: cs).contains 'n') escapes more
    else (newline, escapes, ('-' :: c :: cs) :: more)
  | newline, escapes, ws => (newline, escapes, ws)

/-- Escapes of a word, those in base sixteen among them; `false` where all output ends. -/
def unescaped : Nat → Octets → Octets → Octets × Bool
  | 0, done, _ => (done.reverse, true)
  | _ + 1, done, [] => (done.reverse, true)
  | fuel + 1, done, '\\' :: 'x' :: rest =>
    let ds := (rest.take 2).takeWhile (Octets.digitValue · < 16)
    if ds.isEmpty then unescaped fuel ('x' :: '\\' :: done) rest
    else unescaped fuel (Octets.octet (Octets.valueOf 16 ds) :: done) (rest.drop ds.length)
  | fuel + 1, done, '\\' :: c :: rest =>
    match Format.escape? c with
    | some d => unescaped fuel (d :: done) rest
    | none =>
      if c = 'c' then (done.reverse, false)
      else if c = '0' then
        let (d, rest) := Format.octal 3 rest
        unescaped fuel (d :: done) rest
      else unescaped fuel (c :: '\\' :: done) rest
  | fuel + 1, done, c :: rest => unescaped fuel (c :: done) rest

def echo : Job Unit := do
  let (newline, escapes, words) := echoOptions true false (← call).args
  let text := Octets.joinWith [' '] words
  if escapes then
    let (text, on) := unescaped (text.length + 1) [] text
    out (text ++ if newline && on then ['\n'] else [])
  else out (text ++ if newline then ['\n'] else [])

def printf : Job Unit := do
  let c ← call
  let args := if c.args.head? = some ['-', '-'] then c.args.drop 1 else c.args
  match args with
  | [] => missingOperand 1
  | format :: args =>
    let (fault, p) := Format.run .tool format args
    for text in p.complaints do
      warn text
    out p.text
    setStatus p.status
    match fault with
    | some .noLetter =>
      let shown := (format.reverse.takeWhile (· ≠ '%')).reverse
      fail 1 ('%' :: shown ++ ": invalid conversion specification".toList)
    | some (.badDirective d) => fail 1 (d ++ ": invalid conversion specification".toList)
    | none =>
      if let extra :: _ := p.args then
        if !p.stopped then warn ("warning: ignoring excess arguments, starting with ".toList ++
          quoted extra)

end KeyRelay.Tools.Printing
