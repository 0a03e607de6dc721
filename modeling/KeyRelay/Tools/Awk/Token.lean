import KeyRelay.Shell.Format
import KeyRelay.Tools.Awk.Syntax

/-!
The words of programs: names, numbers, texts, expressions between slashes, and marks.
-/

namespace KeyRelay.Tools.Awk
open Shell

inductive Token where
  | number (x : Float) (shown : Octets)
  | text (cs : Octets)
  | regex (cs : Octets)
  | name (s : String)
  /-- A name with an opening parenthesis behind it. -/
  | call (s : String)
  | word (s : String)
  | mark (s : String)
  | lineEnd
  | ending
  deriving Repr

namespace Token

def keywords : List String :=
  ["BEGIN", "END", "function", "func", "if", "else", "while", "for", "do", "break", "continue",
    "next", "exit", "nextfile", "return", "delete", "in", "getline", "print", "printf"]

/-- Marks, longer ones first. -/
def marks : List String :=
  ["**=", "&&", "||", "++", "--", "+=", "-=", "*=", "/=", "%=", "^=", "==", "<=", ">=", "!=",
    "!~", ">>",
    "\x7b", "\x7d", "(", ")", "[", "]", ";", ",", "+", "-", "*", "/", "%", "^", "!", ">", "<", "|",
      "?", ":", "~",
    "$", "="]

/-- How complaints show a token. -/
def shown (t : Token) : Octets :=
  match t with
  | .number _ cs => cs
  | .text cs => '"' :: cs ++ ['"']
  | .regex cs => '/' :: cs ++ ['/']
  | .name s | .call s | .word s | .mark s => s.toList
  | .lineEnd => "end of line".toList
  | .ending => "end of line".toList

/-- Whether a slash behind a token divides. -/
def isOperand (t : Token) : Bool :=
  match t with
  | .number .. | .text _ | .regex _ | .name _ => true
  | .word s => s = "getline" || s = "length"
  | .mark s => s = ")" || s = "]" || s = "++" || s = "--" || s = "$"
  | _ => false

/-- What an escape stands for, by what follows its backslash, and what is left behind it. -/
def escape (cs : Octets) : Octets × Octets :=
  let octal := (cs.take 3).takeWhile fun d => '0' ≤ d && d ≤ '7'
  if !octal.isEmpty then ([Octets.octet (Octets.valueOf 8 octal)], cs.drop octal.length)
  else
    match cs with
    | [] => (['\\'], [])
    | '\n' :: rest => ([], rest)
    | 'x' :: rest =>
      let hex := (rest.take 2).takeWhile fun d => Octets.digitValue d < 16
      if hex.isEmpty then (['\\', 'x'], rest)
      else ([Octets.octet (Octets.valueOf 16 hex)], rest.drop hex.length)
    | c :: rest =>
      match c with
      | '"' | '\\' => ([c], rest)
      | 'n' => (['\n'], rest)
      | 't' => (['\t'], rest)
      | 'r' => (['\r'], rest)
      | 'a' => (['\x07'], rest)
      | 'b' => (['\x08'], rest)
      | 'f' => (['\x0c'], rest)
      | 'v' => (['\x0b'], rest)
      | c => (['\\', c], rest)

/-- A text with escapes resolved. -/
def resolved : Nat → Octets → Octets
  | 0, cs => cs
  | _ + 1, [] => []
  | fuel + 1, '\\' :: rest =>
    let (cs, rest) := escape rest
    cs ++ resolved fuel rest
  | fuel + 1, c :: rest => c :: resolved fuel rest

/-- A text up to its closing quote, with escapes resolved; newest character first. -/
def stringBody : Nat → Octets → Octets → Option (Octets × Octets)
  | 0, _, _ => none
  | fuel + 1, done, cs =>
    match cs with
    | [] => none
    | '\n' :: _ => none
    | '"' :: rest => some (done.reverse, rest)
    | '\\' :: rest =>
      let (cs, rest) := escape rest
      stringBody fuel (cs.reverse ++ done) rest
    | c :: rest => stringBody fuel (c :: done) rest

/-- An expression up to its closing slash; newest character first. -/
def regexBody : Nat → Bool → Octets → Octets → Option (Octets × Octets)
  | 0, _, _, _ => none
  | fuel + 1, inSet, done, cs =>
    match cs with
    | [] => none
    | '\n' :: _ => none
    | '\\' :: '/' :: rest => regexBody fuel inSet ('/' :: done) rest
    | '\\' :: c :: rest => regexBody fuel inSet (c :: '\\' :: done) rest
    | '/' :: rest => if inSet then regexBody fuel inSet ('/' :: done) rest
      else some (done.reverse, rest)
    | '[' :: ']' :: rest => if inSet then regexBody fuel true ('[' :: done) (']' :: rest)
      else regexBody fuel true (']' :: '[' :: done) rest
    | '[' :: '^' :: ']' :: rest => regexBody fuel true (']' :: '^' :: '[' :: done) rest
    | '[' :: rest => regexBody fuel true ('[' :: done) rest
    | ']' :: rest => regexBody fuel false (']' :: done) rest
    | c :: rest => regexBody fuel inSet (c :: done) rest

/-- All tokens with their lines, newest first. -/
def scan : Nat → Nat → List (Token × Nat) → Octets → Except (Nat × Fault) (List (Token × Nat))
  | 0, _, done, _ => .ok done
  | fuel + 1, line, done, cs =>
    match cs with
    | [] => .ok ((.ending, line) :: done)
    | c :: rest =>
      if c = '\n' then scan fuel (line + 1) ((.lineEnd, line) :: done) rest
      else if c = ' ' || c = '\t' || c = '\r' then scan fuel line done rest
      else if c = '\\' && rest.head? = some '\n' then scan fuel (line + 1) done (rest.drop 1)
      else if c = '#' then scan fuel line done (rest.dropWhile (· ≠ '\n'))
      else if c = '"' then
        match stringBody (rest.length + 1) [] rest with
        | some (body, rest) => scan fuel line ((.text body, line) :: done) rest
        | none => .error (line, .runawayString ((rest.takeWhile (· ≠ '\n')).take 10))
      else if c = '/' && !(done.head?.map fun t => t.1.isOperand).getD false then
        match regexBody (rest.length + 1) false [] rest with
        | some (body, rest) => scan fuel line ((.regex body, line) :: done) rest
        | none => .error (line, .runawayRegex ((rest.takeWhile (· ≠ '\n')).take 10))
      else if c.isDigit || c = '.' && (rest.head?.map Char.isDigit).getD false then
        match Format.scanFloat? (c :: rest) with
        | some (x, after) =>
          let shown := (c :: rest).take (rest.length + 1 - after.length)
          scan fuel line ((.number x shown, line) :: done) after
        | none => .error (line, .strange c)
      else if Regex.isWord c then
        let name := (c :: rest).takeWhile Regex.isWord
        let after := (c :: rest).drop name.length
        let s := String.ofList name
        let token : Token :=
          if keywords.contains s then .word s
          else if (Builtin.named.find? fun e => e.1 = s).isSome then .word s
          else if after.head? = some '(' then .call s else .name s
        scan fuel line ((token, line) :: done) after
      else
        match marks.find? fun m => m.toList.isPrefixOf (c :: rest) with
        | some m => scan fuel line ((.mark m, line) :: done) ((c :: rest).drop m.length)
        | none => .error (line, .strange c)

/-- The tokens of a program. -/
def ofText (cs : Octets) : Except (Nat × Fault) (List (Token × Nat)) :=
  (scan (cs.length + 2) 1 [] (cs ++ ['\n'])).map List.reverse

end Token

end KeyRelay.Tools.Awk
