import KeyRelay.Shell.Octets

/-!
Patterns of the shell: stars, question marks and sets. A pattern is read from characters that are
quoted or not; what is quoted stands for itself.
-/

namespace KeyRelay.Shell

/-- Named sets of characters. -/
inductive CharClass where
  | alnum
  | alpha
  | blank
  | cntrl
  | digit
  | graph
  | lower
  | print
  | punct
  | space
  | upper
  | xdigit
  deriving DecidableEq, Repr

namespace CharClass

def named : List (String × CharClass) :=
  [("alnum", .alnum), ("alpha", .alpha), ("blank", .blank), ("cntrl", .cntrl), ("digit", .digit),
    ("graph", .graph), ("lower", .lower), ("print", .print), ("punct", .punct), ("space", .space),
    ("upper", .upper), ("xdigit", .xdigit)]

def ofName? (cs : Octets) : Option CharClass :=
  (named.find? fun e => e.1.toList = cs).map (·.2)

def isGraphic (c : Char) : Bool :=
  '!' ≤ c && c ≤ '~'

def holds (k : CharClass) (c : Char) : Bool :=
  match k with
  | .alnum => c.isAlphanum
  | .alpha => c.isAlpha
  | .blank => Octets.isBlank c
  | .cntrl => c.toNat < 32 || c.toNat = 127
  | .digit => c.isDigit
  | .graph => isGraphic c
  | .lower => c.isLower
  | .print => c = ' ' || isGraphic c
  | .punct => isGraphic c && !c.isAlphanum
  | .space => Octets.isSpace c
  | .upper => c.isUpper
  | .xdigit => Octets.digitValue c < 16

end CharClass

/-- A member of a set. -/
inductive SetItem where
  | range (first last : Char)
  | named (k : CharClass)
  deriving DecidableEq, Repr

def SetItem.holds (i : SetItem) (c : Char) : Bool :=
  match i with
  | .range a z => a ≤ c && c ≤ z
  | .named k => k.holds c

inductive Glob where
  | char (c : Char)
  | any
  | many
  | set (negated : Bool) (items : List SetItem)
  deriving DecidableEq, Repr

/-- A character of a pattern, and whether it is quoted. -/
abbrev PatternChar := Char × Bool

namespace Glob

/-- A class at the front of the members of a set, the opening bracket taken. -/
def class? (cs : List PatternChar) : Option (CharClass × List PatternChar) :=
  match cs with
  | (':', _) :: rest =>
    let name := (rest.map (·.1)).takeWhile (· ≠ ':')
    match rest.drop name.length with
    | (':', _) :: (']', _) :: after => (CharClass.ofName? name).map (·, after)
    | _ => none
  | _ => none

/-- The members of a set up to its closing bracket, which may not come first. -/
def setItems : Nat → List SetItem → List PatternChar → Option (List SetItem × List PatternChar)
  | 0, _, _ => none
  | _ + 1, _, [] => none
  | fuel + 1, read, (c, quoted) :: rest =>
    if c = ']' && !quoted && !read.isEmpty then some (read, rest)
    else
      match if c = '[' && !quoted then class? rest else none with
      | some (k, rest) => setItems fuel (read ++ [.named k]) rest
      | none =>
        let (c, rest) := match rest with
          | (d, _) :: more => if c = '\\' && !quoted then (d, more) else (c, rest)
          | [] => (c, rest)
        match rest with
        | ('-', false) :: (z, q) :: more =>
          if z = ']' && !q then setItems fuel (read ++ [.range c c]) rest
          else
            match more with
            | (z', _) :: more' =>
              if z = '\\' && !q then setItems fuel (read ++ [.range c z']) more'
              else setItems fuel (read ++ [.range c z]) more
            | [] => setItems fuel (read ++ [.range c z]) more
        | _ => setItems fuel (read ++ [.range c c]) rest

/-- Reads a pattern. A bracket that is not closed stands for itself. -/
def ofChars : Nat → List PatternChar → List Glob
  | 0, _ => []
  | _ + 1, [] => []
  | fuel + 1, (c, quoted) :: rest =>
    if quoted then .char c :: ofChars fuel rest
    else if c = '*' then .many :: ofChars fuel rest
    else if c = '?' then .any :: ofChars fuel rest
    else if c = '\\' then
      match rest with
      | (d, _) :: more => .char d :: ofChars fuel more
      | [] => [.char '\\']
    else if c = '[' then
      let (negated, inside) := match rest with
        | (d, q) :: more => if d = '!' && !q then (true, more) else (false, rest)
        | [] => (false, rest)
      match setItems (inside.length + 1) [] inside with
      | some (items, more) => .set negated items :: ofChars fuel more
      | none => .char c :: ofChars fuel rest
    else .char c :: ofChars fuel rest

def read (cs : List PatternChar) : List Glob :=
  ofChars (cs.length + 1) cs

/-- Whether something holds of a text or of what is left of it after dropping characters from its
front. -/
def anySuffix (p : Octets → Bool) : Octets → Bool
  | [] => p []
  | c :: cs => p (c :: cs) || anySuffix p cs

/-- Whether a pattern matches all of a text. -/
def matchesAll : List Glob → Octets → Bool
  | [], cs => cs.isEmpty
  | [.many], _ => true
  | .many :: ps, cs => anySuffix (matchesAll ps ·) cs
  | .char a :: ps, cs => match cs with | c :: rest => a = c && matchesAll ps rest | [] => false
  | .any :: ps, cs => match cs with | _ :: rest => matchesAll ps rest | [] => false
  | .set negated items :: ps, cs =>
    match cs with
    | c :: rest => (items.any (·.holds c)) ≠ negated && matchesAll ps rest
    | [] => false

/-- Whether anything in a pattern is more than a character. -/
def isPlain (ps : List Glob) : Bool :=
  ps.all fun p => match p with | .char _ => true | _ => false

end Glob

end KeyRelay.Shell
