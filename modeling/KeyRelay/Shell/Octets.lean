import KeyRelay.Text.Utf8

/-!
Text as scripts and tools see it: a sequence of octets, each written as the character of its code,
so that patterns can name it. Small operations on such text: numbers, lines, words.
-/

namespace KeyRelay.Shell

/-- One character for each octet, with the octet's code. -/
abbrev Octets := List Char

namespace Octets

def ofBytes (bs : List UInt8) : Octets :=
  bs.map fun b => Char.ofNat b.toNat

def toBytes (cs : Octets) : List UInt8 :=
  cs.map fun c => UInt8.ofNat c.toNat

/-- The octets of a text. -/
def ofText (s : String) : Octets :=
  ofBytes (Utf8.bytes s)

/-- The text of octets, with replacement characters where they are none. -/
def text (cs : Octets) : String :=
  Utf8.lossy (toBytes cs)

/-- The character of a code below 256; greater codes wrap. -/
def octet (n : Nat) : Char :=
  Char.ofNat (n % 256)

/-! ### Numbers -/

def ofNat (n : Nat) : Octets :=
  Nat.toDigits 10 n

def ofInt (n : Int) : Octets :=
  if n < 0 then '-' :: ofNat n.natAbs else ofNat n.natAbs

/-- The value of a digit in bases up to 36. -/
def digitValue (c : Char) : Nat :=
  if c.isDigit then c.toNat - 48
  else if 'a' ≤ c ∧ c ≤ 'z' then c.toNat - 87
  else if 'A' ≤ c ∧ c ≤ 'Z' then c.toNat - 55
  else 99

/-- The value of digits, the leading one first. -/
def valueOf (base : Nat) (cs : Octets) : Nat :=
  cs.foldl (fun n c => n * base + digitValue c) 0

/-- The number that decimal digits denote, if there are only digits. -/
def nat? (cs : Octets) : Option Nat :=
  if cs.isEmpty || !cs.all Char.isDigit then none else some (valueOf 10 cs)

/-- A whole number with an optional sign. -/
def int? (cs : Octets) : Option Int :=
  match cs with
  | '-' :: ds => (nat? ds).map fun n => -(n : Int)
  | '+' :: ds => (nat? ds).map Int.ofNat
  | ds => (nat? ds).map Int.ofNat

/-- A number of 64 bits from an integer, modulo what does not fit. -/
def wrap (n : Int) : Int :=
  n.bmod 18446744073709551616

def greatest : Int := 9223372036854775807

def least : Int := -9223372036854775808

/-! ### Lines and words -/

/-- Blanks of the usual locale. -/
def isSpace (c : Char) : Bool :=
  c = ' ' || ('\t' ≤ c && c ≤ '\r')

def isBlank (c : Char) : Bool :=
  c = ' ' || c = '\t'

/-- Pieces between separators, one more than there are separators. -/
def splitAt (isSeparator : Char → Bool) (cs : Octets) : List Octets :=
  let (pieces, last) := cs.foldl (fun (pieces, piece) c =>
    if isSeparator c then (piece.reverse :: pieces, [])
      else (pieces, c :: piece)) (([] : List Octets), ([] : Octets))
  (last.reverse :: pieces).reverse

/-- Lines without their ends; the last one counts also where it has no end, unless it is empty. -/
def lines (cs : Octets) : List Octets :=
  let pieces := splitAt (· = '\n') cs
  if pieces.getLast? = some [] then pieces.dropLast else pieces

/-- Whether the last line has its end. -/
def endsLine (cs : Octets) : Bool :=
  cs.isEmpty || cs.getLast? = some '\n'

/-- Lines with an end each. -/
def ofLines (ls : List Octets) : Octets :=
  ls.flatMap (· ++ ['\n'])

def joinWith (separator : Octets) (words : List Octets) : Octets :=
  (words.intersperse separator).flatten

/-- Words between runs of blanks. -/
def words (cs : Octets) : List Octets :=
  (splitAt isSpace cs).filter (· ≠ [])

/-- Drops from the end what satisfies a test. -/
def dropEndWhile (p : Char → Bool) (cs : Octets) : Octets :=
  (cs.reverse.dropWhile p).reverse

/-- What follows a text at the front, if it is there. -/
def after? (front cs : Octets) : Option Octets :=
  if front.isPrefixOf cs then some (cs.drop front.length) else none

/-- Where one text first occurs in another. -/
def indexOf? (piece : Octets) : Octets → Option Nat
  | [] => if piece.isEmpty then some 0 else none
  | c :: cs => if piece.isPrefixOf (c :: cs) then some 0 else (indexOf? piece cs).map (· + 1)

/-- Comparison by codes; a text comes before what extends it. -/
def order : Octets → Octets → Ordering
  | [], [] => .eq
  | [], _ :: _ => .lt
  | _ :: _, [] => .gt
  | a :: as, b :: bs => if a < b then .lt else if b < a then .gt else order as bs

/-- Fills a text to a width, at its right end where `left` is set. -/
def fill (left : Bool) (c : Char) (width : Nat) (cs : Octets) : Octets :=
  let gap := List.replicate (width - cs.length) c
  if left then cs ++ gap else gap ++ cs

end Octets

end KeyRelay.Shell
