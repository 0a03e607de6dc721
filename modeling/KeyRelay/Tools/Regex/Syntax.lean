import KeyRelay.Shell.Pattern

/-!
Regular expressions as trees, and what can be wrong with their text.
-/

namespace KeyRelay.Tools

/-- What holds between two characters of a text. -/
inductive Boundary where
  | lineStart
  | lineEnd
  | textStart
  | textEnd
  | word
  | noWord
  | wordStart
  | wordEnd
  /-- No word ends here. -/
  | freeBefore
  /-- No word begins here. -/
  | freeAfter
  deriving DecidableEq, Repr

inductive Regex where
  | empty
  | any
  | set (negated : Bool) (items : List Shell.SetItem)
  | boundary (b : Boundary)
  | append (a b : Regex)
  | either (a b : Regex)
  /-- As often as the bounds say; without an upper one as often as may be. -/
  | repeated (r : Regex) (least : Nat) (most : Option Nat)
  | group (n : Nat) (r : Regex)
  /-- What a group matched, again. -/
  | again (n : Nat)
  deriving Repr

namespace Regex

def char (c : Char) : Regex :=
  .set false [.range c c]

def ofList (rs : List Regex) : Regex :=
  rs.foldr (fun r rest => match rest with | .empty => r | rest => .append r rest) .empty

/-- A part of a name: a letter, a digit or an underscore. -/
def isWord (c : Char) : Bool :=
  c.isAlphanum || c = '_'

def wordItems : List Shell.SetItem :=
  [.named .alnum, .range '_' '_']

/-- The number of groups. -/
def groups : Regex → Nat
  | .append a b | .either a b => max a.groups b.groups
  | .repeated r _ _ => r.groups
  | .group n r => max n r.groups
  | _ => 0

def hasAgain : Regex → Bool
  | .append a b | .either a b => a.hasAgain || b.hasAgain
  | .repeated r _ _ | .group _ r => r.hasAgain
  | .again _ => true
  | _ => false

end Regex

inductive RegexFault where
  | unmatchedBracket
  /-- An opening bracket ends the text. -/
  | unfinished
  /-- The name of a class has only one pair of brackets. -/
  | bareClass
  | unmatchedOpen
  | unmatchedClose
  | unmatchedBrace
  | badBrace
  | boundsInverted
  | nothingRepeated
  | anchorRepeated
  | badRange
  | badClass
  | badReference
  | trailingBackslash
  | tooBig
  deriving DecidableEq, Repr

namespace RegexFault

def text (f : RegexFault) : String :=
  match f with
  | .unmatchedBracket => "Unmatched [, [^, [:, [., or [="
  | .unfinished => "Invalid regular expression"
  | .bareClass => "character class syntax is [[:space:]], not [:space:]"
  | .unmatchedOpen => "Unmatched ( or \\("
  | .unmatchedClose => "Unmatched ) or \\)"
  | .unmatchedBrace => "Unmatched \\\x7b"
  | .badBrace | .boundsInverted => "Invalid content of \\\x7b\\\x7d"
  | .nothingRepeated | .anchorRepeated => "Invalid preceding regular expression"
  | .badRange => "Invalid range end"
  | .badClass => "Invalid character class name"
  | .badReference => "Invalid back reference"
  | .trailingBackslash => "Trailing backslash"
  | .tooBig => "Regular expression too big"

end RegexFault

end KeyRelay.Tools
