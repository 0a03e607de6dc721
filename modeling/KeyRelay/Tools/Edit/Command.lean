import KeyRelay.Tools.Regex.Program
import KeyRelay.Tools.Regex.Reader

/-!
Commands that edit lines: which lines a command is for, and what it does to them.
-/

namespace KeyRelay.Tools.Edit
open Shell

/-- An expression to search for; without one, the last that was used. -/
abbrev Pattern := Option Regex.Program

/-- Which lines are meant. -/
inductive Address where
  | line (n : Nat)
  /-- Lines at a distance from each other. -/
  | every (first step : Nat)
  | last
  | found (p : Pattern)
  /-- Before the first line. -/
  | start

/-- Where a range of lines ends. -/
inductive RangeEnd where
  | address (a : Address)
  | further (n : Nat)
  | multiple (n : Nat)

/-- How letters of a replacement are changed. -/
inductive CaseRule where
  | keep
  | upper
  | lower
  deriving DecidableEq, Repr

/-- A piece of a replacement. -/
inductive Piece where
  | text (cs : Octets)
  /-- What a group matched; group zero is the whole. -/
  | group (n : Nat)
  /-- From here on letters are changed. -/
  | case (r : CaseRule)
  /-- The next letter is changed. -/
  | nextCase (r : CaseRule)
  deriving DecidableEq, Repr

structure Substitution where
  pattern : Pattern
  pieces : List Piece
  /-- From which match on. -/
  nth : Nat := 1
  all : Bool := false
  print : Bool := false
  file : Option Octets := none

inductive Action where
  | nothing
  | openBlock (ending : Nat)
  | lineNumber
  | append (text : Octets)
  | insert (text : Octets)
  | change (text : Octets)
  | branch (label : Octets)
  | branchIfReplaced (label : Octets)
  | branchUnlessReplaced (label : Octets)
  | delete
  | deleteFirst
  | fileName
  | getHold
  | addHold
  | hold
  | holdMore
  | exchange
  | list (width : Option Nat)
  | next
  | join
  | print
  | printFirst
  | quit (status : Nat)
  | quitSilently (status : Nat)
  | readFile (name : Octets)
  | readLine (name : Octets)
  | writeFile (name : Octets)
  | writeFirst (name : Octets)
  | substitute (s : Substitution)
  | transliterate (pairs : List (Char × Char))
  | empty

structure Command where
  first : Option Address := none
  last : Option RangeEnd := none
  negated : Bool := false
  action : Action

instance : Inhabited Command := ⟨{ action := .nothing }⟩

/-- A script: its commands in order, and where labels stand. -/
structure Script where
  commands : Array Command
  labels : List (Octets × Nat)
  /-- Lines are not printed at the end of their turn. -/
  quiet : Bool := false

/-- What is wrong with a script. -/
inductive Fault where
  | unknownCommand (c : Octets)
  | unterminatedSubstitution
  | unterminatedTransliteration
  | unequalTransliteration
  | unterminatedAddress
  | unknownOption
  | zeroNumber
  | twice (option : Char)
  | twoNumbers
  | unexpectedClose
  | unmatchedOpen
  | unexpectedComma
  | missingCommand
  | missingFile
  | extraCharacters
  | noText
  | addressForComment
  | addressForLabel
  | oneAddress
  | zeroAddress
  | relativeFirst
  | twoNegations
  | noLabel
  | noSuchGroup (n : Nat)
  | newerVersion
  | noPattern
  | noSuchLabel (label : Octets)
  | regex (f : RegexFault)
  deriving DecidableEq, Repr

namespace Fault

def text (f : Fault) : Octets :=
  match f with
  | .unknownCommand c => "unknown command: \x60".toList ++ c ++ ['\'']
  | .unterminatedSubstitution => "unterminated \x60s' command".toList
  | .unterminatedTransliteration => "unterminated \x60y' command".toList
  | .unequalTransliteration => "strings for \x60y' command are different lengths".toList
  | .unterminatedAddress => "unterminated address regex".toList
  | .unknownOption => "unknown option to \x60s'".toList
  | .zeroNumber => "number option to \x60s' command may not be zero".toList
  | .twice c => "multiple \x60".toList ++ c :: "' options to \x60s' command".toList
  | .twoNumbers => "multiple number options to \x60s' command".toList
  | .unexpectedClose => "unexpected \x60\x7d'".toList
  | .unmatchedOpen => "unmatched \x60\x7b'".toList
  | .unexpectedComma => "unexpected \x60,'".toList
  | .missingCommand => "missing command".toList
  | .missingFile => "missing filename in r/R/w/W commands".toList
  | .extraCharacters => "extra characters after command".toList
  | .noText => "expected \\ after \x60a', \x60c' or \x60i'".toList
  | .addressForComment => "comments don't accept any addresses".toList
  | .addressForLabel => ": doesn't want any addresses".toList
  | .oneAddress => "command only uses one address".toList
  | .zeroAddress => "invalid usage of line address 0".toList
  | .relativeFirst => "invalid usage of +N or ~N as first address".toList
  | .twoNegations => "multiple \x60!'s".toList
  | .noLabel => "\":\" lacks a label".toList
  | .noSuchGroup n =>
    "invalid reference \\".toList ++ Octets.ofNat n ++ " on \x60s' command's RHS".toList
  | .newerVersion => "expected newer version of sed".toList
  | .noPattern => "no previous regular expression".toList
  | .noSuchLabel label => "can't find label for jump to \x60".toList ++ label ++ ['\'']
  | .regex f => f.text.toList

end Fault

end KeyRelay.Tools.Edit
