import KeyRelay.Tools.Regex.Program
import KeyRelay.Tools.Regex.Reader

/-!
Programs that go through records: patterns, and what is done where they hold.
-/

namespace KeyRelay.Tools.Awk
open Shell

inductive Arith where
  | add
  | sub
  | mul
  | div
  | mod
  | pow
  deriving DecidableEq, Repr

inductive Relation where
  | lt
  | le
  | eq
  | ne
  | ge
  | gt
  deriving DecidableEq, Repr

/-- Functions of the language. -/
inductive Builtin where
  | length
  | substr
  | index
  | split
  | sub
  | gsub
  | match'
  | sprintf
  | sin
  | cos
  | atan2
  | exp
  | log
  | sqrt
  | int
  | rand
  | srand
  | tolower
  | toupper
  | system
  | close
  | fflush
  | systime
  deriving DecidableEq, Repr

def Builtin.named : List (String × Builtin) :=
  [("length", .length), ("substr", .substr), ("index", .index), ("split", .split), ("sub", .sub),
    ("gsub", .gsub), ("match", .match'), ("sprintf", .sprintf), ("sin", .sin), ("cos", .cos),
    ("atan2", .atan2), ("exp", .exp), ("log", .log), ("sqrt", .sqrt), ("int", .int),
    ("rand", .rand), ("srand", .srand), ("tolower", .tolower), ("toupper", .toupper),
    ("system", .system), ("close", .close), ("fflush", .fflush), ("systime", .systime)]

/-- Where a line is read from. -/
inductive Origin where
  | main
  | file
  | command
  deriving DecidableEq, Repr

inductive Expr where
  | number (x : Float)
  | text (cs : Octets)
  | regex (p : Regex.Program)
  | var (name : String)
  | item (name : String) (keys : List Expr)
  | field (e : Expr)
  /-- Sets a variable, an item or a field; with an operator, from its value so far. -/
  | assign (op : Option Arith) (target value : Expr)
  /-- Counts up or down; the value is the one before or after. -/
  | count (before up : Bool) (target : Expr)
  | choice (c a b : Expr)
  | or (a b : Expr)
  | and (a b : Expr)
  | not (a : Expr)
  | negated (a : Expr)
  | positive (a : Expr)
  | arith (op : Arith) (a b : Expr)
  | compare (op : Relation) (a b : Expr)
  | matches (negated : Bool) (a b : Expr)
  | isKey (keys : List Expr) (name : String)
  | append (a b : Expr)
  | call (name : String) (args : List Expr)
  | builtin (b : Builtin) (args : List Expr)
  /-- Reads a line into the record, or into a target. -/
  | getline (target : List Expr) (origin : Origin) (source : List Expr)
  | group (e : Expr)

/-- Where printed text goes. -/
inductive Outlet where
  | file
  | append
  | command
  deriving DecidableEq, Repr

inductive Statement where
  | block (ss : List Statement)
  | expr (e : Expr)
  | print (args : List Expr) (outlet : Option (Outlet × Expr))
  | printf (args : List Expr) (outlet : Option (Outlet × Expr))
  | ifElse (c : Expr) (a b : Statement)
  | while (c : Expr) (body : Statement)
  | doWhile (body : Statement) (c : Expr)
  | for (init : Statement) (c : Option Expr) (step body : Statement)
  | forIn (name table : String) (body : Statement)
  | next
  | nextFile
  | exit (e : Option Expr)
  | return (e : Option Expr)
  | break
  | continue
  | delete (name : String) (keys : List Expr)
  | deleteAll (name : String)

inductive Pattern where
  | begin
  | ending
  | always
  | expr (e : Expr)
  | range (a z : Expr)

structure Function where
  name : String
  params : List String
  body : Statement

structure Program where
  /-- Patterns with their actions; without one, the record is printed. -/
  rules : List (Pattern × Option Statement) := []
  functions : List Function := []

/-- Why a program is refused, with the line it was found on. -/
inductive Fault where
  | unexpected (token : Octets)
  | missingBrace
  | missingClose (token : Octets)
  | extra (c : Char)
  | runawayString (text : Octets)
  | runawayRegex (text : Octets)
  | strange (c : Char)
  | neverDefined (name : String)
  /-- A word or name stands where it means nothing. -/
  | misplaced (what : String)
  | regex (f : RegexFault) (text : Octets)
  deriving DecidableEq, Repr

/-- What is said of an expression that cannot be used. -/
def Fault.regexText (f : RegexFault) (cs : Octets) : Octets :=
  let why := match f with
    | .unmatchedOpen => "missing ')'"
    | .nothingRepeated => "missing operand"
    | .anchorRepeated => "syntax error ^* or ^+"
    | .boundsInverted | .badBrace => "bad interval expression"
    | .unmatchedBracket | .unfinished | .badClass => "bad class -- [], [^] or ["
    | f => f.text
  "regular expression compile failed (".toList ++ why.toList ++ ")\n".toList ++ cs

def Fault.text (f : Fault) (line : Nat) : Octets :=
  let head := "line ".toList ++ Octets.ofNat line ++ [':', ' ']
  match f with
  | .unexpected t => head ++ "syntax error at or near ".toList ++ t
  | .missingBrace => head ++ "missing \x7d near end of file".toList
  | .missingClose t => head ++ "missing ) near ".toList ++ t
  | .extra c => head ++ "extra '".toList ++ [c, '\'']
  | .runawayString t => head ++ "runaway string constant \"".toList ++ t ++ " ...".toList
  | .runawayRegex t => head ++ "runaway regular expression /".toList ++ t ++ " ...".toList
  | .strange c => Octets.ofNat line ++ ": unexpected character '".toList ++ [c, '\'']
  | .neverDefined n => head ++ "function ".toList ++ n.toList ++ " never defined".toList
  | .misplaced w => head ++ w.toList
  | .regex f t => head ++ Fault.regexText f t

end KeyRelay.Tools.Awk
