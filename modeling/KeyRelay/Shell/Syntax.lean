import KeyRelay.Shell.Octets

/-!
Scripts of the command interpreter that lookup tools are written for: words made of quoted and
unquoted parts, redirections, and the commands they form.
-/

namespace KeyRelay.Shell

/-- Takes something off the front or the back of a value. -/
inductive Cut where
  | front (longest : Bool)
  | back (longest : Bool)
  deriving DecidableEq, Repr

/-- How a file is opened. -/
inductive OpenMode where
  | read
  | write
  | append
  /-- Written also where files are kept from being overwritten. -/
  | overwrite
  | readWrite
  deriving DecidableEq, Repr

mutual

/-- A part of a word. Quoted parts are neither split into fields nor read as patterns. -/
inductive Part where
  | text (quoted : Bool) (chars : Octets)
  | parameter (quoted : Bool) (name : Octets) (use : Use)
  /-- What a command prints. -/
  | output (quoted : Bool) (c : Command)
  /-- The value of an expression. -/
  | arithmetic (quoted : Bool) (expression : List Part)

/-- What is made of a parameter; with `empty`, an empty value counts as none. -/
inductive Use where
  | value
  | size
  | orElse (empty : Bool) (w : List Part)
  | orAssign (empty : Bool) (w : List Part)
  | orFail (empty : Bool) (w : List Part)
  | ifSet (empty : Bool) (w : List Part)
  | cut (how : Cut) (pattern : List Part)
  /-- Written in no known way. -/
  | unknown

/-- Where a stream is connected to. -/
inductive Target where
  | file (mode : OpenMode) (name : List Part)
  /-- Another stream, or none at all for a hyphen. -/
  | stream (of : List Part)
  /-- A text that stands in the script, by its number. -/
  | document (id : Nat)

inductive Redirect where
  | mk (stream : Nat) (target : Target)

inductive Command where
  | nothing
  | simple (line : Nat) (assigned : List (Octets × List Part)) (words : List (List Part))
      (redirects : List Redirect)
  | pipeline (parts : List Command)
  | background (c : Command)
  | sequence (cs : List Command)
  | both (first second : Command)
  | either (first second : Command)
  | negate (c : Command)
  | choose (condition yes no : Command)
  | repeatWhile (wanted : Bool) (condition body : Command)
  | forEach (line : Nat) (name : Octets) (words : List (List Part)) (body : Command)
  | select (line : Nat) (word : List Part) (arms : List (List (List Part) × Command))
  | subshell (line : Nat) (c : Command) (redirects : List Redirect)
  | redirected (line : Nat) (c : Command) (redirects : List Redirect)
  | define (name : Octets) (body : Command)

end

abbrev Word := List Part

instance : Inhabited Command := ⟨.nothing⟩

end KeyRelay.Shell
