import KeyRelay.Shell.Octets

/-!
A tree of files. Names lead to nodes, so that a file may have several names and outlives them; paths
are followed through directories and symbolic links. What goes wrong is told in the words of the
system.
-/

namespace KeyRelay.Shell

/-- Why the system refuses something. -/
inductive SystemFault where
  | missing
  | denied
  | isPresent
  | notADirectory
  | isADirectory
  | nameTooLong
  | notEmpty
  | tooManyLinks
  | badStream
  | badArgument
  | noSpace
  | notPermitted
  | noDevice
  deriving DecidableEq, Repr

namespace SystemFault

def number : SystemFault → Nat
  | .missing => 2
  | .denied => 13
  | .isPresent => 17
  | .notADirectory => 20
  | .isADirectory => 21
  | .nameTooLong => 36
  | .notEmpty => 39
  | .tooManyLinks => 40
  | .badStream => 9
  | .badArgument => 22
  | .noSpace => 28
  | .notPermitted => 1
  | .noDevice => 6

def text : SystemFault → String
  | .missing => "No such file or directory"
  | .denied => "Permission denied"
  | .isPresent => "File exists"
  | .notADirectory => "Not a directory"
  | .isADirectory => "Is a directory"
  | .nameTooLong => "File name too long"
  | .notEmpty => "Directory not empty"
  | .tooManyLinks => "Too many levels of symbolic links"
  | .badStream => "Bad file descriptor"
  | .badArgument => "Invalid argument"
  | .noSpace => "No space left on device"
  | .notPermitted => "Operation not permitted"
  | .noDevice => "No such device or address"

def octets (f : SystemFault) : Octets :=
  f.text.toList

end SystemFault

/-- A file that is no store of text. -/
inductive Device where
  | null
  | zero
  | full
  | random
  deriving DecidableEq, Repr

/-- What a stream leads to. -/
inductive StreamKind where
  | closed
  | pipe
  | file
  | device
  | directory
  deriving DecidableEq, Repr

inductive Node where
  | directory
  | regular (content : Octets)
  | device (d : Device)
  | link (target : Octets)
  /-- A tool of this library. -/
  | tool (name : String)
  deriving DecidableEq, Repr

structure Inode where
  node : Node
  /-- Permission bits. -/
  mode : Nat
  /-- When it was last written, counted in changes of the tree. -/
  stamp : Nat := 0
  deriving Repr

instance : Inhabited Inode := ⟨⟨.directory, 493, 0⟩⟩

/-- The names on the way from the root. -/
abbrev Path := List Octets

structure Files where
  inodes : Array Inode
  names : List (Path × Nat)
  changes : Nat := 0

namespace Path

/-- A path from the root as text. -/
def text (p : Path) : Octets :=
  if p.isEmpty then ['/'] else p.flatMap ('/' :: ·)

def ofText (cs : Octets) : Path :=
  (Octets.splitAt (· = '/') cs).filter (· ≠ [])

/-- The last name of a path as text, and what stands before it. -/
def lastName (cs : Octets) : Octets :=
  let body := Octets.dropEndWhile (· = '/') cs
  if body.isEmpty then (if cs.isEmpty then [] else ['/'])
  else (body.reverse.takeWhile (· ≠ '/')).reverse

def directoryName (cs : Octets) : Octets :=
  let body := Octets.dropEndWhile (· = '/') cs
  if body.isEmpty then (if cs.isEmpty then ['.'] else ['/'])
  else
    let above := (body.reverse.dropWhile (· ≠ '/')).reverse
    if above.isEmpty then ['.']
    else
      let above := Octets.dropEndWhile (· = '/') above
      if above.isEmpty then ['/'] else above

end Path

namespace Files

/-- The longest name in a path. -/
def longestName : Nat := 255

/-- The length from which on a path is too long. -/
def tooLong : Nat := 4096

def index? (f : Files) (p : Path) : Option Nat :=
  (f.names.find? fun e => e.1 = p).map (·.2)

def inode? (f : Files) (p : Path) : Option Inode :=
  if p.isEmpty then some default else (f.index? p).bind fun i => f.inodes[i]?

def node? (f : Files) (p : Path) : Option Node :=
  (f.inode? p).map Inode.node

/-- The node of an index. -/
def nodeAt? (f : Files) (i : Nat) : Option Node :=
  (f.inodes[i]?).map Inode.node

/-- Follows names from a directory. The last name need not exist; a link that it is may be left
alone. -/
def walk (f : Files) (followLast : Bool) : Nat → Path → List Octets → Except SystemFault Path
  | 0, _, _ => .error .tooManyLinks
  | _ + 1, place, [] => .ok place
  | fuel + 1, place, name :: more =>
    match f.node? place with
    | none => .error .missing
    | some .directory =>
      if longestName < name.length then .error .nameTooLong
      else if name.isEmpty || name = ['.'] then f.walk followLast fuel place more
      else if name = ['.', '.'] then f.walk followLast fuel place.dropLast more
      else
        let next := place ++ [name]
        match f.node? next with
        | some (.link target) =>
          if more.isEmpty && !followLast then .ok next
          else
            let start := if target.head? = some '/' then [] else place
            f.walk followLast fuel start (Path.ofText target ++ more)
        | some _ => f.walk followLast fuel next more
        | none => if more.all (·.isEmpty) then .ok next else .error .missing
    | some _ => .error .notADirectory

/-- The path that a text leads to from a directory. -/
def resolve (f : Files) (current : Path) (cs : Octets) (followLast : Bool) :
    Except SystemFault Path :=
  if cs.isEmpty then .error .missing
  else if tooLong ≤ cs.length then .error .nameTooLong
  else
    let pieces := Octets.splitAt (· = '/') cs
    f.walk followLast (pieces.length + 400) (if cs.head? = some '/' then [] else current) pieces

/-- What stands at the end of a path, links followed. -/
def find (f : Files) (current : Path) (cs : Octets) : Except SystemFault (Path × Inode) := do
  let p ← f.resolve current cs true
  match f.inode? p with
  | some i => return (p, i)
  | none => throw .missing

/-- The text of a device as far as anyone reads it. -/
def deviceText (d : Device) (size : Nat) : Octets :=
  match d with
  | .null => []
  | .zero | .full | .random => List.replicate size '\x00'

/-- How much is taken of a device that never ends where no amount is told. -/
def muchOf : Nat := 1048576

/-- The content of a file; of an endless one, so much. -/
def read (f : Files) (current : Path) (cs : Octets) (size : Nat) : Except SystemFault Octets := do
  let (_, i) ← f.find current cs
  match i.node with
  | .directory => throw .isADirectory
  | .regular content => return content
  | .device d => return deviceText d size
  | .tool name => return ("\x7fELF" ++ name).toList
  | .link _ => throw .tooManyLinks

/-- Whether reading never comes to an end. -/
def isEndless (f : Files) (current : Path) (cs : Octets) : Bool :=
  match f.find current cs with
  | .ok (_, ⟨.device d, _, _⟩) => d ≠ .null
  | _ => false

def isDirectory (f : Files) (current : Path) (cs : Octets) : Bool :=
  match f.find current cs with
  | .ok (_, i) => i.node = .directory
  | .error _ => false

/-- Names in a directory, in order. -/
def entries (f : Files) (p : Path) : List Octets :=
  let inside := f.names.filterMap fun e => if e.1.dropLast = p && e.1.length = p.length + 1
    then e.1.getLast? else none
  inside.mergeSort fun a b => (Octets.order a b).isLE

/-- Replaces a node's content or kind. -/
def update (f : Files) (i : Nat) (g : Inode → Inode) : Files :=
  { f with
    inodes := f.inodes.modify i fun n => { g n with stamp := f.changes + 1 }
    changes := f.changes + 1 }

/-- Adds a node under a name, in place of what has the name. -/
def add (f : Files) (p : Path) (node : Node) (mode : Nat) : Files :=
  { inodes := f.inodes.push ⟨node, mode, f.changes + 1⟩
    names := (p, f.inodes.size) :: f.names.filter (·.1 ≠ p)
    changes := f.changes + 1 }

/-- Another name for a node. -/
def addName (f : Files) (p : Path) (i : Nat) : Files :=
  { f with names := (p, i) :: f.names.filter (·.1 ≠ p) }

def removeName (f : Files) (p : Path) : Files :=
  { f with names := f.names.filter (·.1 ≠ p), changes := f.changes + 1 }

/-- Removes a name and all below it. -/
def removeTree (f : Files) (p : Path) : Files :=
  { f with names := f.names.filter fun e => !p.isPrefixOf e.1, changes := f.changes + 1 }

/-- Gives all below a path another place. -/
def move (f : Files) (source target : Path) : Files :=
  let moved := f.names.filterMap fun e =>
    if source.isPrefixOf e.1 then some (target ++ e.1.drop source.length, e.2) else none
  let kept := f.names.filter fun e => !source.isPrefixOf e.1 && !target.isPrefixOf e.1
  { f with names := moved ++ kept, changes := f.changes + 1 }

/-- The node that a file to be written has, made or emptied if need be. -/
def openForWriting (f : Files) (current : Path) (cs : Octets) (empty keep : Bool) (mode : Nat) :
    Except SystemFault (Files × Nat) := do
  let p ← f.resolve current cs true
  match f.index? p with
  | some i =>
    match f.nodeAt? i with
    | some (.regular _) =>
      if keep then throw .isPresent
      else return (if empty then f.update i fun n => { n with node := .regular [] } else f, i)
    | some .directory => throw .isADirectory
    | some (.device _) => return (f, i)
    | some (.tool _) => return (f.update i fun n => { n with node := .regular [] }, i)
    | _ => throw .missing
  | none =>
    if p.isEmpty then throw .isADirectory
    else if cs.getLast? = some '/' then throw .isADirectory
    else return (f.add p (.regular []) mode, f.inodes.size)

/-- Writes a whole file. -/
def write (f : Files) (current : Path) (cs content : Octets) (mode : Nat) :
    Except SystemFault Files := do
  let (f, i) ← f.openForWriting current cs true false mode
  return f.update i fun n => match n.node with
    | .regular _ => { n with node := .regular content }
    | _ => n

end Files

end KeyRelay.Shell
