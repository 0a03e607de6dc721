import KeyRelay.Shell.Variables

/-!
Finding what a name stands for: a word of the language, a function, one of the shell's own commands,
or a file that is searched in the directories of a variable.
-/

namespace KeyRelay.Shell

/-- The shell's own commands whose errors end a script. -/
def specialCommands : List String :=
  [".", ":", "break", "continue", "eval", "exec", "exit", "export", "local", "readonly", "return",
    "set", "shift", "times", "trap", "unset"]

/-- The other commands of its own. -/
def ordinaryCommands : List String :=
  ["[", "alias", "bg", "cd", "chdir", "command", "echo", "false", "fg", "getopts", "hash", "jobs",
    "kill", "printf", "pwd", "read", "test", "true", "type", "ulimit", "umask", "unalias", "wait"]

/-- What a command's name stands for. -/
inductive Found where
  | special (name : String)
  | function (body : Command)
  | ordinary (name : String)
  /-- A file by the path it was found under. -/
  | file (path : Octets)
  | nothing (f : SystemFault)

namespace Lookup

/-- The directories in which commands are searched. -/
def searched (value : Octets) : List Octets :=
  Octets.splitAt (· = ':') value

/-- The first file of a name in the directories. -/
def file? (files : Files) (current : Path) (directories : List Octets) (name : Octets) :
    Except SystemFault Octets :=
  directories.foldr (fun d rest =>
    let path := (if d.isEmpty then [] else d ++ ['/']) ++ name
    match files.find current path with
    | .ok (_, i) =>
      match i.node with
      | .regular _ | .tool _ => .ok path
      | _ => rest.mapError fun _ => .denied
    | .error _ => rest) (.error .missing)

/-- What a name stands for; functions may be left out. -/
def find (p : Process) (files : Files) (functions : Bool) (path : Octets) (name : Octets) : Found :=
  let text := String.ofList name
  if name.contains '/' then .file name
  else if specialCommands.contains text then .special text
  else
    match if functions then p.functions.find? fun f => f.1 = name else none with
    | some (_, body) => .function body
    | none =>
      if ordinaryCommands.contains text then .ordinary text
      else
        match file? files p.directory (searched path) name with
        | .ok path => .file path
        | .error f => .nothing f

/-- How a fault is told where a command was to be run. -/
def faultText (f : SystemFault) : Octets :=
  match f with
  | .missing | .notADirectory => "not found".toList
  | f => f.octets

end Lookup

end KeyRelay.Shell
