import KeyRelay.Shell.Expansion

/-!
Redirections: connecting the streams of a process to files, to other streams and to texts of the
script.
-/

namespace KeyRelay.Shell.Redirection
open Run

/-- A redirection whose words are expanded. -/
inductive Ready where
  | file (stream : Nat) (mode : OpenMode) (path : Octets)
  | copy (stream : Nat) (of : Nat)
  | close (stream : Nat)
  | text (stream : Nat) (content : Octets)

/-- Expands the words of a redirection. -/
def prepare (exec : Command → Run Unit) (r : Redirect) : Run Ready := do
  let .mk stream target := r
  match target with
  | .file mode w => return .file stream mode (← Expansion.text exec {} w)
  | .stream w =>
    match ← Expansion.text exec {} w with
    | ['-'] => return .close stream
    | [d] =>
      if d.isDigit then return .copy stream (Octets.digitValue d)
      else badStream
    | _ => badStream
  | .document id =>
    match (← process).documents.find? fun d => d.1 = id with
    | some (_, w) => return .text stream (← Expansion.text exec { tilde := false } w)
    | none => return .text stream []
where
  badStream : Run Ready := do
    modifyProcess fun p => { p with line := p.readTo }
    fail (SyntaxFault.message ⟨0, .badStream⟩).toList

/-- The stream that a path of a device stands for. -/
def streamOf? (path : Octets) : Option Nat :=
  let s := String.ofList path
  if s = "/dev/stdin" then some 0
  else if s = "/dev/stdout" then some 1
  else if s = "/dev/stderr" then some 2
  else
    match Octets.after? "/dev/fd/".toList path, Octets.after? "/proc/self/fd/".toList path with
    | some ds, _ => Octets.nat? ds
    | none, some ds => Octets.nat? ds
    | none, none => none

/-- How a fault of the system is told where a file was to be read or written. -/
def faultText (forWriting : Bool) (f : SystemFault) : Octets :=
  match f with
  | .missing | .notADirectory =>
    (if forWriting then "Directory nonexistent" else "No such file").toList
  | f => f.octets

/-- An opening of a file. -/
def openFile (mode : OpenMode) (path : Octets) : Run (Except SystemFault Nat) := do
  let s ← get
  let p := s.process
  match streamOf? path with
  | some n =>
    match ← opening? n with
    | some (i, _) => return .ok i
    | none => return .error .noDevice
  | none =>
    if path = "/dev/tty".toList then return .error .noDevice
    match mode with
    | .read =>
      match s.world.files.find p.directory path with
      | .error f => return .error f
      | .ok (place, node) =>
        match node.node with
        | .directory => return .ok (← addOpening { channel := .directory, writable := false })
        | .device d => return .ok (← addOpening { channel := .device d, writable := false })
        | _ =>
          let i := (s.world.files.index? place).getD 0
          return .ok (← addOpening { channel := .file i, writable := false })
    | mode =>
      let keep := mode = .write && p.hasOption 'C'
      let empty := mode = .write || mode = .overwrite
      match s.world.files.openForWriting p.directory path empty keep
          (Nat.land 438 (511 - p.umask % 512)) with
      | .error f => return .error f
      | .ok (files, i) =>
        modifyWorld fun w => { w with files }
        let channel := match files.nodeAt? i with
          | some (.device d) => Channel.device d
          | _ => .file i
        return .ok
          (← addOpening { channel, readable := mode = .readWrite, atEnd := mode = .append })

/-- Connects streams; `false` where that fails, which is complained of. -/
def perform (r : Ready) : Run Bool := do
  match r with
  | .close stream =>
    connect stream none
    return true
  | .copy stream of =>
    match ← opening? of with
    | some (i, _) =>
      connect stream (some i)
      return true
    | none =>
      warn (Octets.ofNat of ++ [':', ' '] ++ SystemFault.badStream.octets)
      return false
  | .text stream content =>
    let n ← addPipe
    modifyWorld fun w => { w with pipes := w.pipes.modify n fun p => { p with front := content } }
    connect stream (some (← addOpening { channel := .pipe n, writable := false }))
    return true
  | .file stream mode path =>
    match ← openFile mode path with
    | .ok i =>
      connect stream (some i)
      return true
    | .error f =>
      let verb := if mode = .read then "cannot open " else "cannot create "
      warn (verb.toList ++ path ++ [':', ' '] ++ faultText (mode ≠ .read) f)
      return false

/-- Performs redirections in order up to one that fails. -/
def performAll : List Ready → Run Bool
  | [] => return true
  | r :: more => do
    if ← perform r then performAll more else return false

/-- Does something with redirected streams, which are restored afterwards. Where a redirection
fails, that is the result. -/
def within (rs : List Ready) (act : Run Nat) (failed : Run Nat) : Run Nat := do
  if rs.isEmpty then act
  else
    let streams := (← process).streams
    thenAlways (do if ← performAll rs then act else failed)
      (modifyProcess fun p => { p with streams })

end KeyRelay.Shell.Redirection
