import KeyRelay.Secret.Tool
import KeyRelay.Shell.Execution
import KeyRelay.Shell.Launchers
import KeyRelay.Shell.Seeking
import KeyRelay.Tools.Box

/-!
The machine that lookup tools run on: its files, the directories that commands are searched in, and
the environment. What keeps a command from being started is told in the words of the system; a
command that is started runs to its end, or counts as expired.

This is the outer layer. A lookup tool is a program of its own, and what is proved of lookups holds
of every `ToolRunner`; here is one that needs no process, for tools that are shell scripts, with the
programs that such scripts call. No theorem rests on it, nor on any module of `Shell` or `Tools`.
-/

namespace KeyRelay.Shell

structure Machine where
  files : Files
  /-- Directories in which commands are searched. -/
  searched : List Octets
  environment : List (Octets × Octets)
  directory : Path

namespace Machine

/-- What is told of a command that is not started. -/
def startMessage (f : SystemFault) : String :=
  f.text ++ " (os error " ++ toString f.number ++ ")"

/-- What is told of a command or an argument that holds a zero byte. -/
def zeroByteMessage : String := "nul byte found in provided data"

/-- The path that a command is started by: the first in the directories that can be executed, or the
command itself where it holds a slash. -/
def path (m : Machine) (command : Octets) : Except SystemFault Octets :=
  let check (p : Octets) : Except SystemFault Octets :=
    (Launch.executable m.files m.directory p).map fun _ => p
  if command.isEmpty then .error .missing
  else if command.contains '/' then check command
  else search check false m.searched
where
  /-- What is missing is searched on; what cannot be executed is remembered. -/
  search (check : Octets → Except SystemFault Octets) (denied : Bool) :
    List Octets → Except SystemFault Octets
    | [] => .error (if denied then .denied else .missing)
    | d :: more =>
      match check (d ++ ['/'] ++ command) with
      | .ok p => .ok p
      | .error .missing => search check denied more
      | .error .denied => search check true more
      | .error f => .error f

/-! ### The usual files -/

def accounts : String :=
  "root:x:0:0:root:/root:/bin/bash\n" ++
  "daemon:x:1:1:daemon:/usr/sbin:/usr/sbin/nologin\n" ++
  "bin:x:2:2:bin:/bin:/usr/sbin/nologin\n" ++
  "sys:x:3:3:sys:/dev:/usr/sbin/nologin\n" ++
  "sync:x:4:65534:sync:/bin:/bin/sync\n" ++
  "games:x:5:60:games:/usr/games:/usr/sbin/nologin\n" ++
  "man:x:6:12:man:/var/cache/man:/usr/sbin/nologin\n" ++
  "lp:x:7:7:lp:/var/spool/lpd:/usr/sbin/nologin\n" ++
  "mail:x:8:8:mail:/var/mail:/usr/sbin/nologin\n" ++
  "news:x:9:9:news:/var/spool/news:/usr/sbin/nologin\n" ++
  "uucp:x:10:10:uucp:/var/spool/uucp:/usr/sbin/nologin\n" ++
  "proxy:x:13:13:proxy:/bin:/usr/sbin/nologin\n" ++
  "www-data:x:33:33:www-data:/var/www:/usr/sbin/nologin\n" ++
  "backup:x:34:34:backup:/var/backups:/usr/sbin/nologin\n" ++
  "list:x:38:38:Mailing List Manager:/var/list:/usr/sbin/nologin\n" ++
  "irc:x:39:39:ircd:/run/ircd:/usr/sbin/nologin\n" ++
  "_apt:x:42:65534::/nonexistent:/usr/sbin/nologin\n" ++
  "nobody:x:65534:65534:nobody:/nonexistent:/usr/sbin/nologin\n"

def directories : List String :=
  ["usr", "usr/bin", "usr/sbin", "usr/lib", "usr/lib64", "usr/local", "usr/local/bin",
    "usr/local/sbin", "usr/local/lib", "usr/local/share", "usr/local/etc", "usr/local/include",
    "usr/local/src", "usr/local/games", "usr/share", "usr/include", "usr/src", "usr/games",
    "usr/libexec", "etc", "etc/ssl", "etc/ssl/certs", "etc/apt", "etc/default", "etc/init.d",
    "etc/cron.d", "etc/profile.d", "etc/security", "etc/skel", "etc/systemd", "etc/alternatives",
    "var", "var/lib", "var/log", "var/cache", "var/tmp", "var/spool", "var/mail", "var/opt",
    "var/local", "var/backups", "run", "run/lock", "tmp", "home", "root", "opt", "srv", "mnt",
    "media", "boot", "dev", "dev/shm", "dev/pts", "dev/mqueue", "proc", "proc/self", "sys"]

def links : List (String × String) :=
  [("bin", "usr/bin"), ("sbin", "usr/sbin"), ("lib", "usr/lib"), ("lib64", "usr/lib64"),
    ("var/run", "/run"), ("var/lock", "/run/lock"), ("etc/os-release", "../usr/lib/os-release"),
    ("etc/mtab", "/proc/mounts")]

def plainFiles : List (String × String) :=
  [("etc/passwd", accounts), ("etc/group", "root:x:0:\n"),
    ("etc/shadow", "root:*:19700:0:99999:7:::\n"), ("etc/gshadow", "root:*::\n"),
    ("etc/hosts", "127.0.0.1\tlocalhost\n"), ("etc/hostname", "localhost\n"),
    ("etc/fstab", "# UNCONFIGURED FSTAB FOR BASE SYSTEM\n"), ("etc/resolv.conf", ""),
    ("etc/nsswitch.conf", ""), ("etc/issue", ""), ("etc/profile", ""), ("etc/bash.bashrc", ""),
    ("etc/shells", "/bin/sh\n"), ("etc/environment", ""), ("etc/ld.so.conf", ""),
    ("etc/ld.so.cache", ""), ("etc/login.defs", ""), ("etc/host.conf", "multi on\n"),
    ("etc/networks", ""), ("etc/motd", ""), ("etc/services", ""), ("etc/protocols", ""),
    ("etc/timezone", "Etc/UTC\n"), ("usr/lib/os-release", ""), ("proc/mounts", ""),
    ("proc/cpuinfo", ""), ("proc/meminfo", ""), ("proc/version", ""), ("proc/uptime", "")]

def devices : List (String × Device) :=
  [("dev/null", .null), ("dev/zero", .zero), ("dev/full", .full), ("dev/random", .random),
    ("dev/urandom", .random)]

/-- All of them, with the tools of the library among the programs. -/
def usualFiles : Files :=
  let place (s : String) : Path := Path.ofText s.toList
  let nodes : List (Path × Node × Nat) :=
    directories.map (fun d =>
      (place d, Node.directory, if d = "tmp" || d = "var/tmp" then 1023 else 493)) ++
      links.map (fun (n, t) => (place n, Node.link t.toList, 511)) ++
      plainFiles.map (fun (n, t) =>
        (place n, Node.regular t.toList, if n = "etc/shadow" then 416 else 420)) ++
      devices.map (fun (n, d) => (place n, Node.device d, 438)) ++
      Tools.programs.map fun t => (place ("usr/bin/" ++ t), Node.tool t, 493)
  { inodes := (nodes.map fun (_, n, mode) => (⟨n, mode, 0⟩ : Inode)).toArray
    names := (nodes.map (·.1)).zipIdx }

/-- A machine with the usual files and tools. -/
def standard : Machine where
  files := usualFiles
  searched := ["/usr/local/sbin", "/usr/local/bin", "/usr/sbin", "/usr/bin", "/sbin", "/bin"].map
    String.toList
  environment := [("HOME".toList, "/root".toList)]
  directory := [['r', 'o', 'o', 't']]

/-- Adds a script at an absolute path, with the directories above it. -/
def addScript (m : Machine) (path : String) (text : String) : Machine :=
  let names := Path.ofText (Octets.ofText path)
  let above := (List.range names.length).drop 1 |>.map fun n => names.take n
  let files := above.foldl (fun (f : Files) p =>
    if (f.inode? p).isSome then f else f.add p .directory 493) m.files
  { m with files := files.add names (.regular (Octets.ofText text)) 493 }

/-! ### Running commands -/

/-- Commands that may be run before a script counts as endless. -/
def plenty : Nat := 200000

/-- A process at its start: empty input, and a pipe for what it prints and one for what it complains
of. -/
def initial (m : Machine) (name : Octets) (deadline : Nat) : State :=
  let inherited := ("PATH".toList, Octets.joinWith [':'] m.searched) :: m.environment
  { process :=
      { name, params := [], directory := m.directory, reached := Path.text m.directory
        streams := [(0, 0), (1, 1), (2, 2)]
        bindings := inherited.map fun (n, v) => { name := n, value := some v, exported := true } }
    world :=
      { files := m.files, steps := plenty, deadline := some deadline, pipes := #[{}, {}]
        openings :=
          #[{ channel := .device .null }, { channel := .pipe 0, readable := false },
            { channel := .pipe 1, readable := false }] } }

/-- The tools that start others, by their names. -/
def launcher? (tool : String) : Option Launch.Launcher :=
  ((("find", Launch.Seek.find) :: Launch.plainLaunchers).find? fun t => t.1 = tool).map (·.2)

def means : Launch.Means :=
  let launchers := launcher?
  ⟨Tools.find?, Execution.interpreter Tools.find? launchers Execution.deepest, launchers⟩

/-- How a command that was started ends under a limit in seconds; even the quickest takes some
time. -/
def ending (limit : UInt64) (r : EStateM.Result Stop State (Except SystemFault Unit)) : ToolEnd :=
  let finished (s : State) : ToolEnd :=
    let time := max s.world.elapsed (max (s.world.heldUntil 0) (s.world.heldUntil 1))
    if limit = 0 || limit.toNat * 1000 ≤ time then .expired
    else
      let printed (n : Nat) : List UInt8 := Octets.toBytes (s.world.pipes[n]!).content
      match s.process.killed with
      | some signal => .killed signal (printed 1)
      | none => .exited s.process.status (printed 0) (printed 1)
  match r with
  | .error .endless _ => .expired
  | .error _ s => finished s
  | .ok (.error f) _ => .notStarted (startMessage f)
  | .ok (.ok _) s => finished s

/-- Runs a command with empty input. -/
def run (m : Machine) : ToolRunner := fun i limit =>
  if (i.command :: i.args).any (·.contains '\x00') then .notStarted zeroByteMessage
  else
    match m.path (Octets.ofText i.command) with
    | .error f => .notStarted (startMessage f)
    | .ok path =>
      let name := Octets.ofText i.command
      let started := Launch.start means 40 path name (i.args.map Octets.ofText)
      ending limit (started.run (m.initial name (1000 * limit.toNat)))

end Machine

end KeyRelay.Shell
