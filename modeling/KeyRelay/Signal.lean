/-!
Signals that end processes, by their numbers: what they are called, what is said of a process that
one has ended, and what they do to a process that has made no provision for them.
-/

namespace KeyRelay.Signal

/-- Names and descriptions of signals from the first on. -/
def table : List (String × String) :=
  [("HUP", "Hangup"), ("INT", "Interrupt"), ("QUIT", "Quit"), ("ILL", "Illegal instruction"),
    ("TRAP", "Trace/breakpoint trap"), ("ABRT", "Aborted"), ("BUS", "Bus error"),
    ("FPE", "Floating point exception"), ("KILL", "Killed"), ("USR1", "User defined signal 1"),
    ("SEGV", "Segmentation fault"), ("USR2", "User defined signal 2"), ("PIPE", "Broken pipe"),
    ("ALRM", "Alarm clock"), ("TERM", "Terminated"), ("STKFLT", "Stack fault"),
    ("CHLD", "Child exited"), ("CONT", "Continued"), ("STOP", "Stopped (signal)"),
    ("TSTP", "Stopped"), ("TTIN", "Stopped (tty input)"), ("TTOU", "Stopped (tty output)"),
    ("URG", "Urgent I/O condition"), ("XCPU", "CPU time limit exceeded"),
    ("XFSZ", "File size limit exceeded"), ("VTALRM", "Virtual timer expired"),
    ("PROF", "Profiling timer expired"), ("WINCH", "Window changed"), ("POLL", "I/O possible"),
    ("PWR", "Power failure"), ("SYS", "Bad system call")]

/-- The greatest number of a signal. -/
def last : Nat := 64

def name? (n : Nat) : Option String :=
  if n = 0 then none else (table[n - 1]?).map (·.1)

/-- What a signal is called where zero is the end of a process. -/
def label (n : Nat) : String :=
  if n = 0 then "EXIT" else (name? n).getD (toString n)

/-- The number of a signal by its name in capitals. -/
def ofName? (name : String) : Option Nat :=
  let i := table.findIdx fun e => e.1 = name
  if i < table.length then some (i + 1) else none

def description (n : Nat) : String :=
  match if n = 0 then none else table[n - 1]? with
  | some (_, text) => text
  | none =>
    if 34 ≤ n && n ≤ last then "Real-time signal " ++ toString (n - 34)
      else "Unknown signal " ++ toString n

/-- How a process is described that a signal has ended. -/
def ending (n : Nat) : String :=
  "signal: " ++ toString n ++
    match name? n with
    | some "POLL" => " (SIGIO)"
    | some name => " (SIG" ++ name ++ ")"
    | none => ""

/-- What a signal does. -/
inductive Effect where
  | nothing
  | stop
  | death
  deriving DecidableEq, Repr

def effect (n : Nat) : Effect :=
  if [0, 17, 18, 23, 28].contains n then .nothing else if [19, 20, 21, 22].contains n then .stop
    else .death

end KeyRelay.Signal
