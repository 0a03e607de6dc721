import KeyRelay.Broker
import KeyRelay.Signal
import KeyRelay.Text.Blank
import KeyRelay.Text.Utf8

/-!
Secrets looked up by running a tool. The tool is started with four arguments, has empty input and a
time limit, and prints the secret.
-/

namespace KeyRelay

/-- A command and its arguments. -/
structure Invocation where
  command : String
  args : List String
  deriving DecidableEq, Repr

/-- How running a tool under a time limit ends. -/
inductive ToolEnd where
  | notStarted (reason : String)
  | expired
  | exited (code : Nat) (out err : List UInt8)
  /-- A signal has ended it. -/
  | killed (signal : Nat) (err : List UInt8)
  deriving DecidableEq, Repr

/-- Runs a tool under a limit in seconds. -/
abbrev ToolRunner := Invocation → UInt64 → ToolEnd

namespace SecretSettings

/-- How the tool is asked for a key. The key is one argument, whatever characters it holds. -/
def invocation (s : SecretSettings) (key : String) : Invocation :=
  ⟨s.command, ["kv", "get", "-token-file=" ++ s.tokenFile, key]⟩

/-- The secret that the tool's end gives, or why there is none. -/
def secretOf (s : SecretSettings) (key : String) (e : ToolEnd) : Except Failure String :=
  let fail (reason : String) : Except Failure String := .error (.secretLookup key reason)
  let printed (err : List UInt8) : String := " (" ++ Blank.trim (Utf8.lossy err) ++ ")"
  match e with
  | .notStarted reason => fail ("cannot run " ++ s.command ++ ": " ++ reason)
  | .expired => fail ("timed out after " ++ toString s.timeout.toNat ++ "s")
  | .exited code out err =>
    if code ≠ 0 then fail ("exit status: " ++ toString code ++ printed err)
    else
      match Utf8.decode out with
      | .error _ => fail "output is not UTF-8"
      | .ok output =>
        let secret := Blank.trim output
        if secret = "" then fail "empty output" else .ok secret
  | .killed signal err => fail (Signal.ending signal ++ printed err)

/-- The line that announces a lookup. -/
def announcement (s : SecretSettings) (key : String) : LogLine :=
  ⟨.debug, "Looking up " ++ key ++ " via " ++ s.command⟩

/-- Looks up by running the tool; the state collects what was started and under which limit. -/
def toolSource (s : SecretSettings) (run : ToolRunner) :
    SecretSource (List (Invocation × UInt64)) where
  lookup key started :=
    let invocation := s.invocation key
    ⟨s.secretOf key (run invocation s.timeout), [s.announcement key],
      started ++ [(invocation, s.timeout)]⟩

end SecretSettings

end KeyRelay
