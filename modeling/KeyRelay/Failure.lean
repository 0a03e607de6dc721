import KeyRelay.Text.Quoted

/-!
Why a delivery fails. Each kind of failure has one wording and one exit code; the first four kinds
arise before the broker is contacted. A `Trouble` is what a whole run ends with: a failure, or
something else, with what was being done when it arose.
-/

namespace KeyRelay

inductive Failure where
  | config (reason : String)
  /-- Standard input was empty, unreadable or not a watch payload. -/
  | input (reason : String)
  /-- The value was not Base64, or not text once decoded. -/
  | decode (reason : String)
  | secretLookup (key reason : String)
  /-- The broker is unreachable, refuses the login or does not answer in time. -/
  | connection (reason : String)
  | exchangeConflict (exchange reason : String)
  | publishNotConfirmed (reason : String)
  /-- Any other failure of the broker once the connection is up. -/
  | channel (reason : String)
  deriving DecidableEq, Repr

namespace Failure

def message : Failure → String
  | .config m => "invalid configuration: " ++ m
  | .input m => "invalid input: " ++ m
  | .decode m => "cannot decode value: " ++ m
  | .secretLookup key m => "secret lookup for " ++ key ++ " failed: " ++ m
  | .connection m => "broker connection failed: " ++ m
  | .exchangeConflict exchange m =>
    "exchange " ++ exchange ++ " exists with incompatible parameters: " ++ m
  | .publishNotConfirmed m => "publish was not confirmed by the broker: " ++ m
  | .channel m => "broker channel error: " ++ m

/-- The exit code of a run that ends so. -/
def exitCode : Failure → Nat
  | .config _ => 2
  | .input _ => 3
  | .decode _ => 4
  | .secretLookup .. => 5
  | .connection _ => 6
  | .exchangeConflict .. => 7
  | .publishNotConfirmed _ => 8
  | .channel _ => 9

/-- The failure arose before the broker was contacted. -/
def isPreConnect : Failure → Bool
  | .config _ | .input _ | .decode _ | .secretLookup .. => true
  | _ => false

/-- The name of the kind. -/
def kind : Failure → String
  | .config _ => "Config"
  | .input _ => "Input"
  | .decode _ => "Decode"
  | .secretLookup .. => "SecretLookup"
  | .connection _ => "Connection"
  | .exchangeConflict .. => "ExchangeConflict"
  | .publishNotConfirmed _ => "PublishNotConfirmed"
  | .channel _ => "Channel"

/-- The failure as it is shown to a developer. -/
def debug (f : Failure) : String :=
  let tuple (m : String) := f.kind ++ "(" ++ Quoted.quote m ++ ")"
  match f with
  | .config m | .input m | .decode m | .connection m | .publishNotConfirmed m | .channel m =>
    tuple m
  | .secretLookup key m =>
    Quoted.record f.kind [("key", Quoted.quote key), ("reason", Quoted.quote m)]
  | .exchangeConflict exchange m =>
    Quoted.record f.kind [("exchange", Quoted.quote exchange), ("reason", Quoted.quote m)]

end Failure

/-- What a run fails of. -/
inductive Cause where
  | failure (f : Failure)
  | other (message : String)
  deriving DecidableEq, Repr

def Cause.message : Cause → String
  | .failure f => f.message
  | .other m => m

/-- A cause and what was being done, outermost first. -/
structure Trouble where
  contexts : List String
  cause : Cause
  deriving DecidableEq, Repr

namespace Trouble

def ofFailure (f : Failure) : Trouble :=
  ⟨[], .failure f⟩

/-- Says what was being done around a trouble. -/
def within (t : Trouble) (context : String) : Trouble :=
  ⟨context :: t.contexts, t.cause⟩

/-- Everything that is known, outermost first. -/
def message (t : Trouble) : String :=
  ": ".intercalate (t.contexts ++ [t.cause.message])

/-- The outermost part only. -/
def outer (t : Trouble) : String :=
  t.contexts.headD t.cause.message

/-- The exit code where the cause is no failure of a delivery. -/
def unclassified : Nat := 1

def exitCode (t : Trouble) : Nat :=
  match t.cause with
  | .failure f => f.exitCode
  | .other _ => unclassified

/-- Whether the broker may have been reached. -/
def brokerContacted (t : Trouble) : Bool :=
  match t.cause with
  | .failure f => !f.isPreConnect
  | .other _ => false

end Trouble

end KeyRelay
