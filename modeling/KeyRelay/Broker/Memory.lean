import KeyRelay.Broker

/-!
A broker kept in memory that records what it is asked to do. Each operation says what it does to the
record; one that fails changes nothing, except that a refused connection still counts as an attempt.
-/

namespace KeyRelay

structure MemoryBroker where
  attempts : Nat := 0
  /-- The only credentials that are accepted; any are where there are none. -/
  accepted : Option Credentials := none
  /-- The exchanges, each under its name; the first entry of a name counts. -/
  exchanges : List (String × ExchangeSpec) := []
  /-- How many declarations succeeded. -/
  declarations : Nat := 0
  /-- The messages accepted for routing, in order. -/
  published : List Message := []
  /-- Every publish is refused; only sessions that wait for confirmations notice. -/
  nacking : Bool := false
  openSessions : Nat := 0
  closedSessions : Nat := 0
  deriving DecidableEq

/-- An open session. -/
structure MemorySession where
  /-- Publishes are confirmed. -/
  confirms : Bool
  deriving DecidableEq, Repr

namespace MemoryBroker

def exchange? (b : MemoryBroker) (name : String) : Option ExchangeSpec :=
  (b.exchanges.find? fun e => e.1 = name).map (·.2)

/-- Sets the exchange of the spec's name, in place of the one there is. -/
def setExchange (b : MemoryBroker) (spec : ExchangeSpec) : MemoryBroker :=
  { b with exchanges := (spec.name, spec) :: b.exchanges.filter fun e => e.1 ≠ spec.name }

def accepts (b : MemoryBroker) (who : Credentials) : Bool :=
  match b.accepted with
  | some c => c = who
  | none => true

def connect (b : MemoryBroker) (who : Credentials) (mode : PublishMode) :
    Except Failure MemorySession × MemoryBroker :=
  if b.accepts who then
    (.ok ⟨mode.waitsForConfirm⟩,
      { b with attempts := b.attempts + 1, openSessions := b.openSessions + 1 })
  else
    (.error (.connection ("ACCESS_REFUSED - login was refused for user " ++ who.username)),
      { b with attempts := b.attempts + 1 })

/-- Declaring again with the same parameters is accepted. -/
def declare (b : MemoryBroker) (spec : ExchangeSpec) : Except Failure Unit × MemoryBroker :=
  match b.exchange? spec.name with
  | some existing =>
    if existing = spec then (.ok (), { b.setExchange spec with declarations := b.declarations + 1 })
    else (.error (.exchangeConflict spec.name ("declared as " ++ existing.debug)), b)
  | none => (.ok (), { b.setExchange spec with declarations := b.declarations + 1 })

def publish (b : MemoryBroker) (s : MemorySession) (m : Message) :
    Except Failure Bool × MemoryBroker :=
  if (b.exchange? m.exchange).isNone then
    (.error (.channel ("NOT_FOUND - no exchange '" ++ m.exchange ++ "'")), b)
  else if b.nacking then
    (if s.confirms then .error (.publishNotConfirmed "broker nacked the message") else .ok false, b)
  else (.ok s.confirms, { b with published := b.published ++ [m] })

def close (b : MemoryBroker) : MemoryBroker :=
  { b with openSessions := b.openSessions - 1, closedSessions := b.closedSessions + 1 }

/-- The reason given where a session is needed and there is none. -/
def noSession : Failure := .channel "no session"

/-- Answers the calls of one delivery, whose session is part of the state. -/
def broker : Broker (MemoryBroker × Option MemorySession) where
  answer
    | .connect who mode, (b, s) =>
      match b.connect who mode with
      | (.ok opened, b) => ⟨.ok (), [], (b, some opened)⟩
      | (.error f, b) => ⟨.error f, [], (b, s)⟩
    | .declare spec, (b, s) =>
      match s with
      | none => ⟨.error noSession, [], (b, s)⟩
      | some _ => let (r, b) := b.declare spec; ⟨r, [], (b, s)⟩
    | .publish m, (b, s) =>
      match s with
      | none => ⟨.error noSession, [], (b, s)⟩
      | some session => let (r, b) := b.publish session m; ⟨r, [], (b, s)⟩
    | .close, (b, s) =>
      match s with
      | none => ⟨.error noSession, [], (b, s)⟩
      | some _ => ⟨.ok (), [], (b.close, none)⟩

end MemoryBroker

end KeyRelay
