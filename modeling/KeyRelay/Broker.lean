import KeyRelay.Failure
import KeyRelay.Log
import KeyRelay.MessageId
import KeyRelay.Secret
import KeyRelay.Settings

/-!
What a delivery asks of a broker: to connect, to declare one exchange, to publish one message and to
close. A `Broker` answers these calls in whatever way its state says.
-/

namespace KeyRelay

/-- How an exchange routes. -/
inductive ExchangeKind where
  /-- A copy to every bound queue, whatever the routing key. -/
  | fanout
  deriving DecidableEq, Repr

def ExchangeKind.debug : ExchangeKind → String
  | .fanout => "Fanout"

/-- The parameters an exchange is declared with. -/
structure ExchangeSpec where
  name : String
  kind : ExchangeKind
  /-- Survives a restart of the broker. -/
  durable : Bool
  deriving DecidableEq, Repr

namespace ExchangeSpec

def durableFanout (name : String) : ExchangeSpec :=
  ⟨name, .fanout, true⟩

def debug (s : ExchangeSpec) : String :=
  Quoted.record "ExchangeSpec" [
    ("name", Quoted.quote s.name),
    ("kind", s.kind.debug),
    ("durable", if s.durable then "true" else "false")]

end ExchangeSpec

/-- A message ready to be published. -/
structure Message where
  exchange : String
  routingKey : String
  body : List UInt8
  /-- Survives a restart of the broker. -/
  persistent : Bool
  contentType : String
  id : MessageId
  deriving DecidableEq, Repr

/-- A persistent JSON message without routing key. -/
def Message.persistentJson (exchange : String) (body : List UInt8) (id : MessageId) : Message :=
  ⟨exchange, "", body, true, "application/json", id⟩

/-- A call of a broker. -/
inductive Call where
  | connect (who : Credentials) (mode : PublishMode)
  | declare (spec : ExchangeSpec)
  | publish (message : Message)
  | close
  deriving DecidableEq

/-- What a call gives where it succeeds: of a publish, whether the broker acknowledged it. -/
abbrev Call.Answer : Call → Type
  | .publish _ => Bool
  | _ => Unit

/-- An answer, the lines written to the log meanwhile, and the state afterwards. -/
structure Answered (α σ : Type) where
  result : Except Failure α
  lines : List LogLine
  state : σ

/-- Answers calls from a state. -/
structure Broker (σ : Type) where
  answer : (c : Call) → σ → Answered c.Answer σ

/-- Resolves key paths to secrets, from a state. -/
structure SecretSource (σ : Type) where
  lookup : (key : String) → σ → Answered String σ

end KeyRelay
