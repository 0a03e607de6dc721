import KeyRelay.Broker

/-!
What an AMQP client sends, at the level of methods, with the address it connects to and the
properties of a message.
-/

namespace KeyRelay.Amqp

/-- The address of a broker with the login. Nothing in it is escaped. -/
structure Address where
  scheme : String
  host : String
  port : UInt16
  username : String
  password : String
  vhost : String
  deriving DecidableEq

def Address.of (s : BrokerSettings) (who : Credentials) : Address :=
  ⟨"AMQP", s.host, s.port, who.username, who.password, s.vhost⟩

/-- Delivery mode of a persistent message. -/
def persistentMode : Nat := 2

/-- Properties of a published message. -/
structure Properties where
  contentType : String
  messageId : String
  /-- Seconds since 1970. -/
  timestamp : Nat
  deliveryMode : Option Nat
  deriving DecidableEq, Repr

def Properties.of (m : Message) (timestamp : Nat) : Properties :=
  ⟨m.contentType, m.id.text, timestamp, if m.persistent then some persistentMode else none⟩

/-- The parameters of a declaration. -/
structure Declaration where
  exchange : String
  kind : ExchangeKind
  passive : Bool
  durable : Bool
  autoDelete : Bool
  internal : Bool
  nowait : Bool
  deriving DecidableEq, Repr

def Declaration.of (s : ExchangeSpec) : Declaration :=
  ⟨s.name, s.kind, false, s.durable, false, false, false⟩

/-- What is published where. -/
structure Publication where
  exchange : String
  routingKey : String
  mandatory : Bool
  immediate : Bool
  body : List UInt8
  properties : Properties
  deriving DecidableEq, Repr

def Publication.of (m : Message) (timestamp : Nat) : Publication :=
  ⟨m.exchange, m.routingKey, false, false, m.body, .of m timestamp⟩

inductive Method where
  /-- The protocol header. -/
  | header
  /-- The login, as the response of the mechanism PLAIN. -/
  | startOk (mechanism response locale : String)
  | openConnection (vhost : String)
  | openChannel
  | confirmSelect (nowait : Bool)
  | declare (d : Declaration)
  | publish (p : Publication)
  | closeChannel (code : Nat) (text : String)
  | closeConnection (code : Nat) (text : String)
  deriving DecidableEq

namespace Method

/-- The login with a name and a password, each after a zero. -/
def login (who : Credentials) : Method :=
  .startOk "PLAIN" ("\x00" ++ who.username ++ "\x00" ++ who.password) "en_US"

/-- Sent on the channel, once that is open. -/
def needsChannel : Method → Bool
  | .confirmSelect _ | .declare _ | .publish _ | .closeChannel .. => true
  | _ => false

/-- Ends the channel or the connection. -/
def isClosing : Method → Bool
  | .closeChannel .. | .closeConnection .. => true
  | _ => false

end Method

/-- The code of an orderly close. -/
def replySuccess : Nat := 200

end KeyRelay.Amqp
