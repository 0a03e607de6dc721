import KeyRelay.Failure

/-!
What an AMQP link can fail of. A server closes a channel or a connection with a code; the codes of
the protocol are either soft, which costs the channel, or hard, which costs the connection.
-/

namespace KeyRelay.Amqp

inductive Severity where
  | soft
  | hard
  deriving DecidableEq, Repr

def Severity.name : Severity → String
  | .soft => "soft"
  | .hard => "hard"

/-- The codes of the protocol. -/
def codes : List (Nat × Severity × String) :=
  [ (311, .soft, "CONTENT-TOO-LARGE"), (312, .soft, "NO-ROUTE"), (313, .soft, "NO-CONSUMERS"),
    (403, .soft, "ACCESS-REFUSED"), (404, .soft, "NOT-FOUND"), (405, .soft, "RESOURCE-LOCKED"),
    (406, .soft, "PRECONDITION-FAILED"), (320, .hard, "CONNECTION-FORCED"),
    (402, .hard, "INVALID-PATH"), (501, .hard, "FRAME-ERROR"), (502, .hard, "SYNTAX-ERROR"),
    (503, .hard, "COMMAND-INVALID"), (504, .hard, "CHANNEL-ERROR"),
    (505, .hard, "UNEXPECTED-FRAME"), (506, .hard, "RESOURCE-ERROR"), (530, .hard, "NOT-ALLOWED"),
    (540, .hard, "NOT-IMPLEMENTED"), (541, .hard, "INTERNAL-ERROR") ]

/-- A code of the protocol. -/
structure Code where
  number : Nat
  severity : Severity
  name : String
  deriving DecidableEq, Repr

/-- The code of a number, if it is one. -/
def Code.ofNat? (n : Nat) : Option Code :=
  (codes.find? fun c => c.1 = n).map fun c => ⟨n, c.2.1, c.2.2⟩

/-- The number under which a server refuses other parameters of an exchange. -/
def preconditionFailed : Nat := 406

inductive LinkFault where
  /-- The server closed with a code of the protocol. -/
  | protocol (code : Code) (text : String)
  | channelsLimit
  | invalidChannel (channel : Nat)
  | missingHeartbeat
  | io (text : String)
  /-- The channel is closed. -/
  | channelClosed
  /-- The connection is closed. -/
  | connectionClosed
  deriving DecidableEq, Repr

def LinkFault.message : LinkFault → String
  | .protocol code text => "protocol error: AMQP " ++ code.severity.name ++ " error: " ++
    code.name ++ ": " ++ text
  | .channelsLimit => "the maximum number of channels for this connection has been reached"
  | .invalidChannel n => "invalid channel: " ++ toString n
  | .missingHeartbeat => "no heartbeat received from server for too long"
  | .io text => "IO error: " ++ text
  | .channelClosed => "invalid channel state: Closed"
  | .connectionClosed => "invalid connection state: Closed"

/-- The failure of a declaration: a conflict where the server refuses the parameters, else one of
the channel. -/
def LinkFault.ofDeclare (exchange : String) (f : LinkFault) : Failure :=
  match f with
  | .protocol code _ =>
    if code.severity = .soft ∧ code.number = preconditionFailed
      then .exchangeConflict exchange f.message
    else .channel f.message
  | _ => .channel f.message

end KeyRelay.Amqp
