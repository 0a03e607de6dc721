import KeyRelay.Amqp.Fault
import KeyRelay.Amqp.Method
import KeyRelay.Amqp.Bound

/-!
A client's link to a server. A server is any machine that reacts to each method it receives; the
link keeps what was sent, which limits were armed, and whether connection and channel are still
usable. Nothing is sent on a connection that is gone, nor on a channel that is closed.
-/

namespace KeyRelay.Amqp

/-- What takes a channel or a connection away. -/
inductive Loss where
  /-- The server closes the channel. -/
  | channel (code : Nat) (text : String)
  /-- The server closes the connection. -/
  | connection (code : Nat) (text : String)
  /-- The connection breaks. -/
  | dropped
  deriving DecidableEq, Repr

/-- What a request fails of that a loss answers. -/
def Loss.fault : Loss → LinkFault
  | .channel code text =>
    match Code.ofNat? code with
    | some c => .protocol c text
    | none => .channelClosed
  | .connection code text =>
    match Code.ofNat? code with
    | some c => .protocol c text
    | none => .connectionClosed
  | .dropped => .io "connection aborted"

/-- How a server reacts to a method. -/
inductive Reaction where
  /-- The positive reply, and perhaps a loss right after it. -/
  | accept (loss? : Option Loss)
  /-- A publish is not accepted. -/
  | nack
  | refuse (loss : Loss)
  | silent
  deriving DecidableEq, Repr

structure Server (σ : Type) where
  /-- Why no connection comes about, in the words of the system. -/
  unreachable : σ → Option String
  react : Method → σ → Reaction × σ

/-- The steps of a session that have a limit. -/
inductive Step where
  | connect
  | channelSetup
  | closeAfterSetup
  | declare
  | publish
  | confirmation
  | channelClose
  | connectionClose
  deriving DecidableEq, Repr

def Step.name : Step → String
  | .connect => "connect"
  | .channelSetup => "channel setup"
  | .closeAfterSetup => "close"
  | .declare => "exchange declare"
  | .publish => "publish"
  | .confirmation => "confirmation"
  | .channelClose => "channel close"
  | .connectionClose => "connection close"

/-- The failure that an expired step is reported as. -/
def Step.expired : Step → String → Failure
  | .connect | .channelSetup => .connection
  | .confirmation => .publishNotConfirmed
  | _ => .channel

structure Link (σ : Type) where
  server : σ
  /-- Every method sent, in order. -/
  sent : List Method := []
  /-- Every limit armed, in order. -/
  armed : List (Step × Limit) := []
  isConnected : Bool := false
  hasChannel : Bool := false
  /-- Publishes are confirmed. -/
  confirms : Bool := false

/-- What comes of a request. -/
inductive Reply where
  | ok
  | nack
  | failed (f : LinkFault)
  deriving DecidableEq, Repr

namespace Link

variable {σ : Type}

def lose (l : Link σ) : Loss → Link σ
  | .channel .. => { l with hasChannel := false }
  | _ => { l with isConnected := false, hasChannel := false }

/-- The connection is given up. -/
def abandon (l : Link σ) : Link σ :=
  { l with isConnected := false, hasChannel := false }

/-- What the positive reply to a method gives the link. -/
def granted (m : Method) (l : Link σ) : Link σ :=
  match m with
  | .openChannel => { l with hasChannel := true }
  | _ => l

/-- Sends a method where that is possible and waits for what comes of it. -/
def request (server : Server σ) (m : Method) (l : Link σ) : Wait Reply × Link σ :=
  if m.needsChannel && !l.hasChannel then (.now (.failed .channelClosed), l)
  else if !l.isConnected then (.now (.failed .connectionClosed), l)
  else
    let (reaction, s) := server.react m l.server
    let l := { l with server := s, sent := l.sent ++ [m] }
    match reaction with
    | .accept none => (.later .ok, l.granted m)
    | .accept (some loss) => (.later .ok, (l.granted m).lose loss)
    | .nack => (match m with | .publish _ => .later .nack | _ => .never, l)
    | .refuse loss => (.later (.failed loss.fault), l.lose loss)
    | .silent => (.never, l)

/-- A request whose failure is reported through `fault`. -/
def ask (server : Server σ) (m : Method) (fault : LinkFault → Failure) (l : Link σ) :
    Wait (Except Failure Unit) × Link σ :=
  let (w, l) := l.request server m
  (w.map fun
    | .failed f => .error (fault f)
    | _ => .ok (), l)

/-- Requests one after another, each once the one before is accepted. -/
def askAll (server : Server σ) : List (Method × (LinkFault → Failure)) → Link σ →
    Wait (Except Failure Unit) × Link σ
  | [], l => (.now (.ok ()), l)
  | (m, fault) :: more, l =>
    match l.ask server m fault with
    | (.now (.ok ()), l) => askAll server more l
    | (.later (.ok ()), l) =>
      let (w, l) := askAll server more l
      (match w with | .now r => .later r | w => w, l)
    | (w, l) => (w, l)

/-- Arms the limit of a step and waits for its result. -/
def await {α : Type} (limit : Step → Limit) (step : Step) (w : Wait (Except Failure α))
    (l : Link σ) :
    Except Failure α × Link σ :=
  (bounded (limit step) step.name step.expired w,
    { l with armed := l.armed ++ [(step, limit step)] })

end Link

end KeyRelay.Amqp
