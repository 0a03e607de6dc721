import KeyRelay.Amqp.Link

/-!
The AMQP client: a session that connects, declares, publishes and closes, each step under its own
limit. A channel that cannot be set up costs the connection, which is closed before the failure is
reported.
-/

namespace KeyRelay.Amqp

/-- What a client knows: its settings, the limit for confirmations in seconds, and the time. -/
structure Client where
  settings : BrokerSettings
  confirmTimeout : UInt64
  /-- Seconds since 1970. -/
  now : Nat

namespace Client

/-- The limit of each step. -/
def limit (c : Client) : Step → Limit
  | .connect | .channelSetup | .closeAfterSetup => .ofSeconds c.settings.connectTimeout
  | .confirmation => .ofSeconds c.confirmTimeout
  | _ => .ofSeconds c.settings.operationTimeout

/-- The port is written without padding, and the virtual host follows it as it is. -/
def connectingLine (c : Client) (who : Credentials) : LogLine :=
  ⟨.debug, "Connecting to amqp://" ++ c.settings.host ++ ":" ++ toString c.settings.port.toNat ++
    c.settings.vhost ++ " as " ++ who.username⟩

variable {σ : Type}

/-- Connects and logs in. -/
def handshake (c : Client) (server : Server σ) (who : Credentials) (l : Link σ) :
    Wait (Except Failure Unit) × Link σ :=
  let fault (f : LinkFault) := Failure.connection f.message
  match server.unreachable l.server with
  | some text => (.later (.error (fault (.io text))), l)
  | none =>
    { l with isConnected := true }.askAll server
      [(.header, fault), (.login who, fault), (.openConnection c.settings.vhost, fault)]

/-- Opens the channel and, where publishes are to be confirmed, enables confirmations. -/
def setUpChannel (server : Server σ) (mode : PublishMode) (l : Link σ) :
    Wait (Except Failure Unit) × Link σ :=
  let openFault (f : LinkFault) := Failure.connection ("cannot open channel: " ++ f.message)
  let confirmFault (f : LinkFault) := Failure.channel ("cannot enable confirms: " ++ f.message)
  l.askAll server <|
    (.openChannel, openFault) :: if mode.waitsForConfirm then [(.confirmSelect false, confirmFault)]
      else []

def connect (c : Client) (server : Server σ) (who : Credentials) (mode : PublishMode) (l : Link σ) :
    Answered Unit (Link σ) :=
  let (w, l) := c.handshake server who l
  match l.await c.limit .connect w with
  | (.error f, l) => ⟨.error f, [c.connectingLine who], l.abandon⟩
  | (.ok (), l) =>
    let (w, l) := setUpChannel server mode l
    match l.await c.limit .channelSetup w with
    | (.ok (), l) => ⟨.ok (), [c.connectingLine who], { l with confirms := mode.waitsForConfirm }⟩
    | (.error f, l) =>
      let (w, l) := l.ask server (.closeConnection replySuccess "channel setup failed") fun f =>
        .channel f.message
      let (closed, l) := l.await c.limit .closeAfterSetup w
      let closing : List LogLine := match closed with
        | .ok () => []
        | .error e => [⟨.debug, "Closing after failed channel setup: " ++ e.message⟩]
      ⟨.error f, c.connectingLine who :: closing, l.abandon⟩

def declare (c : Client) (server : Server σ) (spec : ExchangeSpec) (l : Link σ) :
    Answered Unit (Link σ) :=
  let (w, l) := l.ask server (.declare (.of spec)) (LinkFault.ofDeclare spec.name)
  let (r, l) := l.await c.limit .declare w
  ⟨r, [], l⟩

/-- Sending takes no time; where publishes are confirmed, the server's verdict is then waited
for. -/
def publish (c : Client) (server : Server σ) (m : Message) (l : Link σ) : Answered Bool (Link σ) :=
  let (w, l) := l.request server (.publish (.of m c.now))
  match w with
  | .now (.failed f) =>
    let (r, l) := l.await c.limit .publish (.now (.error (.channel f.message)))
    ⟨r, [], l⟩
  | w =>
    match l.await c.limit .publish (.now (.ok ())) with
    | (.error f, l) => ⟨.error f, [], l⟩
    | (.ok (), l) =>
      if !l.confirms then ⟨.ok false, [], l⟩
      else
        let verdict : Wait (Except Failure Bool) := w.map fun
          | .ok => .ok true
          | .nack => .error (.publishNotConfirmed "broker nacked the message")
          | .failed f => .error (.publishNotConfirmed f.message)
        let (r, l) := l.await c.limit .confirmation verdict
        ⟨r, [], l⟩

/-- Closes the channel, then the connection; only the latter counts. -/
def close (c : Client) (server : Server σ) (l : Link σ) : Answered Unit (Link σ) :=
  let (w, l) := l.ask server (.closeChannel replySuccess "OK") fun f => .channel f.message
  let (channelClosed, l) := l.await c.limit .channelClose w
  let lines : List LogLine := match channelClosed with
    | .ok () => []
    | .error e => [⟨.warn, "Channel close failed: " ++ e.message⟩]
  let (w, l) := l.ask server (.closeConnection replySuccess "OK") fun f =>
    .channel ("close failed: " ++ f.message)
  let (r, l) := l.await c.limit .connectionClose w
  ⟨r, lines, l.abandon⟩

/-- Answers the calls of one delivery over a link. -/
def broker (c : Client) (server : Server σ) : Broker (Link σ) where
  answer
    | .connect who mode, l => c.connect server who mode l
    | .declare spec, l => c.declare server spec l
    | .publish m, l => c.publish server m l
    | .close, l => c.close server l

end Client

end KeyRelay.Amqp
