import KeyRelay.Proofs.Amqp.Session
import KeyRelay.Proofs.Delivery.Protocol

/-!
The steps that a client begins over a link. A step begins where its limit is armed, and that is done
by waiting and by nothing else, so what each call arms tells the steps it begins (`armed_connect`
and so on). Connecting begins with an attempt at a connection, and no other call makes one
(`approached_answer`). So a program has attempted a connection exactly where it called for one
(`approached_run`), whether or not a server was reached.
-/

namespace KeyRelay.Amqp

variable {σ : Type}

namespace Link

/-- The steps begun over the link, in order. -/
def steps (l : Link σ) : List Step :=
  l.armed.map (·.1)

/-- A connection was attempted. -/
def Approached (l : Link σ) : Prop :=
  Step.connect ∈ l.steps

theorem not_approached (s₀ : σ) : ¬({ server := s₀ } : Link σ).Approached :=
  List.not_mem_nil

theorem armed_await {α : Type} (limit : Step → Limit) (step : Step) (w : Wait (Except Failure α))
    (l : Link σ) :
    (l.await limit step w).2.armed = l.armed ++ [(step, limit step)] := rfl

theorem armed_of_await {α : Type} {limit : Step → Limit} {step : Step} {w : Wait (Except Failure α)}
    {l l' : Link σ} {r : Except Failure α} (ended : l.await limit step w = (r, l')) :
    l'.armed = l.armed ++ [(step, limit step)] := by
  rw [← armed_await limit step w l, ended]

theorem armed_request (server : Server σ) (m : Method) (l : Link σ) :
    (l.request server m).2.armed = l.armed :=
  (request_keeps server m l).2

theorem armed_ask (server : Server σ) (m : Method) (report : LinkFault → Failure) (l : Link σ) :
    (l.ask server m report).2.armed = l.armed :=
  armed_request server m l

theorem armed_askAll (server : Server σ) (asks : List (Method × (LinkFault → Failure)))
    (l : Link σ) :
    (l.askAll server asks).2.armed = l.armed := by
  induction asks generalizing l with
  | nil => rfl
  | cons ask asks ih =>
    have here := armed_ask server ask.1 ask.2 l
    rw [askAll]
    split
    · next l' asked => rw [ih, ← here, asked]
    · next l' asked =>
      calc (askAll server asks l').2.armed
        _ = l'.armed := ih l'
        _ = l.armed := by rw [← here, asked]
    · next w l' _ _ asked => rw [← here, asked]

end Link

namespace Client

variable (c : Client) (server : Server σ)

/-- What is armed where these steps begin: the client's own limit of each. -/
def arms (steps : List Step) : List (Step × Limit) :=
  steps.map fun step => (step, c.limit step)

theorem arms_append (steps more : List Step) :
    c.arms (steps ++ more) = c.arms steps ++ c.arms more :=
  List.map_append

theorem armed_handshake (who : Credentials) (l : Link σ) :
    (c.handshake server who l).2.armed = l.armed := by
  rw [handshake]
  split
  · rfl
  · exact Link.armed_askAll ..

theorem armed_setUpChannel (mode : PublishMode) (l : Link σ) :
    (setUpChannel server mode l).2.armed = l.armed :=
  Link.armed_askAll ..

/-- Connecting begins with an attempt, whatever comes of it. Where the channel cannot be set up, the
connection is closed in a step of its own. -/
theorem armed_connect (who : Credentials) (mode : PublishMode) (l : Link σ) :
    let a := c.connect server who mode l
    ∃ more, a.state.armed = l.armed ++ c.arms (.connect :: more) ∧
      match a.result with
      | .ok () => more = [.channelSetup]
      | .error _ => more = [] ∨ more = [.channelSetup, .closeAfterSetup] := by
  dsimp only
  rw [connect]
  dsimp only
  split
  · next f l₁ tried =>
    have connected := Link.armed_of_await tried
    rw [armed_handshake] at connected
    exact ⟨[], connected, .inl rfl⟩
  · next l₁ tried =>
    have connected : l₁.armed = l.armed ++ c.arms [.connect] := by
      rw [Link.armed_of_await tried, armed_handshake]
      rfl
    split
    · next l₂ set =>
      refine ⟨[.channelSetup], ?_, rfl⟩
      calc l₂.armed
        _ = l₁.armed ++ c.arms [.channelSetup] := by
          rw [Link.armed_of_await set, armed_setUpChannel]
          rfl
        _ = l.armed ++ c.arms [.connect, .channelSetup] := by rw [connected, List.append_assoc]; rfl
    · next f l₂ set =>
      refine ⟨[.channelSetup, .closeAfterSetup], ?_, .inr rfl⟩
      let asked := l₂.ask server (.closeConnection replySuccess "channel setup failed") fun f =>
        .channel f.message
      calc (asked.2.await c.limit .closeAfterSetup asked.1).2.armed
        _ = asked.2.armed ++ c.arms [.closeAfterSetup] := Link.armed_await ..
        _ = l₁.armed ++ c.arms [.channelSetup] ++ c.arms [.closeAfterSetup] := by
          rw [Link.armed_ask, Link.armed_of_await set, armed_setUpChannel]
          rfl
        _ = l.armed ++ c.arms [.connect, .channelSetup, .closeAfterSetup] := by
          simp [connected, arms]

theorem armed_declare (spec : ExchangeSpec) (l : Link σ) :
    (c.declare server spec l).state.armed = l.armed ++ c.arms [.declare] := by
  let asked := l.ask server (.declare (.of spec)) (LinkFault.ofDeclare spec.name)
  calc (c.declare server spec l).state.armed
    _ = (asked.2.await c.limit .declare asked.1).2.armed := rfl
    _ = asked.2.armed ++ c.arms [.declare] := Link.armed_await ..
    _ = l.armed ++ c.arms [.declare] := by rw [Link.armed_ask]

/-- A confirmation is waited for only where publishes are confirmed. -/
theorem armed_publish (m : Message) (l : Link σ) :
    ∃ more, (c.publish server m l).state.armed = l.armed ++ c.arms (.publish :: more) ∧
      (more = [] ∨ l.confirms = true ∧ more = [.confirmation]) := by
  have asked := Link.request_keeps server (.publish (.of m c.now)) l
  rw [publish]
  dsimp only
  generalize l.request server (.publish (.of m c.now)) = requested at asked ⊢
  obtain ⟨w, l₁⟩ := requested
  obtain ⟨confirms, armed⟩ : l₁.confirms = l.confirms ∧ l₁.armed = l.armed := asked
  have sent {α : Type} (w : Wait (Except Failure α)) :
      (l₁.await c.limit .publish w).2.armed = l.armed ++ c.arms [.publish] := by
    rw [Link.armed_await, armed]
    rfl
  split
  · next f _ =>
      exact ⟨[], sent (.now (.error (.channel f.message)) : Wait (Except Failure Bool)), .inl rfl⟩
  · split
    · next f l₂ ended => exact ⟨[], by rw [← sent (.now (.ok ())), ended], .inl rfl⟩
    · next l₂ ended =>
      have begun : l₂.armed = l.armed ++ c.arms [.publish] := by rw [← sent (.now (.ok ())), ended]
      have same : l₂.confirms = l.confirms := (congrArg (·.2.confirms) ended.symm).trans confirms
      split
      · exact ⟨[], begun, .inl rfl⟩
      · next waits =>
        refine ⟨[.confirmation], ?_, .inr ⟨by simpa [same] using waits, rfl⟩⟩
        dsimp only
        rw [Link.armed_await, begun, List.append_assoc]
        rfl

theorem armed_close (l : Link σ) :
    (c.close server l).state.armed = l.armed ++ c.arms [.channelClose, .connectionClose] := by
  let asked := l.ask server (.closeChannel replySuccess "OK") fun f => .channel f.message
  let l₁ := (asked.2.await c.limit .channelClose asked.1).2
  let asked' := l₁.ask server (.closeConnection replySuccess "OK") fun f =>
    .channel ("close failed: " ++ f.message)
  have begun : l₁.armed = l.armed ++ c.arms [.channelClose] := by
    rw [Link.armed_await, Link.armed_ask]
    rfl
  calc (c.close server l).state.armed
    _ = (asked'.2.await c.limit .connectionClose asked'.1).2.armed := rfl
    _ = asked'.2.armed ++ c.arms [.connectionClose] := Link.armed_await ..
    _ = l.armed ++ c.arms [.channelClose, .connectionClose] := by
      rw [Link.armed_ask, begun, List.append_assoc]
      rfl

/-- Of the calls, only the one to connect attempts a connection. -/
theorem approached_answer (call : Call) (l : Link σ) :
    ((c.broker server).answer call l).state.Approached ↔ l.Approached ∨ call.kind = .connect := by
  have one {l' : Link σ} {steps : List Step} (h : l'.armed = l.armed ++ c.arms steps) :
      l'.Approached ↔ l.Approached ∨ .connect ∈ steps := by
    rw [Link.Approached, Link.steps, h]
    simp [arms, Link.Approached, Link.steps]
  cases call with
  | connect who mode =>
    obtain ⟨more, armed, -⟩ := c.armed_connect server who mode l
    exact (one armed).trans (by simp)
  | declare spec => exact (one (c.armed_declare server spec l)).trans (by simp)
  | publish m =>
    obtain ⟨more, armed, none | ⟨-, awaited⟩⟩ := c.armed_publish server m l
    · exact (one armed).trans (by simp [none])
    · exact (one armed).trans (by simp [awaited])
  | close => exact (one (c.armed_close server l)).trans (by simp)

variable {ς α : Type}

/-- A program attempts a connection exactly where it calls for one. -/
theorem approached_run (source : SecretSource ς) (p : Program α) (secrets : ς) (l : Link σ) :
    let r := p.run source (c.broker server) secrets l
    r.broker.Approached ↔ l.Approached ∨ ∃ x ∈ r.turns, x.call.kind = .connect := by
  dsimp only
  induction p generalizing secrets l with
  | done a => simp [Program.run, Ran.turns]
  | say line next ih =>
    rw [Program.run_say, Ran.broker_after, ih, Ran.turns_after]
    rfl
  | ask q next ih =>
    cases q with
    | lookup key =>
      rw [Program.run_lookup, Ran.broker_after, ih, Ran.turns_eq, Ran.turns_eq, Ran.acts_asked]
      rfl
    | call asked =>
      rw [Program.run_call, Ran.broker_after, ih, approached_answer, Ran.turns_eq, Ran.turns_eq,
        Ran.acts_asked]
      simp [or_assoc]

end Client

end KeyRelay.Amqp
