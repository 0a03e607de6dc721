import KeyRelay.Proofs.Amqp.Session

/-!
What a delivery over a link comes to, whatever the server does. It is the first setback that counts:
`setback?` finds it by making the requests of the session one after another, and what comes after
it, the closing above all, changes nothing. What is told of it is settled by it alone, and by the
limit of its step where no reply comes (`forward_tells`).
-/

namespace KeyRelay.Amqp

open Delivery (forward prepare announcement report)

variable {σ : Type}

/-- What a session with these requests first fails of, if it does. -/
def Server.setback? (server : Server σ) (s₀ : σ) (mode : PublishMode) (requests : List Method) :
    Option Setback :=
  match server.unreachable s₀ with
  | some text => some (.unreachable text)
  | none => ((Client.reached s₀).walk server mode requests).1.map fun (m, snag) => .halted m snag

/-- In a walk that goes all the way, whatever is awaited has been accepted. -/
theorem accepted_of_walk {server : Server σ} {mode : PublishMode} {requests : List Method}
    {m : Method} {l l' : Link σ} (walk : l.walk server mode requests = (none, l'))
    (asked : m ∈ requests) (awaited : m.isAwaited mode = true) (fresh : l.sent = [])
    (closing : List Method) :
    ∃ loss?, ⟨m, .accept loss?⟩ ∈ server.transcript l.server (l'.tell server closing).sent := by
  obtain ⟨ys, farewell, -⟩ := l'.tell_spoke server closing
  obtain ⟨xs, spoke, ended⟩ := Link.walk_ended walk
  rw [(spoke.trans farewell).transcript fresh]
  cases ended with
  | through whole enough =>
    rw [← whole] at asked
    obtain ⟨x, h, rfl⟩ := List.mem_map.1 asked
    have accepted : x.isAccepted = true := by simpa [Exchange.isEnough, awaited] using enough x h
    obtain ⟨m, loss? | _ | _ | _⟩ := x
    · exact ⟨loss?, List.mem_append_left _ h⟩
    all_goals cases accepted

/-- What a delivery over a link comes to, in its own words. -/
theorem forward_tells {ς : Type} (source : SecretSource ς) (server : Server σ) (s : Settings)
    (input : List UInt8) (id : MessageId) (secrets : ς) (s₀ : σ) (now : Nat) :
    let c := Client.of s now
    let r := (forward s input id).run source (c.broker server) secrets { server := s₀ }
    r.result =
      match prepare source s input secrets with
      | .error f => .error f
      | .ok (change, who) =>
        match server.setback? s₀ s.publishMode
            (c.requests who s.publishMode (announcement s change id)) with
        | some setback => .error (c.told s.broker.exchange setback)
        | none => .ok (report s change id s.publishMode.waitsForConfirm) := by
  intro c r
  rcases forward_session source server s input id secrets s₀ now with
    ⟨f, prepared, result, -⟩ | ⟨change, who, outcome, prepared, session, result⟩
  · rw [show r.result = _ from result, prepared]
  rw [show r.result = _ from result, prepared]
  dsimp only
  change c.Session server who s.publishMode (announcement s change id) s₀ outcome
    r.broker.sent at session
  generalize r.broker.sent = sent at session
  cases session with
  | unreachable down told =>
    rw [Server.setback?, down, told]
    rfl
  | halted up walk reports told =>
    rw [Server.setback?, up]
    dsimp only
    rw [show (Client.reached s₀).walk server s.publishMode (c.requests who s.publishMode _) = _ from
      walk, told]
    rfl
  | delivered up walk =>
    rw [Server.setback?, up]
    dsimp only
    rw [show (Client.reached s₀).walk server s.publishMode (c.requests who s.publishMode _) = _ from
      walk]
    rfl

/-- With every server, a delivery ends in its first setback. Where there is none, it succeeds, and
the report says that the message is confirmed exactly if that was to be waited for; the server has
then accepted the publish. -/
theorem forward_reports_first_setback {ς : Type} (source : SecretSource ς) (server : Server σ)
    (s : Settings) (input : List UInt8) (id : MessageId) (secrets : ς) (s₀ : σ) (now : Nat) :
    let c := Client.of s now
    let r := (forward s input id).run source (c.broker server) secrets { server := s₀ }
    match prepare source s input secrets with
    | .error f => r.result = .error f ∧ r.broker.sent = []
    | .ok (change, who) =>
      match server.setback? s₀ s.publishMode
          (c.requests who s.publishMode (announcement s change id)) with
      | some setback => ∃ f, Reports s.broker.exchange setback f ∧ r.result = .error f
      | none =>
        r.result = .ok (report s change id s.publishMode.waitsForConfirm) ∧
        (s.publishMode = .confirmed → ∃ loss?,
          ⟨.publish (.of (announcement s change id) now), .accept loss?⟩ ∈
            server.transcript s₀ r.broker.sent) := by
  intro c r
  rcases forward_session source server s input id secrets s₀ now with
    ⟨f, prepared, result, sent⟩ | ⟨change, who, outcome, prepared, session, result⟩
  · rw [prepared]
    exact ⟨result, sent⟩
  rw [prepared, show r.result = _ from result]
  dsimp only
  change c.Session server who s.publishMode (announcement s change id) s₀ outcome
    r.broker.sent at session
  generalize r.broker.sent = sent at session
  cases session with
  | unreachable down =>
    rw [Server.setback?, down]
    exact ⟨_, .unreachable, rfl⟩
  | halted up walk reports =>
    rw [Server.setback?, up]
    dsimp only
    rw [walk]
    exact ⟨_, reports, rfl⟩
  | delivered up walk =>
    rw [Server.setback?, up]
    dsimp only
    rw [walk]
    refine ⟨rfl, fun mode => ?_⟩
    rw [mode] at walk
    exact accepted_of_walk walk (by simp [Client.requests, script, Client.of, c]) rfl rfl _

end KeyRelay.Amqp
