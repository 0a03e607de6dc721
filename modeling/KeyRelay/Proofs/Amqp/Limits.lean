import KeyRelay.Proofs.Amqp.Outcome
import KeyRelay.Proofs.Amqp.Steps
import KeyRelay.Proofs.Delivery.Input
import KeyRelay.Secret.Tool

/-!
The limits of a run. Every wait has the limit of its own setting, and none of those that are armed
is zero: the settings are checked before anything is waited for, and the one limit that is checked
in one mode only is armed in that mode only (`Begun`). So what comes in time is passed on, and what
never comes is told as the failure of the step.
-/

namespace KeyRelay.Amqp

open Delivery (forward prepare announcement report Preparation Transaction)

/-! ### Steps over a link -/

/-- The setting that limits a step, in seconds. -/
def Step.timeout (s : Settings) : Step → UInt64
  | .connect | .channelSetup | .closeAfterSetup => s.broker.connectTimeout
  | .declare | .publish | .channelClose | .connectionClose => s.broker.operationTimeout
  | .confirmation => s.confirmTimeout

theorem limit_of (s : Settings) (now : Nat) (step : Step) :
    (Client.of s now).limit step = .ofSeconds (step.timeout s) := by
  cases step <;> rfl

/-- The steps that a delivery begins over a link, in order. -/
inductive Begun (mode : PublishMode) : List Step → Prop where
  | none : Begun mode []
  | unconnected : Begun mode [.connect]
  | noChannel : Begun mode [.connect, .channelSetup, .closeAfterSetup]
  | undeclared : Begun mode [.connect, .channelSetup, .declare, .channelClose, .connectionClose]
  | published : Begun mode [.connect, .channelSetup, .declare, .publish, .channelClose,
      .connectionClose]
  | confirmed (waits : mode = .confirmed) :
      Begun mode [.connect, .channelSetup, .declare, .publish, .confirmation, .channelClose,
        .connectionClose]

/-- No step that is begun has a limit of zero under settings that pass their check. -/
theorem Begun.timeout_ne_zero {s : Settings} {steps : List Step} (h : Begun s.publishMode steps)
    {now : Nat} (limited : (Client.of s now).Limited s.publishMode) :
    ∀ step ∈ steps, step.timeout s ≠ 0 := by
  obtain ⟨connect, operation, confirmation⟩ := limited
  replace connect : s.broker.connectTimeout ≠ 0 := connect
  replace operation : s.broker.operationTimeout ≠ 0 := operation
  cases h with
  | confirmed waits =>
    have confirms : s.confirmTimeout ≠ 0 := confirmation waits
    simp [Step.timeout, connect, operation, confirms]
  | _ => simp [Step.timeout, connect, operation]

variable {σ : Type} {server : Server σ} {c : Client} {who : Credentials} {mode : PublishMode}
  {m : Message} {s₀ : σ} {lines : List LogLine} {l l₁ l₂ l₃ : Link σ}

theorem armed_connected
    (connect : c.connect server who mode { server := s₀ } = ⟨.ok (), lines, l₁⟩) :
    l₁.armed = c.arms [.connect, .channelSetup] := by
  obtain ⟨more, armed, far⟩ := c.armed_connect server who mode { server := s₀ }
  rw [connect] at armed far
  obtain rfl : more = [.channelSetup] := far
  exact armed

theorem armed_declared (connect : c.connect server who mode { server := s₀ } = ⟨.ok (), lines, l₁⟩)
    {spec : ExchangeSpec} {r : Except Failure Unit} {lines' : List LogLine}
    (declare : c.declare server spec l₁ = ⟨r, lines', l₂⟩) :
    l₂.armed = c.arms [.connect, .channelSetup, .declare] := by
  have armed := c.armed_declare server spec l₁
  rw [declare, armed_connected connect] at armed
  exact armed

theorem armed_closed {steps : List Step} (before : l₃.armed = c.arms steps)
    {r : Except Failure Unit} (close : c.close server l₃ = ⟨r, lines, l⟩) :
    l.armed = c.arms (steps ++ [.channelClose, .connectionClose]) := by
  have armed := c.armed_close server l₃
  rw [close, before, ← Client.arms_append] at armed
  exact armed

/-- A session that gets as far as the publish, closed after it. -/
theorem begun_of_publish (limited : c.Limited mode) {lines' lines'' lines''' : List LogLine}
    {outcome : Except Failure Bool} {r : Except Failure Unit}
    (connect : c.connect server who mode { server := s₀ } = ⟨.ok (), lines, l₁⟩)
    (declare : c.declare server (.durableFanout m.exchange) l₁ = ⟨.ok (), lines', l₂⟩)
    (publish : c.publish server m l₂ = ⟨outcome, lines'', l₃⟩)
    (close : c.close server l₃ = ⟨r, lines''', l⟩) :
    ∃ steps, Begun mode steps ∧ l.armed = c.arms steps := by
  obtain ⟨-, confirms, -⟩ := Client.walk_of_declare (m := m) limited connect declare
  obtain ⟨more, armed, far⟩ := c.armed_publish server m l₂
  rw [publish, armed_declared connect declare, ← Client.arms_append] at armed
  rcases far with rfl | ⟨waits, rfl⟩
  · exact ⟨_, .published, armed_closed armed close⟩
  · refine ⟨_, .confirmed ?_, armed_closed armed close⟩
    rw [confirms] at waits
    cases mode with
    | confirmed => rfl
    | fireAndForget => cases waits

theorem begun_of_transaction (limited : c.Limited mode) {acts : List Event}
    {outcome : Except Failure Bool}
    (h : Transaction (c.broker server) who mode m { server := s₀ } acts outcome l) :
    ∃ steps, Begun mode steps ∧ l.armed = c.arms steps := by
  cases h with
  | refused connect =>
    obtain ⟨more, armed, far⟩ := c.armed_connect server who mode { server := s₀ }
    rw [show c.connect server who mode { server := s₀ } = _ from connect] at armed far
    rcases far with rfl | rfl
    · exact ⟨_, .unconnected, armed⟩
    · exact ⟨_, .noChannel, armed⟩
  | undeclared connect declare close =>
    exact ⟨_, .undeclared, armed_closed (armed_declared connect declare) close⟩
  | unpublished connect declare publish close =>
    exact begun_of_publish limited connect declare publish close
  | published connect declare publish close =>
    exact begun_of_publish limited connect declare publish close

/-! ### What waits come to -/

/-- How the expiry of a step is told. -/
def Step.late (s : Settings) (step : Step) : Failure :=
  let text := step.name ++ " timed out after " ++ toString (step.timeout s).toNat ++ "s"
  if step ∈ [.connect, .channelSetup] then .connection text
  else if step = .confirmation then .publishNotConfirmed text
  else .channel text

theorem expired_expiry (s : Settings) (step : Step) :
    step.expired (expiry (.ofSeconds (step.timeout s)) step.name) = step.late s := by
  rw [expiry, Limit.seconds, Limit.ofSeconds, Nat.mul_div_cancel _ (by decide)]
  cases step <;> rfl

/-- A wait for a step is under the limit of its setting, which is not zero. What comes in time is
passed on, and what never comes is told as the failure of the step. -/
structure Step.Bounded (s : Settings) (step : Step) (limit : Limit) : Prop where
  own : limit = .ofSeconds (step.timeout s)
  positive : limit.millis ≠ 0
  passes : ∀ {α : Type} (r : Except Failure α),
    bounded limit step.name step.expired (.now r) = r ∧
    bounded limit step.name step.expired (.later r) = r
  expires : ∀ {α : Type}, bounded limit step.name step.expired (.never : Wait (Except Failure α)) =
    .error (step.late s)

theorem Step.bounded_of_ne_zero {s : Settings} {step : Step} (positive : step.timeout s ≠ 0) :
    step.Bounded s (.ofSeconds (step.timeout s)) where
  own := rfl
  positive := millis_ofSeconds positive
  passes _ := ⟨rfl, bounded_eq (millis_ofSeconds positive) ..⟩
  expires := congrArg Except.error (expired_expiry s step)

theorem told_late (s : Settings) (now : Nat) (exchange : String) (m : Method) :
    (Client.of s now).told exchange (.halted m .unanswered) = m.step.late s := by
  rw [Client.told_unanswered, limit_of, expired_expiry]

/-! ### Lookups -/

/-- The lookups of a preparation are those of the keys in their order, as far as it comes; there is
none before the settings have passed their check. -/
theorem tool_of_preparation {s : Settings} {run : ToolRunner} {input : List UInt8}
    {started after : List (Invocation × UInt64)} {acts : List Event}
    {outcome : Except Failure (KeyChange × Credentials)}
    (h : Preparation (s.secrets.toolSource run) s input started acts outcome after) :
    ∃ keys, keys <+: [s.secrets.usernameKey, s.secrets.passwordKey] ∧
      after = started ++ keys.map (fun key => (s.secrets.invocation key, s.secrets.timeout)) ∧
      (keys ≠ [] → s.check = .ok ()) := by
  have ran {key : String} {before between : List (Invocation × UInt64)} {r : Except Failure String}
      {lines : List LogLine}
      (lookup : (s.secrets.toolSource run).lookup key before = ⟨r, lines, between⟩) :
      between = before ++ [(s.secrets.invocation key, s.secrets.timeout)] :=
    congrArg Answered.state lookup.symm
  cases h with
  | misconfigured check => exact ⟨[], List.nil_prefix, by simp, by simp⟩
  | undecoded check decoded => exact ⟨[], List.nil_prefix, by simp, by simp⟩
  | noUsername check decoded username =>
    exact ⟨[s.secrets.usernameKey], ⟨[s.secrets.passwordKey], rfl⟩, ran username, fun _ => check⟩
  | noPassword check decoded username password =>
    refine ⟨_, List.prefix_rfl, ?_, fun _ => check⟩
    rw [ran password, ran username, List.append_assoc]
    rfl
  | ready check decoded username password =>
    refine ⟨_, List.prefix_rfl, ?_, fun _ => check⟩
    rw [ran password, ran username, List.append_assoc]
    rfl

theorem lookup_timeout_ne_zero {s : Settings} (check : s.check = .ok ()) :
    s.secrets.timeout ≠ 0 := by
  have passed := passed_of_check check
  simp only [Settings.checks, List.forall_mem_cons, decide_eq_false_iff_not] at passed
  obtain ⟨-, -, -, -, -, -, -, lookups, -⟩ := passed
  exact lookups

/-- What a tool ends in within its limit does not depend on the limit. -/
theorem secretOf_timeout (s : SecretSettings) (key : String) {e : ToolEnd} (inTime : e ≠ .expired)
    (seconds : UInt64) :
    ({ s with timeout := seconds } : SecretSettings).secretOf key e = s.secretOf key e := by
  cases e with
  | expired => exact absurd rfl inTime
  | _ => rfl

/-! ### Whole runs -/

theorem handler_tells {ς : Type} (source : SecretSource ς) (server : Server σ) {s : Settings}
    {stream : InputStream} {input : List UInt8} (read : stream.readAll = .ok input) {secrets : ς}
    {change : KeyChange} {who : Credentials}
    (prepared : prepare source s input secrets = .ok (change, who)) (s₀ : σ) (now : Nat)
    (id : MessageId) :
    let c := Client.of s now
    (Handler.run s stream id source (c.broker server) secrets { server := s₀ }).result =
      match server.setback? s₀ s.publishMode
          (c.requests who s.publishMode (announcement s change id)) with
      | some setback =>
        .error ((Trouble.ofFailure (c.told s.broker.exchange setback)).within
          "forwarding key change")
      | none => .ok (report s change id s.publishMode.waitsForConfirm) := by
  have told := forward_tells source server s input id secrets s₀ now
  rw [prepared] at told
  simp only [Handler.run, read, told]
  cases server.setback? s₀ s.publishMode _ <;> rfl

/-- The waits of a run, by what it leaves: lookups of the keys in their order, and the steps of a
session over the link, each under a limit that is not zero. -/
structure Waits (s : Settings) (now : Nat) (started ran : List (Invocation × UInt64))
    (l : Link σ) : Prop where
  lookups : ∃ keys, keys <+: [s.secrets.usernameKey, s.secrets.passwordKey] ∧
    ran = started ++ keys.map (fun key => (s.secrets.invocation key, s.secrets.timeout)) ∧
    (keys ≠ [] → s.secrets.timeout ≠ 0)
  steps : ∃ steps, Begun s.publishMode steps ∧ l.armed = (Client.of s now).arms steps ∧
    ∀ step ∈ steps, step.timeout s ≠ 0

theorem waits_nothing (s : Settings) (now : Nat) (started : List (Invocation × UInt64)) (s₀ : σ) :
    Waits s now started started { server := s₀ } where
  lookups := ⟨[], List.nil_prefix, by simp, by simp⟩
  steps := ⟨[], .none, rfl, by simp⟩

theorem forward_waits (server : Server σ) (run : ToolRunner) (s : Settings) (input : List UInt8)
    (id : MessageId) (started : List (Invocation × UInt64)) (s₀ : σ) (now : Nat) :
    let r := (forward s input id).run (s.secrets.toolSource run)
      ((Client.of s now).broker server) started { server := s₀ }
    Waits s now started r.secrets r.broker := by
  intro r
  let c := Client.of s now
  rcases Delivery.forward_course (s.secrets.toolSource run) (c.broker server) s input id started
      { server := s₀ } with
    ⟨f, preparation, -, same⟩ | ⟨change, who, _, _, outcome, preparation, transaction, -, -⟩
  · obtain ⟨keys, front, ran, check⟩ := tool_of_preparation preparation
    rw [show r.broker = _ from same]
    exact ⟨⟨keys, front, ran, fun some => lookup_timeout_ne_zero (check some)⟩,
      (waits_nothing s now started s₀).steps⟩
  · obtain ⟨keys, front, ran, check⟩ := tool_of_preparation preparation
    have limited : c.Limited s.publishMode := by
      cases preparation with
      | ready check => exact Client.limited_of_check check now
    obtain ⟨steps, begun, armed⟩ := begun_of_transaction limited transaction
    exact ⟨⟨keys, front, ran, fun some => lookup_timeout_ne_zero (check some)⟩, steps, begun, armed,
      begun.timeout_ne_zero limited⟩

theorem handler_waits (server : Server σ) (run : ToolRunner) (s : Settings) (stream : InputStream)
    (id : MessageId) (started : List (Invocation × UInt64)) (s₀ : σ) (now : Nat) :
    let r := Handler.run s stream id (s.secrets.toolSource run)
      ((Client.of s now).broker server) started { server := s₀ }
    Waits s now started r.secrets r.broker := by
  rw [Handler.run]
  split
  · exact waits_nothing s now started s₀
  · exact forward_waits server run s _ id started s₀ now

theorem Waits.begun {s : Settings} {now : Nat} {started ran : List (Invocation × UInt64)}
    (h : Waits s now started ran l) : Begun s.publishMode l.steps := by
  obtain ⟨steps, begun, armed, -⟩ := h.steps
  have same : l.steps = steps := by
    rw [Link.steps, armed, Client.arms, List.map_map]
    exact List.map_id steps
  rw [same]
  exact begun

theorem Waits.bounded {s : Settings} {now : Nat} {started ran : List (Invocation × UInt64)}
    (h : Waits s now started ran l) : ∀ x ∈ l.armed, x.1.Bounded s x.2 := by
  obtain ⟨steps, -, armed, positive⟩ := h.steps
  intro x member
  rw [armed] at member
  obtain ⟨step, listed, rfl⟩ := List.mem_map.1 member
  rw [limit_of]
  exact Step.bounded_of_ne_zero (positive step listed)

/-- No wait of a run has a limit of zero, whatever the settings, the input, the tool and the server.
A lookup has the limit for lookups, each step over the link that of its own setting, and a
confirmation is waited for only in the mode that has one. What ends within its limit is passed on: a
lookup gives what the tool ends in, whatever the limit, and a run is told of the first setback of
its session in the words for it. What does not end in time is told as the failure of that lookup or
that step. -/
theorem handler_bounds_waits (server : Server σ) (run : ToolRunner) (s : Settings)
    (stream : InputStream) (id : MessageId) (started : List (Invocation × UInt64)) (s₀ : σ)
    (now : Nat) :
    let c := Client.of s now
    let source := s.secrets.toolSource run
    let r := Handler.run s stream id source (c.broker server) started { server := s₀ }
    (∃ keys, keys <+: [s.secrets.usernameKey, s.secrets.passwordKey] ∧
      r.secrets = started ++ keys.map (fun key => (s.secrets.invocation key, s.secrets.timeout)) ∧
      (keys ≠ [] → s.secrets.timeout ≠ 0)) ∧
    (∀ key before,
      let e := run (s.secrets.invocation key) s.secrets.timeout
      (e = .expired → (source.lookup key before).result =
        .error (.secretLookup key ("timed out after " ++
          toString s.secrets.timeout.toNat ++ "s"))) ∧
      (e ≠ .expired → ∀ seconds, (source.lookup key before).result =
        ({ s.secrets with timeout := seconds } : SecretSettings).secretOf key e)) ∧
    Begun s.publishMode r.broker.steps ∧
    (∀ x ∈ r.broker.armed, x.1.Bounded s x.2) ∧
    (∀ m, c.told s.broker.exchange (.halted m .unanswered) = m.step.late s) ∧
    ∀ input change who, stream.readAll = .ok input →
      prepare source s input started = .ok (change, who) →
      r.result = match server.setback? s₀ s.publishMode
          (c.requests who s.publishMode (announcement s change id)) with
        | some setback =>
          .error ((Trouble.ofFailure (c.told s.broker.exchange setback)).within
            "forwarding key change")
        | none => .ok (report s change id s.publishMode.waitsForConfirm) := by
  intro c source r
  have waits : Waits s now started r.secrets r.broker :=
    handler_waits server run s stream id started s₀ now
  refine ⟨waits.lookups, fun key before => ⟨fun expired => ?_, fun inTime seconds => ?_⟩,
    waits.begun, waits.bounded, told_late s now s.broker.exchange, ?_⟩
  · show s.secrets.secretOf key (run _ _) = _
    rw [expired]
    rfl
  · exact (secretOf_timeout s.secrets key inTime seconds).symm
  · intro input change who read prepared
    exact handler_tells source server read prepared s₀ now id

end KeyRelay.Amqp
