import KeyRelay.Proofs.Delivery.Contact
import KeyRelay.Proofs.Delivery.Secrecy

/-!
What the publish mode changes about a delivery: whether it waits for a confirmation, and nothing
else. The settings pass the same checks in both modes as long as that wait is given time
(`check_mode`), the broker is left the same (`Service.eq_served`), and the verdicts differ only
where a message goes out (`verdict_free`, `verdict_nacking`).
-/

namespace KeyRelay

namespace MemoryBroker

/-- The broker that a transaction leaves, whatever the mode. -/
def served (b : MemoryBroker) (who : Credentials) (m : Message) : MemoryBroker :=
  if b.accepts who then
    if (b.clash? m.exchange).isSome then b.opened.close
    else if b.nacking then (b.opened.provided m.exchange).close
    else { b.opened.provided m.exchange with published := b.published ++ [m] }.close
  else { b with attempts := b.attempts + 1 }

theorem Service.eq_served {b b' : MemoryBroker} {who : Credentials} {mode : PublishMode}
    {m : Message} {outcome : Except Failure Bool} (h : Service b who mode m outcome b') :
    b' = b.served who m := by
  cases h with
  | refused access => simp [served, access]
  | clashing access clash => simp [served, access, clash]
  | nacked access free nacking => simp [served, access, free, nacking]
  | dropped access free nacking => simp [served, access, free, nacking]
  | stored access free nacking => simp [served, access, free, nacking]

section
variable {b : MemoryBroker} (who : Credentials) {m m' : Message}

theorem viewed_served {view : MessageId → MessageId} (like : m.viewed view = m'.viewed view) :
    (b.served who m).viewed view = (b.served who m').viewed view := by
  have exchange : m.exchange = m'.exchange := congrArg (·.exchange) like
  rw [served, served, exchange]
  split
  · split
    · rfl
    split
    · rfl
    · simp [viewed, close, like]
  · rfl

/-- A broker that nacks stores no message, so it is left the same by all messages to one
exchange. -/
theorem served_nacking (nacking : b.nacking = true) (exchange : m.exchange = m'.exchange) :
    b.served who m = b.served who m' := by
  simp only [served, nacking, exchange, if_true]

theorem published_served (nacking : b.nacking = true) :
    (b.served who m).published = b.published := by
  simp only [served, nacking, if_true]
  split
  · split
    · rfl
    · rfl
  · rfl

/-- Where nothing is nacked, the mode shows in the acknowledgement alone. -/
theorem verdict_free (free : b.nacking = false) (exchange : String) :
    ∃ outcome : Except Failure Unit, ∀ mode : PublishMode,
      b.verdict who mode exchange = outcome.map fun _ => mode.waitsForConfirm := by
  simp only [verdict, free]
  cases b.accepts who with
  | false => exact ⟨.error _, fun _ => rfl⟩
  | true =>
    cases b.clash? exchange with
    | some spec => exact ⟨.error _, fun _ => rfl⟩
    | none => exact ⟨.ok (), fun _ => rfl⟩

/-- Where everything is nacked, a message that goes out unnoticed in one mode fails in the other for
want of a confirmation. -/
theorem verdict_nacking (nacking : b.nacking = true) (exchange : String) :
    (b.verdict who .fireAndForget exchange = .ok false ∧
      ∃ reason, b.verdict who .confirmed exchange = .error (.publishNotConfirmed reason)) ∨
    ∃ f, (∀ reason, f ≠ .publishNotConfirmed reason) ∧
      b.verdict who .fireAndForget exchange = .error f ∧
      b.verdict who .confirmed exchange = .error f := by
  rw [verdict, verdict, nacking]
  cases b.accepts who with
  | false => exact .inr ⟨_, by simp, rfl, rfl⟩
  | true =>
    cases b.clash? exchange with
    | some spec => exact .inr ⟨_, by simp, rfl, rfl⟩
    | none => exact .inl ⟨rfl, _, rfl⟩

end

end MemoryBroker

/-- The mode counts in the checks only where the wait for a confirmation is given no time. -/
theorem Settings.check_mode {s : Settings} (limit : s.confirmTimeout ≠ 0) (mode : PublishMode) :
    { s with publishMode := mode }.check = s.check := by
  simp [check, checks, limit]

namespace Delivery

section
variable {σ : Type} {source : SecretSource σ} {s : Settings} {input : List UInt8} {secrets : σ}

theorem prepare_mode (limit : s.confirmTimeout ≠ 0) (mode : PublishMode) :
    prepare source { s with publishMode := mode } input secrets =
      prepare source s input secrets := by
  simp only [prepare, Settings.check_mode limit]

/-- A preparation fails of something that comes before the broker. -/
theorem prepare_early (blames : source.Blames) {f : Failure}
    (h : prepare source s input secrets = .error f) :
    f.isPreConnect = true := by
  rw [prepare] at h
  split at h
  · cases h
    rfl
  split at h
  · next fault _ =>
    cases h
    cases fault <;> rfl
  split at h
  · next username =>
    cases h
    obtain ⟨reason, rfl⟩ := blames s.secrets.usernameKey secrets f (by rw [username])
    rfl
  next after username =>
  split at h
  · next password =>
    cases h
    obtain ⟨reason, rfl⟩ := blames s.secrets.passwordKey after f password
    rfl
  · cases h

/-- A delivery to a broker in memory, told from its preparation. -/
theorem forward_served (id : MessageId) (b : MemoryBroker) :
    let r := (forward s input id).run source MemoryBroker.broker secrets (b, none)
    (∀ f, prepare source s input secrets = .error f → r.result = .error f ∧ r.broker = (b, none)) ∧
    ∀ change who, prepare source s input secrets = .ok (change, who) →
      r.result = (b.verdict who s.publishMode s.broker.exchange).map (report s change id) ∧
      r.broker = (b.served who (announcement s change id), none) := by
  intro r
  obtain ⟨session, ⟨f, prepared, result, same⟩ |
      ⟨change, who, outcome, prepared, service, result⟩⟩ :=
    forward_service source s input id secrets b
  · rw [prepared]
    refine ⟨?_, by simp⟩
    rintro _ ⟨⟩
    exact ⟨result, Prod.ext same session⟩
  · rw [prepared]
    refine ⟨by simp, ?_⟩
    rintro _ _ ⟨⟩
    have verdict : outcome = b.verdict who s.publishMode s.broker.exchange := service.eq_verdict
    exact ⟨by rw [← verdict]; exact result, Prod.ext service.eq_served session⟩

end

/-- One delivery in both modes, from one state of table and broker, with time for a confirmation. If
nothing is nacked, both fail of the same or both succeed, with reports and brokers that differ only
in the identifier of the message and in whether it is confirmed. If everything is nacked, the
delivery that waits fails for want of a confirmation where the other one succeeds, and of the same
as the other one everywhere else; both leave one broker, with the messages it had. -/
theorem forward_mode (s : Settings) (limit : s.confirmTimeout ≠ 0) (input : List UInt8)
    (id id' : MessageId) (t : SecretTable) (b : MemoryBroker) :
    let run (mode : PublishMode) (id : MessageId) :=
      (forward { s with publishMode := mode } input id).run SecretTable.source MemoryBroker.broker
        t (b, none)
    let waiting := run .confirmed id
    let forgetting := run .fireAndForget id'
    (b.nacking = false →
      ((∃ f, waiting.result = .error f ∧ forgetting.result = .error f) ∨
        ∃ report : DeliveryReport, waiting.result =
          .ok { report with messageId := id, confirmed := true } ∧
          forgetting.result = .ok { report with messageId := id', confirmed := false }) ∧
      ∀ view : MessageId → MessageId, view id = view id' →
        waiting.broker.1.viewed view = forgetting.broker.1.viewed view) ∧
    (b.nacking = true →
      ((∃ reason, waiting.result = .error (.publishNotConfirmed reason)) →
        ∃ report, forgetting.result = .ok report ∧ report.confirmed = false) ∧
      ((¬∃ reason, waiting.result = .error (.publishNotConfirmed reason)) →
        ∃ f, waiting.result = .error f ∧ forgetting.result = .error f) ∧
      waiting.broker.1.published = b.published ∧ forgetting.broker = waiting.broker) := by
  intro run waiting forgetting
  obtain ⟨unready, ready⟩ :=
    @forward_served _ SecretTable.source { s with publishMode := .confirmed } input t id b
  obtain ⟨unready', ready'⟩ :=
    @forward_served _ SecretTable.source { s with publishMode := .fireAndForget } input t id' b
  rw [prepare_mode limit] at unready ready unready' ready'
  rcases prepared : prepare SecretTable.source s input t with f | ⟨change, who⟩
  -- both end before the broker
  · obtain ⟨result, broker⟩ := unready f prepared
    obtain ⟨result', broker'⟩ := unready' f prepared
    rw [show waiting.result = _ from result, show waiting.broker = _ from broker,
      show forgetting.result = _ from result', show forgetting.broker = _ from broker']
    have early := prepare_early SecretTable.source_blames prepared
    refine ⟨fun _ => ⟨.inl ⟨f, rfl, rfl⟩, fun _ _ => rfl⟩, fun _ =>
      ⟨?_, fun _ => ⟨f, rfl, rfl⟩, rfl, rfl⟩⟩
    rintro ⟨reason, ⟨⟩⟩
    cases early
  -- both go on to the broker, with the same credentials
  · obtain ⟨result, broker⟩ := ready change who prepared
    obtain ⟨result', broker'⟩ := ready' change who prepared
    rw [show waiting.result = _ from result, show waiting.broker = _ from broker,
      show forgetting.result = _ from result', show forgetting.broker = _ from broker']
    constructor
    · intro free
      refine ⟨?_, fun view blind => MemoryBroker.viewed_served who ?_⟩
      · obtain ⟨outcome, verdict⟩ := MemoryBroker.verdict_free who free s.broker.exchange
        rw [verdict, verdict]
        cases outcome with
        | error f => exact .inl ⟨f, rfl, rfl⟩
        | ok _ => exact .inr ⟨report s change id true, rfl, rfl⟩
      · simp [announcement, Message.persistentJson, Message.viewed, blind]
    · intro nacking
      have same := MemoryBroker.served_nacking who nacking
        (show (announcement s change id').exchange = (announcement s change id).exchange from rfl)
      have kept := MemoryBroker.published_served who nacking (m := announcement s change id)
      rcases MemoryBroker.verdict_nacking who nacking s.broker.exchange with
        ⟨sent, reason, unconfirmed⟩ | ⟨f, other, failed, failed'⟩
      · rw [sent, unconfirmed]
        exact ⟨fun _ => ⟨_, rfl, rfl⟩, fun none =>
          absurd ⟨reason, rfl⟩ none, kept, congrArg (·, none) same⟩
      · rw [failed, failed']
        refine ⟨?_, fun _ => ⟨f, rfl, rfl⟩, kept, congrArg (·, none) same⟩
        rintro ⟨reason, ⟨⟩⟩
        exact absurd rfl (other reason)

/-- A broker that nacks everything. -/
theorem forward_mode_nacked :
    let s : Settings := {}
    let run (mode : PublishMode) (serial : Nat) := (forward { s with publishMode := mode }
      (Utf8.bytes "\x7b\"Key\":\"k\",\"Value\":\"aGk=\"\x7d") (.timeOrdered 0 serial)).run
      SecretTable.source
      MemoryBroker.broker (SecretTable.ofCredentials s.secrets "forwarder" "secret")
        ({ nacking := true }, none)
    s.confirmTimeout ≠ 0 ∧ (run .confirmed 1).result =
      .error (.publishNotConfirmed "broker nacked the message") ∧
    ∃ report, (run .fireAndForget 2).result = .ok report ∧ report.confirmed = false := by
  intro s run
  have limit : s.confirmTimeout ≠ 0 := by decide
  have failed : (run .confirmed 1).result =
      .error (.publishNotConfirmed "broker nacked the message") := by
    decide +kernel
  exact ⟨limit, failed,
    ((forward_mode s limit _ (.timeOrdered 0 1) (.timeOrdered 0 2) _ { nacking := true }).2 rfl).1
    ⟨_, failed⟩⟩

end Delivery

end KeyRelay
