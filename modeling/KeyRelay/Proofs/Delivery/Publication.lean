import KeyRelay.Proofs.Change
import KeyRelay.Proofs.Delivery.InMemory

/-!
What a delivery publishes at a broker in memory: the one message that announces the change of its
input, or nothing. A delivery that fails has published nothing.
-/

namespace KeyRelay

/-- The message announces this change, under these settings and this identifier. -/
structure Announces (s : Settings) (change : KeyChange) (id : MessageId) (m : Message) : Prop where
  exchange : m.exchange = s.broker.exchange
  routingKey : m.routingKey = ""
  persistent : m.persistent = true
  contentType : m.contentType = "application/json"
  id : m.id = id
  /-- Whoever reads the body gets the change. -/
  body : ChangeMessage.ofBody m.body = .ok ⟨change.key, change.value⟩

namespace MemoryBroker

/-- A transaction stores its message exactly where it succeeds and nothing is nacked. -/
theorem Service.published {b b' : MemoryBroker} {who : Credentials} {mode : PublishMode}
    {m : Message} {outcome : Except Failure Bool} (h : Service b who mode m outcome b') :
    b'.published = b.published ++ if outcome.isOk && !b.nacking then [m] else [] := by
  cases h with
  | refused access => exact (List.append_nil _).symm
  | clashing access clash => exact (List.append_nil _).symm
  | nacked access free nacking confirms => exact (List.append_nil _).symm
  | dropped access free nacking confirms =>
    rw [nacking]
    exact (List.append_nil _).symm
  | stored access free nacking =>
    rw [nacking]
    rfl

/-- The broker acknowledges what it stores where confirmation is wanted, and nothing else. -/
theorem Service.acknowledged {b b' : MemoryBroker} {who : Credentials} {mode : PublishMode}
    {m : Message} {acked : Bool} (h : Service b who mode m (.ok acked) b') :
    (acked = true ↔ mode = .confirmed) ∧ (mode = .confirmed → b.nacking = false) := by
  cases h with
  | dropped access free nacking confirms => simp [confirms]
  | stored access free nacking => cases mode <;> simp [nacking, PublishMode.waitsForConfirm]

end MemoryBroker

namespace Delivery

theorem announcement_announces (s : Settings) (change : KeyChange) (id : MessageId) :
    Announces s change id (announcement s change id) where
  exchange := rfl
  routingKey := rfl
  persistent := rfl
  contentType := rfl
  id := rfl
  body := by
    rw [announcement, Message.persistentJson, KeyChange.toBody, ChangeMessage.ofBody_toBody,
      KeyChange.toMessage]

variable {σ : Type} (source : SecretSource σ)

/-- A preparation that succeeds has decoded the input. -/
theorem decoded_of_prepare {s : Settings} {input : List UInt8} {secrets : σ} {change : KeyChange}
    {who : Credentials} (h : prepare source s input secrets = .ok (change, who)) :
    KeyChange.ofWatchJson input = .ok change := by
  simp only [prepare] at h
  repeat' split at h
  all_goals cases h
  assumption

/-- What a delivery at a broker in memory publishes. Where it fails, nothing; where it succeeds and
the broker nacks nothing, one message that announces what the input says. With confirmations wanted
it succeeds exactly where such a message has been published, and only then its report is of a
confirmed one. -/
theorem forward_publishes (s : Settings) (input : List UInt8) (id : MessageId) (secrets : σ)
    (b : MemoryBroker) :
    let r := (forward s input id).run source MemoryBroker.broker secrets (b, none)
    (∀ f, r.result = .error f → r.broker.1.published = b.published) ∧
    (∀ report, r.result = .ok report →
      KeyChange.ofWatchJson input = .ok ⟨report.key, report.value⟩ ∧
      (b.nacking = false → ∃ m, Announces s ⟨report.key, report.value⟩ report.messageId m ∧
        r.broker.1.published = b.published ++ [m]) ∧
      (b.nacking = true → r.broker.1.published = b.published) ∧
      (report.confirmed = true ↔ s.publishMode = .confirmed)) ∧
    (s.publishMode = .confirmed →
      ((∃ report, r.result = .ok report) ↔
        ∃ change m, KeyChange.ofWatchJson input = .ok change ∧ Announces s change id m ∧
          r.broker.1.published = b.published ++ [m])) := by
  intro r
  rcases forward_service source s input id secrets b with
    ⟨-, ⟨f, -, result, same⟩ | ⟨change, who, outcome, prepared, service, result⟩⟩
  · rw [show r.result = _ from result, show r.broker.1 = _ from same]
    refine ⟨fun _ _ => rfl, by simp, fun _ => ⟨by simp, ?_⟩⟩
    rintro ⟨change, m, -, -, more⟩
    simp at more
  · have decoded := decoded_of_prepare source prepared
    have published := service.published
    rw [show r.result = _ from result, show r.broker.1.published = _ from published]
    cases outcome with
    | error f =>
      refine ⟨fun _ _ => List.append_nil _,
        by simp [Except.map], fun _ => ⟨by simp [Except.map], ?_⟩⟩
      rintro ⟨change, m, -, -, more⟩
      simp [Except.isOk, Except.toBool] at more
    | ok acked =>
      obtain ⟨confirmed, stored⟩ := service.acknowledged
      have announces := announcement_announces s change id
      refine ⟨by simp [Except.map], ?_, fun mode => ⟨fun _ => ?_, fun _ => ⟨_, rfl⟩⟩⟩
      · rintro _ ⟨⟩
        refine ⟨decoded, fun free => ⟨_, announces, ?_⟩, fun nacking => ?_, confirmed⟩
        · rw [free]
          rfl
        · rw [nacking]
          exact List.append_nil _
      · refine ⟨change, _, decoded, announces, ?_⟩
        rw [stored mode]
        rfl

end Delivery

end KeyRelay
