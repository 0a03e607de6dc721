import KeyRelay.Proofs.Broker.Memory

/-!
Deliveries to a broker in memory. `Service` lists the five ways such a transaction can go, with the
condition for each and the broker it leaves; the verdict depends on the broker, the credentials, the
mode and the name of the exchange, and not on the message.
-/

namespace KeyRelay

namespace MemoryBroker

/-- The broker with one more session open. -/
def opened (b : MemoryBroker) : MemoryBroker :=
  { b with attempts := b.attempts + 1, openSessions := b.openSessions + 1 }

/-- The broker after a durable fanout exchange is declared. -/
def provided (b : MemoryBroker) (name : String) : MemoryBroker :=
  { b.setExchange (.durableFanout name) with declarations := b.declarations + 1 }

theorem exchange?_provided (b : MemoryBroker) (name : String) :
    (b.provided name).exchange? name = some (.durableFanout name) :=
  (exchange?_setExchange b (.durableFanout name) name).trans (if_pos rfl)

/-- How a transaction goes: what comes of it, and the broker afterwards. -/
inductive Service (b : MemoryBroker) (who : Credentials) (mode : PublishMode) (m : Message) :
    Except Failure Bool → MemoryBroker → Prop where
  | refused (access : b.accepts who = false) :
      Service b who mode m
        (.error (.connection ("ACCESS_REFUSED - login was refused for user " ++ who.username)))
        { b with attempts := b.attempts + 1 }
  | clashing {spec : ExchangeSpec} (access : b.accepts who = true)
      (clash : b.clash? m.exchange = some spec) :
      Service b who mode m (.error (.exchangeConflict m.exchange ("declared as " ++ spec.debug)))
        b.opened.close
  | nacked (access : b.accepts who = true) (free : b.clash? m.exchange = none)
      (nacking : b.nacking = true)
      (confirms : mode = .confirmed) :
      Service b who mode m (.error (.publishNotConfirmed "broker nacked the message"))
        (b.opened.provided m.exchange).close
  | dropped (access : b.accepts who = true) (free : b.clash? m.exchange = none)
      (nacking : b.nacking = true)
      (confirms : mode = .fireAndForget) :
      Service b who mode m (.ok false) (b.opened.provided m.exchange).close
  | stored (access : b.accepts who = true) (free : b.clash? m.exchange = none)
      (nacking : b.nacking = false) :
      Service b who mode m (.ok mode.waitsForConfirm)
        { b.opened.provided m.exchange with published := b.published ++ [m] }.close

/-- What comes of a transaction, read off the broker before it. -/
def verdict (b : MemoryBroker) (who : Credentials) (mode : PublishMode) (exchange : String) :
    Except Failure Bool :=
  if b.accepts who then
    match b.clash? exchange with
    | some spec => .error (.exchangeConflict exchange ("declared as " ++ spec.debug))
    | none =>
      if b.nacking && mode.waitsForConfirm
        then .error (.publishNotConfirmed "broker nacked the message")
      else .ok (!b.nacking && mode.waitsForConfirm)
  else .error (.connection ("ACCESS_REFUSED - login was refused for user " ++ who.username))

theorem Service.eq_verdict {b b' : MemoryBroker} {who : Credentials} {mode : PublishMode}
    {m : Message} {outcome : Except Failure Bool} (h : Service b who mode m outcome b') :
    outcome = b.verdict who mode m.exchange := by
  cases h with
  | refused access => simp [verdict, access]
  | clashing access clash => simp [verdict, access, clash]
  | nacked access free nacking confirms =>
    simp [verdict, access, free, nacking, confirms, PublishMode.waitsForConfirm]
  | dropped access free nacking confirms =>
    simp [verdict, access, free, nacking, confirms, PublishMode.waitsForConfirm]
  | stored access free nacking => simp [verdict, access, free, nacking]

end MemoryBroker

namespace Delivery

open MemoryBroker (Service effect_of_answer)

section
variable {b : MemoryBroker} {who : Credentials} {mode : PublishMode} {l₁ l₂ : List LogLine}
  {t₁ t₂ : MemoryBroker × Option MemorySession}

theorem opened_of_answer
    (connect : MemoryBroker.broker.answer (.connect who mode) (b, none) = ⟨.ok (), l₁, t₁⟩) :
    b.accepts who = true ∧ t₁ = (b.opened, some ⟨mode.waitsForConfirm⟩) := by
  obtain ⟨b₁, s₁⟩ := t₁
  cases effect_of_answer connect trivial with
  | connected access => exact ⟨access, rfl⟩

theorem provided_of_answers {name : String}
    (connect : MemoryBroker.broker.answer (.connect who mode) (b, none) = ⟨.ok (), l₁, t₁⟩)
    (declare : MemoryBroker.broker.answer (.declare (.durableFanout name)) t₁ = ⟨.ok (), l₂, t₂⟩) :
    b.accepts who = true ∧ b.clash? name = none ∧
      t₂ = (b.opened.provided name, some ⟨mode.waitsForConfirm⟩) := by
  obtain ⟨access, rfl⟩ := opened_of_answer connect
  obtain ⟨b₂, s₂⟩ := t₂
  cases effect_of_answer declare rfl with
  | declared free => exact ⟨access, free, rfl⟩

end

theorem Transaction.service {b b' : MemoryBroker} {session : Option MemorySession}
    {who : Credentials} {mode : PublishMode} {m : Message} {acts : List Event}
    {outcome : Except Failure Bool}
    (h : Transaction MemoryBroker.broker who mode m (b, none) acts outcome (b', session)) :
    Service b who mode m outcome b' ∧ session = none := by
  have present := MemoryBroker.exchange?_provided b.opened m.exchange
  cases h with
  | refused connect =>
    cases effect_of_answer connect trivial with
    | refused access => exact ⟨.refused access, rfl⟩
    | unopened h => exact absurd rfl h
  | @undeclared _ _ _ _ _ _ t₂ _ connect declare close =>
    obtain ⟨access, rfl⟩ := opened_of_answer connect
    obtain ⟨b₂, s₂⟩ := t₂
    cases effect_of_answer declare rfl with
    | clashing clash =>
      cases effect_of_answer close trivial with
      | closed => exact ⟨.clashing access clash, rfl⟩
  | @unpublished _ _ _ _ _ _ _ _ t₃ _ connect declare publish close =>
    obtain ⟨access, free, rfl⟩ := provided_of_answers connect declare
    obtain ⟨b₃, s₃⟩ := t₃
    cases effect_of_answer publish trivial with
    | unrouted unknown => simp [present] at unknown
    | nacked _ nacking confirms =>
      cases effect_of_answer close trivial with
      | closed =>
        cases mode with
        | confirmed => exact ⟨.nacked access free nacking rfl, rfl⟩
        | fireAndForget => cases confirms
  | @published _ _ _ _ _ _ _ _ t₃ _ connect declare publish close =>
    obtain ⟨access, free, rfl⟩ := provided_of_answers connect declare
    obtain ⟨b₃, s₃⟩ := t₃
    cases effect_of_answer publish trivial with
    | dropped _ nacking confirms =>
      cases effect_of_answer close trivial with
      | closed =>
        cases mode with
        | confirmed => cases confirms
        | fireAndForget => exact ⟨.dropped access free nacking rfl, rfl⟩
    | stored _ nacking =>
      cases effect_of_answer close trivial with
      | closed => exact ⟨.stored access free nacking, rfl⟩

variable {σ : Type} (source : SecretSource σ)

/-- A delivery to a broker in memory: the preparation fails, or the broker serves the transaction.
Either way no session stays open. -/
theorem forward_service (s : Settings) (input : List UInt8) (id : MessageId) (secrets : σ)
    (b : MemoryBroker) :
    let r := (forward s input id).run source MemoryBroker.broker secrets (b, none)
    r.broker.2 = none ∧
    ((∃ f, prepare source s input secrets = .error f ∧ r.result = .error f ∧ r.broker.1 = b) ∨
     (∃ change who outcome, prepare source s input secrets = .ok (change, who) ∧
      Service b who s.publishMode (announcement s change id) outcome r.broker.1 ∧
      r.result = outcome.map (report s change id))) := by
  intro r
  rcases forward_course source MemoryBroker.broker s input id secrets (b, none) with
    ⟨f, prepared, result, same⟩ |
      ⟨change, who, before, acts, outcome, prepared, transaction, _, result⟩
  · rw [show r.broker = _ from same]
    exact ⟨rfl, .inl ⟨f, prepared.eq_prepare.symm, result, rfl⟩⟩
  · obtain ⟨service, closed⟩ := Transaction.service transaction
    exact ⟨closed, .inr ⟨change, who, outcome, prepared.eq_prepare.symm, service, result⟩⟩

/-- The result of such a delivery, read off what is there before it. -/
theorem result_eq_verdict (s : Settings) (input : List UInt8) (id : MessageId) (secrets : σ)
    (b : MemoryBroker) :
    ((forward s input id).run source MemoryBroker.broker secrets (b, none)).result =
      match prepare source s input secrets with
      | .error f => .error f
      | .ok (change, who) => (b.verdict who s.publishMode s.broker.exchange).map
        (report s change id) := by
  rcases forward_service source s input id secrets b with
    ⟨_, ⟨f, prepared, result, _⟩ | ⟨change, who, outcome, prepared, service, result⟩⟩
  · rw [prepared, result]
  · rw [prepared, result, service.eq_verdict]
    rfl

end Delivery

end KeyRelay
