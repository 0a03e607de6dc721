import KeyRelay.Proofs.Delivery.InMemory
import KeyRelay.Proofs.Secret

/-!
What a delivery shows does not depend on the password. `Veiled` relates programs that write the same
lines, look up the same keys and make the same calls but for a password that the broker treats alike
and for the identifier of a message; their runs look alike (`Veiled.run`), and the deliveries of one
input with two passwords are so related (`forward_veiled`). Identifiers are seen through a function
`view` that takes those of the two messages for one.
-/

namespace KeyRelay

/-! ### Identifiers aside -/

def Message.viewed (view : MessageId → MessageId) (m : Message) : Message :=
  { m with id := view m.id }

def DeliveryReport.viewed (view : MessageId → MessageId) (r : DeliveryReport) : DeliveryReport :=
  { r with messageId := view r.messageId }

namespace MemoryBroker

def viewed (view : MessageId → MessageId) (b : MemoryBroker) : MemoryBroker :=
  { b with published := b.published.map (Message.viewed view) }

variable {view : MessageId → MessageId} {b b' : MemoryBroker}
  {s s' : MemoryBroker × Option MemorySession}

/-- Brokers that look the same differ in the messages they have, if at all. -/
theorem exists_published (broker : s.1.viewed view = s'.1.viewed view) (session : s.2 = s'.2) :
    ∃ ms, s' = ({ s.1 with published := ms }, s.2) ∧
      ms.map (Message.viewed view) = s.1.published.map (Message.viewed view) := by
  obtain ⟨⟨_, _, _, _, _, _, _, _⟩, _⟩ := s
  obtain ⟨⟨_, _, _, _, ms, _, _, _⟩, _⟩ := s'
  cases session
  simp only [viewed, mk.injEq] at broker
  obtain ⟨rfl, rfl, rfl, rfl, published, rfl, rfl, rfl⟩ := broker
  exact ⟨ms, rfl, published.symm⟩

/-- Two answers that are the same, identifiers aside. -/
structure Matches (view : MessageId → MessageId) {α : Type}
    (a a' : Answered α (MemoryBroker × Option MemorySession)) : Prop where
  result : a.result = a'.result
  broker : a.state.1.viewed view = a'.state.1.viewed view
  session : a.state.2 = a'.state.2

theorem lines_answer (c : Call) (s : MemoryBroker × Option MemorySession) :
    (broker.answer c s).lines = [] := by
  obtain ⟨b, session⟩ := s
  cases c with
  | connect who mode =>
    simp only [broker]
    split <;> rfl
  | _ => cases session <;> rfl

theorem accepted_answer (c : Call) (s : MemoryBroker × Option MemorySession) :
    (broker.answer c s).state.1.accepted = s.1.accepted := by
  obtain ⟨b, session⟩ := s
  cases c with
  | connect who mode =>
    by_cases access : b.accepts who <;> simp [broker, connect, access]
  | declare spec =>
    cases session with
    | none => rfl
    | some session =>
      simp only [broker, declare_eq]
      split <;> rfl
  | publish m =>
    cases session with
    | none => rfl
    | some session =>
      simp only [broker, publish]
      split
      · rfl
      · split <;> rfl
  | close => cases session <;> rfl

/-- Connecting shows nothing of a password but whether it is accepted. -/
theorem answer_connect {who who' : Credentials} (name : who.username = who'.username)
    (alike : s.1.accepts who = s.1.accepts who') (mode : PublishMode) :
    broker.answer (.connect who mode) s = broker.answer (.connect who' mode) s := by
  simp only [broker, connect, name, alike]

theorem matches_publish {m m' : Message} (like : m.viewed view = m'.viewed view)
    (same : s.1.viewed view = s'.1.viewed view) (session : s.2 = s'.2) :
    Matches view (broker.answer (.publish m) s) (broker.answer (.publish m') s') := by
  obtain ⟨ms, rfl, published⟩ := exists_published same session
  obtain ⟨b, _ | session⟩ := s
  · exact ⟨rfl, same, rfl⟩
  have exchange : m.exchange = m'.exchange := congrArg (·.exchange) like
  have known : exchange? { b with published := ms } m'.exchange = b.exchange? m'.exchange := rfl
  simp only [broker, publish, exchange, known]
  split
  · exact ⟨rfl, same, rfl⟩
  · split
    · exact ⟨rfl, same, rfl⟩
    · refine ⟨rfl, ?_, rfl⟩
      simp [viewed, published, like]

/-- A broker answers without a look at the messages it has. -/
theorem matches_answer (c : Call) (same : s.1.viewed view = s'.1.viewed view)
    (session : s.2 = s'.2) :
    Matches view (broker.answer c s) (broker.answer c s') := by
  cases c with
  | publish m => exact matches_publish rfl same session
  | connect who mode =>
    obtain ⟨ms, rfl, published⟩ := exists_published same session
    obtain ⟨b, session⟩ := s
    have access : accepts { b with published := ms } who = b.accepts who := rfl
    by_cases granted : b.accepts who = true
    · simp only [broker, connect, access, granted, if_true]
      refine ⟨rfl, ?_, rfl⟩
      simp [viewed, published]
    · simp only [broker, connect, access, granted]
      refine ⟨rfl, ?_, rfl⟩
      simp [viewed, published]
  | declare spec =>
    obtain ⟨ms, rfl, published⟩ := exists_published same session
    obtain ⟨b, _ | session⟩ := s
    · exact ⟨rfl, same, rfl⟩
    have conflict : conflict? { b with published := ms } spec = b.conflict? spec := rfl
    simp only [broker, declare_eq, conflict]
    split
    · exact ⟨rfl, same, rfl⟩
    · refine ⟨rfl, ?_, rfl⟩
      simp [viewed, setExchange, published]
  | close =>
    obtain ⟨ms, rfl, published⟩ := exists_published same session
    obtain ⟨b, _ | session⟩ := s
    · exact ⟨rfl, same, rfl⟩
    refine ⟨rfl, ?_, rfl⟩
    simp [broker, viewed, close, published]

end MemoryBroker

/-! ### Related programs -/

section
variable (view : MessageId → MessageId) (t t' : SecretTable) (b : MemoryBroker) {α β : Type}

/-- Programs that differ, where the tables have secrets that do, in nothing that shows. -/
inductive Program.Veiled (R : α → β → Prop) : Program α → Program β → Prop
  | done {a : α} {a' : β} (related : R a a') : Veiled R (.done a) (.done a')
  | say (line : LogLine) {next : Program α} {next' : Program β} (rest : Veiled R next next') :
      Veiled R (.say line next) (.say line next')
  -- each goes on from the secret of its own table
  | lookup (key : String) {next : Except Failure String → Program α}
      {next' : Except Failure String → Program β}
      (rest : Veiled R (next (t.lookup key)) (next' (t'.lookup key))) :
      Veiled R (.ask (.lookup key) next) (.ask (.lookup key) next')
  | connect {who who' : Credentials} (mode : PublishMode) {next : Except Failure Unit → Program α}
      {next' : Except Failure Unit → Program β} (name : who.username = who'.username)
      (alike : b.accepts who = b.accepts who')
      (rest : ∀ reply, Veiled R (next reply) (next' reply)) :
      Veiled R (.ask (.call (.connect who mode)) next) (.ask (.call (.connect who' mode)) next')
  | publish {m m' : Message} {next : Except Failure Bool → Program α}
      {next' : Except Failure Bool → Program β}
      (like : m.viewed view = m'.viewed view)
      (rest : ∀ reply, Veiled R (next reply) (next' reply)) :
      Veiled R (.ask (.call (.publish m)) next) (.ask (.call (.publish m')) next')
  | call (c : Call) {next : Except Failure c.Answer → Program α}
      {next' : Except Failure c.Answer → Program β}
      (rest : ∀ reply, Veiled R (next reply) (next' reply)) :
      Veiled R (.ask (.call c) next) (.ask (.call c) next')

/-- Runs that look alike. -/
structure Ran.LooksLike (R : α → β → Prop)
    (r : Ran α SecretTable (MemoryBroker × Option MemorySession))
    (r' : Ran β SecretTable (MemoryBroker × Option MemorySession)) : Prop where
  lines : r.lines = r'.lines
  keys : r.keys = r'.keys
  lookups : r.secrets.lookups = r'.secrets.lookups
  result : R r.result r'.result
  broker : r.broker.1.viewed view = r'.broker.1.viewed view
  session : r.broker.2 = r'.broker.2

end

section
variable {view : MessageId → MessageId} {t t' : SecretTable} {b : MemoryBroker} {α β γ δ : Type}

theorem Ran.LooksLike.after {R : α → β → Prop}
    {r : Ran α SecretTable (MemoryBroker × Option MemorySession)}
    {r' : Ran β SecretTable (MemoryBroker × Option MemorySession)} (h : LooksLike view R r r')
    {es es' : List Event} (lines : es.filterMap Event.line? = es'.filterMap Event.line?)
    (keys : es.filterMap Event.key? = es'.filterMap Event.key?) :
    LooksLike view R (r.after es) (r'.after es') where
  lines := by simpa [Ran.lines, Ran.events_after, lines] using h.lines
  keys := by simpa [Ran.keys, Ran.events_after, keys] using h.keys
  lookups := h.lookups
  result := h.result
  broker := h.broker
  session := h.session

/-- States of two runs that look alike: the tables have the secrets of these two, and the brokers
accept what this one accepts. -/
structure Facing (view : MessageId → MessageId) (t t' : SecretTable) (b : MemoryBroker)
    (u u' : SecretTable) (s s' : MemoryBroker × Option MemorySession) : Prop where
  left : u.secrets = t.secrets
  right : u'.secrets = t'.secrets
  lookups : u.lookups = u'.lookups
  accepted : s.1.accepted = b.accepted
  broker : s.1.viewed view = s'.1.viewed view
  session : s.2 = s'.2

namespace Facing

variable {u u' : SecretTable} {s s' : MemoryBroker × Option MemorySession}

theorem asked (h : Facing view t t' b u u' s s') (key : String) :
    Facing view t t' b (SecretTable.source.lookup key u).state
      (SecretTable.source.lookup key u').state s s' :=
  { h with lookups := congrArg (· ++ [key]) h.lookups }

theorem answered (h : Facing view t t' b u u' s s') {c c' : Call}
    (broker : (MemoryBroker.broker.answer c s).state.1.viewed view =
      (MemoryBroker.broker.answer c' s').state.1.viewed view)
    (session : (MemoryBroker.broker.answer c s).state.2 =
      (MemoryBroker.broker.answer c' s').state.2) :
    Facing view t t' b u u' (MemoryBroker.broker.answer c s).state
      (MemoryBroker.broker.answer c' s').state :=
  { h with accepted := (MemoryBroker.accepted_answer c s).trans h.accepted, broker, session }

end Facing

/-- Calls look alike if the runs do that go on from their answers. -/
theorem looksLike_call {R : α → β → Prop} {c c' : Call} {next : Except Failure c.Answer → Program α}
    {next' : Except Failure c'.Answer → Program β} {u u' : SecretTable}
    {s s' : MemoryBroker × Option MemorySession}
    (rest : ((next (MemoryBroker.broker.answer c s).result).run SecretTable.source
        MemoryBroker.broker u
        (MemoryBroker.broker.answer c s).state).LooksLike view R
      ((next' (MemoryBroker.broker.answer c' s').result).run SecretTable.source
        MemoryBroker.broker u'
        (MemoryBroker.broker.answer c' s').state)) :
    ((Program.ask (.call c) next).run SecretTable.source MemoryBroker.broker u s).LooksLike view R
      ((Program.ask (.call c') next').run SecretTable.source MemoryBroker.broker u' s') := by
  rw [Program.run_call, Program.run_call, MemoryBroker.lines_answer, MemoryBroker.lines_answer]
  exact rest.after rfl rfl

namespace Program.Veiled

variable {R : α → β → Prop} {Q : γ → δ → Prop}

theorem bind {p : Program α} {p' : Program β} (h : Veiled view t t' b R p p') {f : α → Program γ}
    {f' : β → Program δ} (rest : ∀ a a', R a a' → Veiled view t t' b Q (f a) (f' a')) :
    Veiled view t t' b Q (p.bind f) (p'.bind f') := by
  induction h with
  | done related => exact rest _ _ related
  | say line _ ih => exact .say line ih
  | lookup key _ ih => exact .lookup key ih
  | connect mode name alike _ ih => exact .connect mode name alike ih
  | publish like _ ih => exact .publish like ih
  | call c _ ih => exact .call c ih

/-- Related programs have runs that look alike. The induction is on the relation, with the states
facing each other. -/
theorem run {p : Program α} {p' : Program β} (h : Veiled view t t' b R p p') {u u' : SecretTable}
    {s s' : MemoryBroker × Option MemorySession} (facing : Facing view t t' b u u' s s') :
    (p.run SecretTable.source MemoryBroker.broker u s).LooksLike view R
      (p'.run SecretTable.source MemoryBroker.broker u' s') := by
  induction h generalizing u u' s s' with
  | done related => exact ⟨rfl, rfl, facing.lookups, related, facing.broker, facing.session⟩
  | say line _ ih => exact (ih facing).after rfl rfl
  | lookup key _ ih =>
    have left : (SecretTable.source.lookup key u).result = t.lookup key := by
      simp [SecretTable.source, SecretTable.lookup, SecretTable.get?, facing.left]
    have right : (SecretTable.source.lookup key u').result = t'.lookup key := by
      simp [SecretTable.source, SecretTable.lookup, SecretTable.get?, facing.right]
    rw [Program.run_lookup, Program.run_lookup, left, right]
    exact (ih (facing.asked key)).after rfl rfl
  | @connect who who' mode next next' name alike _ ih =>
    have access : s.1.accepts who = s.1.accepts who' := by
      simpa only [MemoryBroker.accepts, facing.accepted] using alike
    have same := MemoryBroker.matches_answer (.connect who' mode) facing.broker facing.session
    rw [← MemoryBroker.answer_connect name access] at same
    refine looksLike_call ?_
    rw [← same.result]
    exact ih _ (facing.answered same.broker same.session)
  | publish like _ ih =>
    have same := MemoryBroker.matches_publish like facing.broker facing.session
    refine looksLike_call ?_
    rw [← same.result]
    exact ih _ (facing.answered same.broker same.session)
  | call c _ ih =>
    have same := MemoryBroker.matches_answer c facing.broker facing.session
    refine looksLike_call ?_
    rw [← same.result]
    exact ih _ (facing.answered same.broker same.session)

end Program.Veiled

/-! ### Deliveries -/

namespace Delivery

theorem announce_veiled {m m' : Message} (like : m.viewed view = m'.viewed view) :
    Program.Veiled view t t' b Eq (announce m) (announce m') := by
  have exchange : m.exchange = m'.exchange := congrArg (·.exchange) like
  rw [announce, announce, exchange]
  refine .call _ fun reply => ?_
  cases reply with
  | error f => exact .done rfl
  | ok _ =>
    refine .say _ (.publish like fun reply => ?_)
    cases reply with
    | error f => exact .done rfl
    | ok confirmed => exact .say _ (.done rfl)

theorem closing_veiled {R : Except Failure α → Except Failure β → Prop} {next : Step α}
    {next' : Step β} (rest : Program.Veiled view t t' b R next next') :
    Program.Veiled view t t' b R (closing next) (closing next') := by
  refine .call .close fun reply => ?_
  cases reply with
  | error f => exact .say _ rest
  | ok _ => exact rest

/-- Outcomes that are the same, the identifier of the message aside. -/
def SameOutcome (view : MessageId → MessageId) (r r' : Except Failure DeliveryReport) : Prop :=
  r.map (DeliveryReport.viewed view) = r'.map (DeliveryReport.viewed view)

theorem transact_veiled (s : Settings) (change : KeyChange) {id id' : MessageId}
    (blind : view id = view id') {who who' : Credentials} (name : who.username = who'.username)
    (alike : b.accepts who = b.accepts who') :
    Program.Veiled view t t' b (SameOutcome view) (transact s change id who)
      (transact s change id' who') := by
  refine .connect _ name alike fun reply => ?_
  cases reply with
  | error f => exact .done rfl
  | ok _ =>
    have like : (announcement s change id).viewed view =
        (announcement s change id').viewed view := by
      simp [announcement, Message.persistentJson, Message.viewed, blind]
    refine (announce_veiled like).bind ?_
    rintro outcome _ rfl
    refine closing_veiled (.done ?_)
    cases outcome with
    | error f => rfl
    | ok confirmed => simp [SameOutcome, Except.map, report, DeliveryReport.viewed, blind]

/-- Deliveries of one input are related, where the tables have the same username and passwords that
the broker treats alike. -/
theorem forward_veiled (s : Settings) (input : List UInt8) {id id' : MessageId}
    (blind : view id = view id') {word word' : String}
    (username : t.lookup s.secrets.usernameKey = t'.lookup s.secrets.usernameKey)
    (password : t.lookup s.secrets.passwordKey = .ok word)
    (password' : t'.lookup s.secrets.passwordKey = .ok word')
    (alike : ∀ name, t.lookup s.secrets.usernameKey = .ok name →
      b.accepts ⟨name, word⟩ = b.accepts ⟨name, word'⟩) :
    Program.Veiled view t t' b (SameOutcome view) (forward s input id) (forward s input id') := by
  rw [forward, forward]
  cases s.check with
  | error f => exact .done rfl
  | ok _ =>
    cases KeyChange.ofWatchJson input with
    | error f => exact .done rfl
    | ok change =>
      dsimp only
      rw [forwardChange_eq, forwardChange_eq, fetchCredentials_andThen, fetchCredentials_andThen]
      refine .say _ (.lookup _ ?_)
      rw [← username]
      cases found : t.lookup s.secrets.usernameKey with
      | error f => exact .done rfl
      | ok name =>
        refine .lookup _ ?_
        rw [password, password']
        exact .say _ (transact_veiled s change blind rfl (alike name found))

/-- The password does not show. Two deliveries of one input with passwords that the broker treats
alike write the same lines, look up the same keys, end in the same report or failure and leave the
same broker, for every view of identifiers that takes those of the two messages for one. Nor does
the password show in credentials. -/
theorem forward_hides_password (s : Settings) (input : List UInt8) {id id' : MessageId}
    (blind : view id = view id')
    (t : SecretTable) (b : MemoryBroker) {word word' : String}
    (solid : Blank.isBlankText word = false)
    (solid' : Blank.isBlankText word' = false)
    (alike : ∀ name, t.lookup s.secrets.usernameKey = .ok name →
      b.accepts ⟨name, Blank.trim word⟩ = b.accepts ⟨name, Blank.trim word'⟩) :
    ((forward s input id).run SecretTable.source MemoryBroker.broker
        (t.insert s.secrets.passwordKey word)
        (b, none)).LooksLike view (SameOutcome view)
      ((forward s input id').run SecretTable.source MemoryBroker.broker
        (t.insert s.secrets.passwordKey word') (b, none)) ∧
    ∀ name password password', Credentials.debug ⟨name, password⟩ =
      Credentials.debug ⟨name, password'⟩ := by
  have password {word : String} (solid : Blank.isBlankText word = false) :
      (t.insert s.secrets.passwordKey word).lookup s.secrets.passwordKey =
        .ok (Blank.trim word) := by
    rw [SecretTable.lookup_insert, if_pos rfl, SecretTable.resolve_eq_ok]
    exact ⟨solid, rfl⟩
  have username (word : String) :
      (t.insert s.secrets.passwordKey word).lookup s.secrets.usernameKey =
      t.lookup s.secrets.usernameKey := by
    rw [SecretTable.lookup_insert, if_neg s.secrets.usernameKey_ne_passwordKey]
  have same := (username word).trans (username word').symm
  refine ⟨Program.Veiled.run
    (forward_veiled s input blind same (password solid) (password solid') ?_)
    ⟨rfl, rfl, rfl, rfl, rfl, rfl⟩, fun _ _ _ => rfl⟩
  intro name found
  exact alike name ((username word).symm.trans found)

/-- Two wrong passwords, and a broker that refuses both. -/
theorem forward_hides_password_refused :
    let s : Settings := {}
    let b : MemoryBroker := { accepted := some ⟨"forwarder", "right"⟩ }
    let input := Utf8.bytes "\x7b\"Key\":\"k\",\"Value\":\"aGk=\"\x7d"
    let view (_ : MessageId) : MessageId := .timeOrdered 0 0
    let run (word : String) (serial : Nat) :=
      (forward s input (.timeOrdered 0 serial)).run SecretTable.source
      MemoryBroker.broker (SecretTable.ofCredentials s.secrets "forwarder" word) (b, none)
    (run "wrong" 1).LooksLike view (SameOutcome view) (run "guessed" 2) ∧
    (run "wrong" 1).result = .error
      (.connection "ACCESS_REFUSED - login was refused for user forwarder") := by
  intro s b input view run
  have blind : view (.timeOrdered 0 1) = view (.timeOrdered 0 2) := rfl
  have solid : Blank.isBlankText "wrong" = false ∧ Blank.isBlankText "guessed" = false := by decide
  have trimmed : Blank.trim "wrong" = "wrong" ∧ Blank.trim "guessed" = "guessed" := by decide
  refine ⟨(forward_hides_password s input blind
    (({} : SecretTable).insert s.secrets.usernameKey "forwarder") b
    solid.1 solid.2 ?_).1, by decide +kernel⟩
  intro name found
  simp [b, MemoryBroker.accepts, trimmed]

end Delivery
end

end KeyRelay
