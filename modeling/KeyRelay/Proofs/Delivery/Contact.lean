import KeyRelay.Handler
import KeyRelay.Proofs.Amqp.Steps
import KeyRelay.Proofs.Delivery.InMemory
import KeyRelay.Proofs.Delivery.Input
import KeyRelay.Proofs.Secret

/-!
What a failure tells of how far a delivery came. The kinds that count as before the broker arise in
the preparation, which makes no call, and the others in the transaction, which begins by connecting.
-/

namespace KeyRelay

/-- The keys that were looked up by the time of the failure. -/
def Failure.LookedUp (s : SecretSettings) (keys : List String) : Failure → Prop
  | .config _ | .input _ | .decode _ => keys = []
  | .secretLookup key _ =>
    (keys = [s.usernameKey] ∨ keys = [s.usernameKey, s.passwordKey]) ∧ keys.getLast? = some key
  | _ => keys = [s.usernameKey, s.passwordKey]

theorem Failure.lookedUp_of_late {s : SecretSettings} {f : Failure}
    (late : f.isPreConnect = false) :
    f.LookedUp s [s.usernameKey, s.passwordKey] := by
  cases f <;> first | rfl | cases late

theorem Failure.LookedUp.subset {s : SecretSettings} {keys : List String} {f : Failure}
    (h : f.LookedUp s keys) :
    keys ⊆ [s.usernameKey, s.passwordKey] := by
  cases f with
  | config | input | decode =>
    rw [show keys = [] from h]
    exact List.nil_subset _
  | secretLookup key reason =>
    rcases h.1 with rfl | rfl
    · exact List.cons_subset_cons _ (List.nil_subset _)
    · exact List.Subset.refl _
  | connection | exchangeConflict | publishNotConfirmed | channel =>
    rw [show keys = _ from h]
    exact List.Subset.refl _

namespace Delivery

variable {σ τ : Type} {source : SecretSource σ} {broker : Broker τ}

theorem Preparation.lookedUp {s : Settings} {input : List UInt8} {secrets after : σ}
    {acts : List Event} {f : Failure} (h : Preparation source s input secrets acts (.error f) after)
    (blames : source.Blames) :
    f.isPreConnect = true ∧ f.LookedUp s.secrets (acts.filterMap Event.key?) := by
  cases h with
  | misconfigured check => exact ⟨rfl, rfl⟩
  | @undecoded fault check decoded => cases fault <;> exact ⟨rfl, rfl⟩
  | noUsername check decoded username =>
    obtain ⟨reason, rfl⟩ := blames s.secrets.usernameKey secrets f (by rw [username])
    exact ⟨rfl, .inl rfl, rfl⟩
  | @noPassword _ _ _ _ _ between _ check decoded username password =>
    obtain ⟨reason, rfl⟩ := blames s.secrets.passwordKey between f (by rw [password])
    exact ⟨rfl, .inr rfl, rfl⟩

theorem Preparation.keys {s : Settings} {input : List UInt8} {secrets after : σ} {acts : List Event}
    {change : KeyChange} {who : Credentials}
    (h : Preparation source s input secrets acts (.ok (change, who)) after) :
    acts.filterMap Event.key? = [s.secrets.usernameKey, s.secrets.passwordKey] := by
  cases h
  rfl

theorem keys_closingActs (reply : Except Failure Unit) :
    (closingActs reply).filterMap Event.key? = [] := by
  cases reply <;> rfl

theorem Transaction.keys {who : Credentials} {mode : PublishMode} {m : Message} {t t' : τ}
    {acts : List Event} {outcome : Except Failure Bool}
    (h : Transaction broker who mode m t acts outcome t') :
    acts.filterMap Event.key? = [] := by
  cases h with
  | refused connect => rfl
  | _ =>
    rw [List.filterMap_append, keys_closingActs]
    rfl

/-- A delivery ends before the broker, or it has looked both secrets up and goes on to a
transaction. -/
theorem forward_stage (blames : source.Blames) (broker : Broker τ) (s : Settings)
    (input : List UInt8) (id : MessageId) (secrets : σ) (t : τ) :
    let r := (forward s input id).run source broker secrets t
    (∃ f, r.result = .error f ∧ f.isPreConnect = true ∧ f.LookedUp s.secrets r.keys ∧
      r.broker = t) ∨
    (∃ change who acts outcome, s.check = .ok () ∧
      Transaction broker who s.publishMode (announcement s change id) t acts outcome r.broker ∧
      r.keys = [s.secrets.usernameKey, s.secrets.passwordKey] ∧
        r.turns = acts.filterMap Event.turn? ∧
      r.result = outcome.map (report s change id)) := by
  intro r
  rw [Ran.keys_eq, Ran.turns_eq]
  rcases forward_course source broker s input id secrets t with
    ⟨f, prepared, result, same⟩ |
      ⟨change, who, before, acts, outcome, prepared, transaction, split, result⟩
  · obtain ⟨early, lookedUp⟩ := prepared.lookedUp blames
    exact .inl ⟨f, result, early, lookedUp, same⟩
  · have check : s.check = .ok () := by
      cases prepared with
      | ready check => exact check
    refine .inr ⟨change, who, acts, outcome, check, transaction, ?_, ?_, result⟩
    · rw [show r.acts = _ from split, List.filterMap_append, prepared.keys, transaction.keys,
        List.append_nil]
    · rw [show r.acts = _ from split, List.filterMap_append, prepared.turns, List.nil_append]

end Delivery

/-! ### The broker in memory -/

theorem MemoryBroker.Service.attempts {b b' : MemoryBroker} {who : Credentials} {mode : PublishMode}
    {m : Message} {outcome : Except Failure Bool} (h : Service b who mode m outcome b') :
    b'.attempts = b.attempts + 1 := by
  cases h <;> rfl

theorem MemoryBroker.Service.late {b b' : MemoryBroker} {who : Credentials} {mode : PublishMode}
    {m : Message} {f : Failure} (h : Service b who mode m (.error f) b') :
    f.isPreConnect = false := by
  cases h <;> rfl

/-! ### Links -/

namespace Amqp

open Delivery (forward)

variable {σ : Type} {server : Server σ}

theorem Reports.late {exchange : String} {x : Setback} {f : Failure} (h : Reports exchange x f) :
    f.isPreConnect = false := by
  cases h <;> rfl

theorem Client.Session.late {c : Client} {who : Credentials} {mode : PublishMode} {m : Message}
    {s₀ : σ} {f : Failure} {sent : List Method}
    (h : c.Session server who mode m s₀ (.error f) sent) :
    f.isPreConnect = false := by
  cases h with
  | unreachable down => rfl
  | halted up walk reports => exact reports.late

/-- A delivery over a link fails before the connection, with the link as it was, or attempts one and
fails of something later, if at all. What comes of the attempt is that the server gets the header,
or that the system tells why there is no connection. -/
theorem forward_approached {ς : Type} {source : SecretSource ς} (blames : source.Blames)
    (server : Server σ) (s : Settings) (input : List UInt8) (id : MessageId) (secrets : ς) (s₀ : σ)
    (now : Nat) :
    let r := (forward s input id).run source ((Client.of s now).broker server) secrets
      { server := s₀ }
    (∃ f, r.result = .error f ∧ f.isPreConnect = true ∧ r.broker = { server := s₀ }) ∨
    r.broker.Approached ∧ (∀ f, r.result = .error f → f.isPreConnect = false) ∧
      match server.unreachable s₀ with
      | none => r.broker.sent.head? = some .header
      | some text =>
        r.broker.sent = [] ∧ r.result = .error (.connection ("IO error: " ++ text)) := by
  intro r
  rcases Delivery.forward_stage blames ((Client.of s now).broker server) s input id secrets
      { server := s₀ } with
    ⟨f, result, early, _, same⟩ | ⟨change, who, acts, outcome, check, transaction, _, turns, result⟩
  · exact .inl ⟨f, result, early, same⟩
  have session := Client.session_of_transaction (Client.limited_of_check check now) transaction
  rw [show r.result = _ from result]
  refine .inr ⟨?_, ?_, ?_⟩
  · obtain ⟨reply, later, calls⟩ := transaction.connects
    refine (Client.approached_run _ server source _ secrets _).2
      (.inr ⟨⟨.connect who s.publishMode, reply⟩, ?_, rfl⟩)
    rw [show Ran.turns _ = _ from turns, calls]
    exact List.mem_cons_self
  · cases outcome with
    | ok acked => simp [Except.map]
    | error f =>
      rintro _ ⟨⟩
      exact session.late
  · have approach := session.approach
    cases down : server.unreachable s₀ with
    | none =>
      rw [down] at approach
      exact approach
    | some text =>
      rw [down] at approach
      obtain ⟨sent, rfl⟩ := approach
      exact ⟨sent, rfl⟩

/-- The same of the handler, whose failures to read the input come before the connection, too. -/
theorem handler_approached (server : Server σ) (run : ToolRunner) (s : Settings)
    (stream : InputStream) (id : MessageId) (started : List (Invocation × UInt64)) (s₀ : σ)
    (now : Nat) :
    let r := Handler.run s stream id (s.secrets.toolSource run)
      ((Client.of s now).broker server) started { server := s₀ }
    (∃ trouble, r.result = .error trouble ∧ trouble.brokerContacted = false ∧
      r.broker = { server := s₀ }) ∨
    r.broker.Approached ∧ (∀ trouble, r.result = .error trouble → trouble.brokerContacted = true) ∧
      match server.unreachable s₀ with
      | none => r.broker.sent.head? = some .header
      | some text => r.broker.sent = [] ∧
          r.result = .error ⟨["forwarding key change"],
            .failure (.connection ("IO error: " ++ text))⟩ := by
  rw [Handler.run]
  rcases read : stream.readAll with f | payload
  · have early : f.isPreConnect = true := by
      obtain ⟨reason, rfl⟩ := InputStream.input_of_readAll read
      rfl
    exact .inl ⟨_, rfl, congrArg not early, rfl⟩
  dsimp only
  rcases forward_approached (s.secrets.toolSource_blames run) server s payload id started
      s₀ now with
    ⟨f, result, early, same⟩ | ⟨approached, late, approach⟩
  · refine .inl ⟨(Trouble.ofFailure f).within "forwarding key change", ?_, congrArg not early, same⟩
    rw [result]
    rfl
  · refine .inr ⟨approached, ?_, ?_⟩
    · generalize ((forward s payload id).run _ _ _ _).result = outcome at late ⊢
      rintro trouble failed
      cases outcome with
      | ok report => cases failed
      | error f =>
        cases failed
        exact congrArg not (late f rfl)
    · cases down : server.unreachable s₀ with
      | none =>
        rw [down] at approach
        exact approach
      | some text =>
        rw [down] at approach
        obtain ⟨sent, result⟩ := approach
        refine ⟨sent, ?_⟩
        rw [result]
        rfl

end Amqp

open Amqp (Server Client Link)

/-- A failure counts as before the broker exactly where no connection was attempted. With the broker
in memory it is then as it was, and its count of attempts is one more after any other outcome; the
keys looked up are those that the outcome tells of. The same of a run of the handler over a link:
the broker counts as contacted exactly where a connection was attempted, which is where a server
that can be reached has got the header, and where the run fails of what the system says if none
can. -/
theorem forward_tells_contact (s : Settings) (id : MessageId) :
    (∀ (input : List UInt8) (t : SecretTable) (b : MemoryBroker),
      let r := (Delivery.forward s input id).run SecretTable.source MemoryBroker.broker t (b, none)
      r.secrets = { t with lookups := t.lookups ++ r.keys } ∧
      match r.result with
      | .error f =>
        f.LookedUp s.secrets r.keys ∧
        (f.isPreConnect = true ↔ r.broker.1.attempts = b.attempts) ∧
        (f.isPreConnect = true ↔ r.broker = (b, none)) ∧
        (f.isPreConnect = false ↔ r.broker.1.attempts = b.attempts + 1)
      | .ok _ =>
        r.keys = [s.secrets.usernameKey, s.secrets.passwordKey] ∧
          r.broker.1.attempts = b.attempts + 1) ∧
    ∀ (σ : Type) (server : Server σ) (run : ToolRunner) (stream : InputStream)
      (started : List (Invocation × UInt64)) (s₀ : σ) (now : Nat),
      let r := Handler.run s stream id (s.secrets.toolSource run)
        ((Client.of s now).broker server) started { server := s₀ }
      (match r.result with
        | .error trouble =>
          (trouble.brokerContacted = false ↔ ¬r.broker.Approached) ∧
          (trouble.brokerContacted = false ↔ r.broker = { server := s₀ })
        | .ok _ => r.broker.Approached) ∧
      match server.unreachable s₀ with
      | none => r.broker.Approached ↔ r.broker.sent.head? = some .header
      | some text => r.broker.sent = [] ∧ (r.broker.Approached ↔
          ∃ contexts, r.result = .error ⟨contexts,
            .failure (.connection ("IO error: " ++ text))⟩) := by
  constructor
  -- the broker in memory
  · intro input t b r
    refine ⟨SecretTable.secrets_run _ _ t _, ?_⟩
    rcases Delivery.forward_stage SecretTable.source_blames MemoryBroker.broker s input id t
        (b, none) with
      ⟨f, result, early, lookedUp, same⟩ |
        ⟨change, who, acts, outcome, check, transaction, keys, turns, result⟩
    · rw [show r.result = _ from result, show r.broker = _ from same]
      exact ⟨lookedUp, by simp [early], by simp [early], by simp [early]⟩
    · have service := (Delivery.Transaction.service transaction).1
      have attempts : r.broker.1.attempts = b.attempts + 1 := service.attempts
      rw [show r.result = _ from result, show r.keys = _ from keys]
      cases outcome with
      | ok acked => exact ⟨rfl, attempts⟩
      | error f =>
        have late := service.late
        have moved : r.broker ≠ (b, none) := fun same => by
          rw [same] at attempts
          exact absurd attempts (Nat.ne_of_lt (Nat.lt_succ_self _))
        exact ⟨Failure.lookedUp_of_late late,
          by simp [late, attempts], by simp [late, moved], by simp [late, attempts]⟩
  -- the handler over a link
  · intro σ server run stream started s₀ now r
    rcases Amqp.handler_approached server run s stream id started s₀ now with
      ⟨trouble, result, early, same⟩ | ⟨approached, late, approach⟩
    · have quiet := Link.not_approached s₀
      rw [show r.result = _ from result, show r.broker = _ from same]
      refine ⟨⟨iff_of_true early quiet, iff_of_true early rfl⟩, ?_⟩
      cases server.unreachable s₀ with
      | none => exact iff_of_false quiet nofun
      | some text =>
        refine ⟨rfl, iff_of_false quiet ?_⟩
        rintro ⟨contexts, ⟨⟩⟩
        cases early
    · change r.broker.Approached at approached
      have moved : r.broker ≠ { server := s₀ } :=
        fun same => Link.not_approached s₀ (same ▸ approached)
      constructor
      · rcases result : r.result with trouble | report
        · have contacted := late trouble result
          exact ⟨by simp [contacted, approached], by simp [contacted, moved]⟩
        · exact approached
      · cases down : server.unreachable s₀ with
        | none =>
          rw [down] at approach
          exact iff_of_true approached approach
        | some text =>
          rw [down] at approach
          exact ⟨approach.1, iff_of_true approached ⟨_, approach.2⟩⟩

end KeyRelay
