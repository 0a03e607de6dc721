import KeyRelay.Broker.Memory
import KeyRelay.Proofs.Delivery.Protocol

/-!
What a call does to a broker in memory. `MemoryBroker.clash?` is all of the exchange table that a
delivery can notice: what stands in the way of a durable fanout exchange. Two brokers are `Alike`
where they accept the same credentials, refuse the same publishes and have the same clashes; alike
brokers give a delivery the same replies, and the calls of deliveries lead from a broker to one
alike.
-/

namespace KeyRelay

namespace MemoryBroker

/-! ### The exchange table -/

theorem exchange?_setExchange (b : MemoryBroker) (spec : ExchangeSpec) (name : String) :
    (b.setExchange spec).exchange? name = if name = spec.name then some spec
      else b.exchange? name := by
  by_cases h : name = spec.name
  · simp [exchange?, setExchange, h]
  · have other : (spec.name = name) = False := by simp [Ne.symm h]
    simp only [exchange?, setExchange, List.find?_cons, other, decide_false,
      List.find?_filter, if_neg h]
    congr 2
    funext e
    by_cases he : e.1 = name <;> simp [he, h]

/-- The exchange that stands in the way of a declaration. -/
def conflict? (b : MemoryBroker) (spec : ExchangeSpec) : Option ExchangeSpec :=
  (b.exchange? spec.name).filter (· ≠ spec)

theorem conflict?_eq_none {b : MemoryBroker} {spec : ExchangeSpec} :
    b.conflict? spec = none ↔ b.exchange? spec.name = none ∨ b.exchange? spec.name = some spec := by
  cases h : b.exchange? spec.name <;> simp [conflict?, h, Option.filter]

/-- An exchange is declared wherever nothing stands in its way. -/
theorem declare_eq (b : MemoryBroker) (spec : ExchangeSpec) :
    b.declare spec =
      match b.conflict? spec with
      | some other => (.error (.exchangeConflict spec.name ("declared as " ++ other.debug)), b)
      | none => (.ok (), { b.setExchange spec with declarations := b.declarations + 1 }) := by
  cases stored : b.exchange? spec.name with
  | none => simp [declare, conflict?, stored]
  | some other =>
    by_cases same : other = spec
    · simp [declare, conflict?, stored, same, Option.filter]
    · simp [declare, conflict?, stored, same, Option.filter]

/-- The exchange that stands in the way of a durable fanout exchange of this name. -/
def clash? (b : MemoryBroker) (name : String) : Option ExchangeSpec :=
  (b.exchange? name).filter fun spec => spec ≠ .durableFanout name

theorem clash?_eq_some {b : MemoryBroker} {name : String} {spec : ExchangeSpec} :
    b.clash? name = some spec ↔ b.exchange? name = some spec ∧ spec ≠ .durableFanout name := by
  simp [clash?, Option.filter_eq_some_iff]

theorem clash?_eq_none {b : MemoryBroker} {name : String} :
    b.clash? name = none ↔ b.exchange? name = none ∨
    b.exchange? name = some (.durableFanout name) :=
  conflict?_eq_none

theorem clash?_setExchange {b : MemoryBroker} {name : String} (free : b.clash? name = none)
    (other : String) :
    (b.setExchange (.durableFanout name)).clash? other = b.clash? other := by
  by_cases h : other = name
  · subst h
    rw [free, clash?_eq_none, exchange?_setExchange]
    exact .inr (if_pos rfl)
  · have same : (b.setExchange (.durableFanout name)).exchange? other = b.exchange? other := by
      rw [exchange?_setExchange]
      exact if_neg h
    rw [clash?, same, clash?]

/-- A durable fanout exchange is declared wherever nothing stands in its way. -/
theorem declare_durableFanout (b : MemoryBroker) (name : String) :
    b.declare (.durableFanout name) =
      match b.clash? name with
      | some spec => (.error (.exchangeConflict name ("declared as " ++ spec.debug)), b)
      | none =>
        (.ok (), { b.setExchange (.durableFanout name) with declarations := b.declarations + 1 }) :=
  declare_eq b (.durableFanout name)

/-! ### Alike brokers -/

/-- Deliveries cannot tell the brokers apart before they publish. -/
structure Alike (a b : MemoryBroker) : Prop where
  accepted : a.accepted = b.accepted
  nacking : a.nacking = b.nacking
  clash : ∀ name, a.clash? name = b.clash? name

theorem Alike.refl (b : MemoryBroker) : Alike b b :=
  ⟨rfl, rfl, fun _ => rfl⟩

theorem Alike.symm {a b : MemoryBroker} (h : Alike a b) : Alike b a :=
  ⟨h.accepted.symm, h.nacking.symm, fun name => (h.clash name).symm⟩

theorem Alike.trans {a b c : MemoryBroker} (h : Alike a b) (h' : Alike b c) : Alike a c :=
  ⟨h.accepted.trans h'.accepted, h.nacking.trans h'.nacking, fun name =>
    (h.clash name).trans (h'.clash name)⟩

theorem Alike.accepts {a b : MemoryBroker} (h : Alike a b) (who : Credentials) :
    a.accepts who = b.accepts who := by
  simp only [MemoryBroker.accepts, h.accepted]

/-! ### Answers -/

/-- What a delivery asks for: of declares, that of a durable fanout exchange. -/
def IsPlain : Call → Prop
  | .declare spec => spec = .durableFanout spec.name
  | _ => True

/-- How a broker answers a call, with the session before and after. -/
inductive Effect (b : MemoryBroker) :
    Option MemorySession → (c : Call) → Except Failure c.Answer → MemoryBroker →
    Option MemorySession → Prop where
  | refused {session : Option MemorySession} {who : Credentials} {mode : PublishMode}
      (h : b.accepts who = false) :
      Effect b session (.connect who mode)
        (.error (.connection ("ACCESS_REFUSED - login was refused for user " ++ who.username)))
        { b with attempts := b.attempts + 1 } session
  | connected {session : Option MemorySession} {who : Credentials} {mode : PublishMode}
      (h : b.accepts who = true) :
      Effect b session (.connect who mode) (.ok ())
        { b with attempts := b.attempts + 1, openSessions := b.openSessions + 1 }
        (some ⟨mode.waitsForConfirm⟩)
  | clashing {session : MemorySession} {name : String} {spec : ExchangeSpec}
      (h : b.clash? name = some spec) :
      Effect b (some session) (.declare (.durableFanout name))
        (.error (.exchangeConflict name ("declared as " ++ spec.debug))) b (some session)
  | declared {session : MemorySession} {name : String} (h : b.clash? name = none) :
      Effect b (some session) (.declare (.durableFanout name)) (.ok ())
        { b.setExchange (.durableFanout name) with declarations := b.declarations + 1 }
        (some session)
  | unrouted {session : MemorySession} {m : Message} (h : b.exchange? m.exchange = none) :
      Effect b (some session) (.publish m)
        (.error (.channel ("NOT_FOUND - no exchange '" ++ m.exchange ++ "'"))) b (some session)
  | nacked {session : MemorySession} {m : Message} (h : (b.exchange? m.exchange).isSome)
      (nacking : b.nacking = true) (confirms : session.confirms = true) :
      Effect b (some session) (.publish m)
        (.error (.publishNotConfirmed "broker nacked the message"))
        b (some session)
  | dropped {session : MemorySession} {m : Message} (h : (b.exchange? m.exchange).isSome)
      (nacking : b.nacking = true) (confirms : session.confirms = false) :
      Effect b (some session) (.publish m) (.ok false) b (some session)
  | stored {session : MemorySession} {m : Message} (h : (b.exchange? m.exchange).isSome)
      (nacking : b.nacking = false) :
      Effect b (some session) (.publish m) (.ok session.confirms)
        { b with published := b.published ++ [m] } (some session)
  | closed {session : MemorySession} : Effect b (some session) .close (.ok ()) b.close none
  | unopened {c : Call} (h : c.kind ≠ .connect) : Effect b none c (.error noSession) b none

section
variable {b b' : MemoryBroker} {session session' : Option MemorySession} {c : Call}
  {reply : Except Failure c.Answer}

theorem Effect.answer (h : Effect b session c reply b' session') :
    broker.answer c (b, session) = ⟨reply, [], (b', session')⟩ := by
  cases h with
  | refused h => simp [broker, connect, h]
  | connected h => simp [broker, connect, h]
  | clashing h => simp only [broker, declare_durableFanout, h]
  | declared h => simp only [broker, declare_durableFanout, h]
  | unrouted h => simp [broker, publish, h]
  | nacked h nacking confirms =>
    simp [broker, publish, Option.isSome_iff_ne_none.1 h, nacking, confirms]
  | dropped h nacking confirms =>
    simp [broker, publish, Option.isSome_iff_ne_none.1 h, nacking, confirms]
  | stored h nacking => simp [broker, publish, Option.isSome_iff_ne_none.1 h, nacking]
  | closed => rfl
  | unopened h =>
    cases c with
    | connect who mode => exact absurd rfl h
    | declare spec => rfl
    | publish m => rfl
    | close => rfl

/-- Every answer to a delivery has one of these effects. -/
theorem exists_effect (b : MemoryBroker) (session : Option MemorySession) (plain : IsPlain c) :
    ∃ reply b' session', Effect b session c reply b' session' := by
  cases c with
  | connect who mode =>
    cases h : b.accepts who with
    | true => exact ⟨_, _, _, .connected h⟩
    | false => exact ⟨_, _, _, .refused h⟩
  | declare spec =>
    cases session with
    | none => exact ⟨_, _, _, .unopened (by simp)⟩
    | some session =>
      rw [show spec = _ from plain]
      cases h : b.clash? spec.name with
      | some other => exact ⟨_, _, _, .clashing h⟩
      | none => exact ⟨_, _, _, .declared h⟩
  | publish m =>
    cases session with
    | none => exact ⟨_, _, _, .unopened (by simp)⟩
    | some session =>
      cases h : b.exchange? m.exchange with
      | none => exact ⟨_, _, _, .unrouted h⟩
      | some spec =>
        have known : (b.exchange? m.exchange).isSome := by rw [h]; rfl
        cases nacking : b.nacking with
        | false => exact ⟨_, _, _, .stored known nacking⟩
        | true =>
          cases confirms : session.confirms with
          | true => exact ⟨_, _, _, .nacked known nacking confirms⟩
          | false => exact ⟨_, _, _, .dropped known nacking confirms⟩
  | close =>
    cases session with
    | none => exact ⟨_, _, _, .unopened (by simp)⟩
    | some session => exact ⟨_, _, _, .closed⟩

theorem effect_of_answer {lines : List LogLine}
    (h : broker.answer c (b, session) = ⟨reply, lines, (b', session')⟩) (plain : IsPlain c) :
    Effect b session c reply b' session' := by
  obtain ⟨_, _, _, effect⟩ := exists_effect b session plain
  rw [effect.answer] at h
  cases h
  exact effect

theorem Effect.attempts (h : Effect b session c reply b' session') :
    b'.attempts = b.attempts + if c.kind = .connect then 1 else 0 := by
  cases h with
  | unopened h => simp [h]
  | _ => rfl

theorem Effect.alike (h : Effect b session c reply b' session') : Alike b b' := by
  cases h with
  | declared h => exact ⟨rfl, rfl, fun other => (clash?_setExchange h other).symm⟩
  | _ => exact ⟨rfl, rfl, fun _ => rfl⟩

theorem Effect.published (h : Effect b session c reply b' session') :
    b'.published = b.published ++ if b.nacking then [] else (Turn.sent? ⟨c, reply⟩).toList := by
  cases h with
  | dropped h nacking confirms => simp [nacking]
  | stored h nacking => simp [nacking, Turn.sent?]
  | unopened h => cases c <;> simp [Turn.sent?]
  | declared h => simp [Turn.sent?, setExchange]
  | closed => simp [Turn.sent?, close]
  | _ => simp [Turn.sent?]

theorem Effect.exchange? (h : Effect b session c reply b' session') (name : String) :
    b'.exchange? name =
      if Turn.declared? ⟨c, reply⟩ = some name then some (.durableFanout name)
        else b.exchange? name := by
  cases h with
  | @declared _ other h =>
    have stored := exchange?_setExchange b (.durableFanout other) name
    by_cases e : other = name
    · subst e
      exact stored.trans ((if_pos rfl).trans (if_pos rfl).symm)
    · exact stored.trans ((if_neg (Ne.symm e)).trans (if_neg fun h => e (Option.some.inj h)).symm)
  | unopened h => cases c <;> simp [Turn.declared?]
  | _ => simp [Turn.declared?, MemoryBroker.exchange?, close]

/-- An exchange that is there stays. -/
theorem Effect.isSome_exchange? (h : Effect b session c reply b' session') {name : String}
    (known : (b.exchange? name).isSome) : (b'.exchange? name).isSome := by
  rw [h.exchange? name]
  split
  · rfl
  · exact known

/-- The open sessions, this one among them, are counted. -/
theorem Effect.openSessions (h : Effect b session c reply b' session')
    (fresh : c.kind = .connect → session = none) (counted : session.isSome → 0 < b.openSessions) :
    b'.openSessions + session.toList.length = b.openSessions + session'.toList.length := by
  cases h with
  | refused h => simp [fresh rfl]
  | connected h => simp [fresh rfl]
  | closed =>
    have := counted rfl
    simp only [close, Option.toList, List.length_singleton, List.length_nil]
    omega
  | _ => rfl

/-- Alike brokers answer alike, as long as they know the exchanges that are published to. -/
theorem Effect.transfer {a : MemoryBroker} (h : Effect b session c reply b' session')
    (alike : Alike b a)
    (known : ∀ m, c = .publish m → (b.exchange? m.exchange).isSome ∧
      (a.exchange? m.exchange).isSome) :
    ∃ a', Effect a session c reply a' session' := by
  cases h with
  | refused h => exact ⟨_, .refused (by rw [← alike.accepts, h])⟩
  | connected h => exact ⟨_, .connected (by rw [← alike.accepts, h])⟩
  | clashing h => exact ⟨_, .clashing (by rw [← alike.clash, h])⟩
  | declared h => exact ⟨_, .declared (by rw [← alike.clash, h])⟩
  | unrouted h =>
    have := (known _ rfl).1
    simp [h] at this
  | nacked _ nacking confirms =>
    exact ⟨_, .nacked (known _ rfl).2 (by rw [← alike.nacking, nacking]) confirms⟩
  | dropped _ nacking confirms =>
    exact ⟨_, .dropped (known _ rfl).2 (by rw [← alike.nacking, nacking]) confirms⟩
  | stored _ nacking => exact ⟨_, .stored (known _ rfl).2 (by rw [← alike.nacking, nacking])⟩
  | closed => exact ⟨_, .closed⟩
  | unopened h => exact ⟨_, .unopened h⟩

end

end MemoryBroker

end KeyRelay
