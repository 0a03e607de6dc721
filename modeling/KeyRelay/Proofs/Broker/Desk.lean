import KeyRelay.Broker.Desk
import KeyRelay.Proofs.Broker.Memory

/-!
The books of a broker in memory, over everything that can be done at a desk. `Turned` says once what
each step does. From it come `Filed` and `Counted`, which hold of the table and of the counters in
every state, and `Grows`, which says what stays: messages are only added, and an exchange keeps its
parameters unless it is put in place anew.
-/

namespace KeyRelay

namespace MemoryBroker

theorem isSome_exchange?_setExchange {b : MemoryBroker} {name : String}
    (known : (b.exchange? name).isSome) (spec : ExchangeSpec) :
    ((b.setExchange spec).exchange? name).isSome := by
  rw [exchange?_setExchange]
  split
  · rfl
  · exact known

/-- The table and the messages fit together. -/
structure Filed (b : MemoryBroker) : Prop where
  /-- Every exchange is stored under its own name. -/
  named : ∀ entry ∈ b.exchanges, entry.2.name = entry.1
  /-- Messages were published to exchanges that are there. -/
  routed : ∀ m ∈ b.published, (b.exchange? m.exchange).isSome

theorem Filed.setExchange {b : MemoryBroker} (h : b.Filed) (spec : ExchangeSpec) :
    (b.setExchange spec).Filed where
  named := by
    intro entry member
    rcases List.mem_cons.1 member with rfl | member
    · rfl
    · exact h.named entry (List.mem_filter.1 member).1
  routed := fun m member => isSome_exchange?_setExchange (h.routed m member) spec

theorem Filed.publish {b : MemoryBroker} (h : b.Filed) {m : Message}
    (known : (b.exchange? m.exchange).isSome) :
    Filed { b with published := b.published ++ [m] } where
  named := h.named
  routed := List.forall_mem_append.2 ⟨h.routed, List.forall_mem_singleton.2 known⟩

end MemoryBroker

/-! ### Steps -/

/-- The session that a step needs. -/
def DeskStep.session? : DeskStep → Option Nat
  | .declare n _ | .publish n _ | .close n | .drop n => some n
  | _ => none

namespace Desk

/-- What a step does to a desk, and what comes of it. -/
inductive Turned (d : Desk) : DeskStep → DeskResult → Desk → Prop where
  | acceptOnly {who : Credentials} :
      Turned d (.acceptOnly who) .done { d with broker := { d.broker with accepted := some who } }
  | existing {spec : ExchangeSpec} :
      Turned d (.existing spec) .done { d with broker := d.broker.setExchange spec }
  | nack : Turned d .nack .done { d with broker := { d.broker with nacking := true } }
  | refused {who : Credentials} {mode : PublishMode} (access : d.broker.accepts who = false) :
      Turned d (.connect who mode)
        (.failed (.connection ("ACCESS_REFUSED - login was refused for user " ++ who.username)))
        { d with broker := { d.broker with attempts := d.broker.attempts + 1 } }
  | opened {who : Credentials} {mode : PublishMode} (access : d.broker.accepts who = true) :
      Turned d (.connect who mode) (.opened d.sessions.length)
        ⟨{ d.broker with
          attempts := d.broker.attempts + 1, openSessions :=
          d.broker.openSessions + 1 }, d.sessions ++ [some ⟨mode.waitsForConfirm⟩]⟩
  | gone {step : DeskStep} {n : Nat} (needs : step.session? = some n) (none : d.session? n = none) :
      Turned d step .noSession d
  | clashing {n : Nat} {session : MemorySession} {spec other : ExchangeSpec}
      (here : d.session? n = some session)
      (clash : d.broker.conflict? spec = some other) :
      Turned d (.declare n spec)
        (.failed (.exchangeConflict spec.name ("declared as " ++ other.debug))) d
  | declared {n : Nat} {session : MemorySession} {spec : ExchangeSpec}
      (here : d.session? n = some session)
      (free : d.broker.conflict? spec = none) :
      Turned d (.declare n spec) .done
        { d with
          broker := { d.broker.setExchange spec with declarations := d.broker.declarations + 1 } }
  | unrouted {n : Nat} {session : MemorySession} {m : Message} (here : d.session? n = some session)
      (unknown : d.broker.exchange? m.exchange = none) :
      Turned d (.publish n m)
        (.failed (.channel ("NOT_FOUND - no exchange '" ++ m.exchange ++ "'"))) d
  | nacked {n : Nat} {session : MemorySession} {m : Message} (here : d.session? n = some session)
      (known : (d.broker.exchange? m.exchange).isSome) (nacking : d.broker.nacking = true)
      (confirms : session.confirms = true) :
      Turned d (.publish n m) (.failed (.publishNotConfirmed "broker nacked the message")) d
  | ignored {n : Nat} {session : MemorySession} {m : Message} (here : d.session? n = some session)
      (known : (d.broker.exchange? m.exchange).isSome) (nacking : d.broker.nacking = true)
      (confirms : session.confirms = false) : Turned d (.publish n m) (.acknowledged false) d
  | stored {n : Nat} {session : MemorySession} {m : Message} (here : d.session? n = some session)
      (known : (d.broker.exchange? m.exchange).isSome) (nacking : d.broker.nacking = false) :
      Turned d (.publish n m) (.acknowledged session.confirms)
        { d with broker := { d.broker with published := d.broker.published ++ [m] } }
  | closed {n : Nat} {session : MemorySession} (here : d.session? n = some session) :
      Turned d (.close n) .done { d.forget n with broker := d.broker.close }
  | dropped {n : Nat} {session : MemorySession} (here : d.session? n = some session) :
      Turned d (.drop n) .done (d.forget n)

theorem step_turned (d : Desk) (step : DeskStep) :
    Turned d step (d.step step).1 (d.step step).2 := by
  cases step with
  | acceptOnly who => exact .acceptOnly
  | existing spec => exact .existing
  | nack => exact .nack
  | connect who mode =>
    cases access : d.broker.accepts who with
    | false =>
      simp only [step, MemoryBroker.connect, access]
      exact .refused access
    | true =>
      simp only [step, MemoryBroker.connect, access]
      exact .opened access
  | declare n spec =>
    cases here : d.session? n with
    | none =>
      simp only [step, here]
      exact .gone rfl here
    | some session =>
      cases clash : d.broker.conflict? spec with
      | some other =>
        simp only [step, here, MemoryBroker.declare_eq, clash]
        exact .clashing here clash
      | none =>
        simp only [step, here, MemoryBroker.declare_eq, clash]
        exact .declared here clash
  | publish n m =>
    cases here : d.session? n with
    | none =>
      simp only [step, here]
      exact .gone rfl here
    | some session =>
      cases route : d.broker.exchange? m.exchange with
      | none =>
        simp only [step, here, MemoryBroker.publish, route]
        exact .unrouted here route
      | some spec =>
        have known : (d.broker.exchange? m.exchange).isSome := by rw [route]; rfl
        cases nacking : d.broker.nacking with
        | false =>
          have served : d.broker.publish session m =
              (.ok session.confirms, { d.broker with published := d.broker.published ++ [m] }) := by
            simp [MemoryBroker.publish, route, nacking]
          simp only [step, here, served]
          exact .stored here known nacking
        | true =>
          cases confirms : session.confirms with
          | true =>
            simp only [step, here, MemoryBroker.publish, route, nacking, confirms]
            exact .nacked here known nacking confirms
          | false =>
            simp only [step, here, MemoryBroker.publish, route, nacking, confirms]
            exact .ignored here known nacking confirms
  | close n =>
    cases here : d.session? n with
    | none =>
      simp only [step, here]
      exact .gone rfl here
    | some session =>
      simp only [step, here]
      exact .closed here
  | drop n =>
    cases here : d.session? n with
    | none =>
      simp only [step, here]
      exact .gone rfl here
    | some session =>
      simp only [step, here]
      exact .dropped here

/-! ### What has happened -/

/-- Steps one after another, with what comes of each. -/
def record (d : Desk) : List DeskStep → List (DeskStep × DeskResult)
  | [] => []
  | step :: steps => (step, (d.step step).1) :: record (d.step step).2 steps

/-- A connection was asked for. -/
def isAttempt : DeskStep × DeskResult → Bool
  | (.connect .., _) => true
  | _ => false

/-- A connection was accepted. -/
def isOpening : DeskStep × DeskResult → Bool
  | (.connect .., .opened _) => true
  | _ => false

/-- A declaration succeeded. -/
def isDeclaring : DeskStep × DeskResult → Bool
  | (.declare .., .done) => true
  | _ => false

/-- A session was closed. -/
def isClosing : DeskStep × DeskResult → Bool
  | (.close _, .done) => true
  | _ => false

/-- A session was dropped unclosed. -/
def isDropping : DeskStep × DeskResult → Bool
  | (.drop _, .done) => true
  | _ => false

/-- How many sessions are neither closed nor dropped. -/
def live (d : Desk) : Nat :=
  d.sessions.countP Option.isSome

theorem session?_eq_some {d : Desk} {n : Nat} {session : MemorySession} :
    d.session? n = some session ↔ d.sessions[n]? = some (some session) := by
  simp [session?, Option.join_eq_some_iff]

theorem live_pos {d : Desk} {n : Nat} {session : MemorySession}
    (here : d.session? n = some session) : 0 < d.live :=
  List.countP_pos_iff.2 ⟨_, List.mem_of_getElem? (session?_eq_some.1 here), rfl⟩

theorem live_forget {d : Desk} {n : Nat} {session : MemorySession}
    (here : d.session? n = some session) :
    (d.forget n).live + 1 = d.live := by
  obtain ⟨inside, held⟩ := List.getElem?_eq_some_iff.1 (session?_eq_some.1 here)
  have counted := live_pos here
  simp only [live, forget, List.countP_set inside, held, Option.isSome_some, Option.isSome_none,
    if_true] at counted ⊢
  simp
  omega

/-! ### The books -/

theorem filed_turned {d d' : Desk} {step : DeskStep} {result : DeskResult} (h : d.broker.Filed)
    (turned : Turned d step result d') : d'.broker.Filed := by
  cases turned with
  | existing => exact h.setExchange _
  | declared here free => exact ⟨(h.setExchange _).named, (h.setExchange _).routed⟩
  | stored here known nacking => exact h.publish known
  | _ => exact ⟨h.named, h.routed⟩

/-- What the counters of a desk have to show for what has happened. -/
structure Counted (past : List (DeskStep × DeskResult)) (d : Desk) : Prop where
  attempts : d.broker.attempts = past.countP isAttempt
  declarations : d.broker.declarations = past.countP isDeclaring
  closed : d.broker.closedSessions = past.countP isClosing
  opened : d.broker.openSessions + past.countP isClosing = past.countP isOpening
  live : d.live + past.countP isClosing + past.countP isDropping = past.countP isOpening

theorem counted_start : Counted [] {} :=
  ⟨rfl, rfl, rfl, rfl, rfl⟩

/-- What a step adds to each count. -/
theorem turned_adds {d d' : Desk} {step : DeskStep} {result : DeskResult}
    (counted : d.live ≤ d.broker.openSessions) (turned : Turned d step result d') :
    d'.broker.attempts = d.broker.attempts + (isAttempt (step, result)).toNat ∧
    d'.broker.declarations = d.broker.declarations + (isDeclaring (step, result)).toNat ∧
    d'.broker.closedSessions = d.broker.closedSessions + (isClosing (step, result)).toNat ∧
    d'.broker.openSessions + (isClosing (step, result)).toNat =
      d.broker.openSessions + (isOpening (step, result)).toNat ∧
    d'.live + (isClosing (step, result)).toNat + (isDropping (step, result)).toNat =
      d.live + (isOpening (step, result)).toNat := by
  cases turned with
  | opened access =>
    exact ⟨rfl, rfl, rfl, rfl, by simp [live, List.countP_append, isClosing, isDropping, isOpening]⟩
  | gone needs none =>
    cases step with
    | declare | publish | close | drop => exact ⟨rfl, rfl, rfl, rfl, rfl⟩
    | _ => cases needs
  | closed here =>
    have positive := live_pos here
    refine ⟨rfl, rfl, rfl, ?_, live_forget here⟩
    exact Nat.sub_add_cancel (by omega)
  | dropped here => exact ⟨rfl, rfl, rfl, rfl, live_forget here⟩
  | _ => exact ⟨rfl, rfl, rfl, rfl, rfl⟩

theorem Counted.live_le {past : List (DeskStep × DeskResult)} {d : Desk} (h : Counted past d) :
    d.live ≤ d.broker.openSessions := by
  have opened := h.opened
  have live := h.live
  omega

theorem counted_turned {past : List (DeskStep × DeskResult)} {d d' : Desk} {step : DeskStep}
    {result : DeskResult} (h : Counted past d) (turned : Turned d step result d') :
    Counted (past ++ [(step, result)]) d' := by
  have count (p : DeskStep × DeskResult → Bool) :
      (past ++ [(step, result)]).countP p = past.countP p + (p (step, result)).toNat := by
    rw [List.countP_append, List.countP_singleton]
    cases p (step, result) <;> rfl
  obtain ⟨attempts, declarations, closed, opened, live⟩ := turned_adds h.live_le turned
  obtain ⟨attempts', declarations', closed', opened', live'⟩ := h
  constructor <;> simp only [count] <;> omega

/-! ### Runs -/

theorem filed_run {d : Desk} (h : d.broker.Filed) (steps : List DeskStep) :
    (d.run steps).broker.Filed := by
  induction steps generalizing d with
  | nil => exact h
  | cons step steps ih => exact ih (filed_turned h (step_turned d step))

theorem counted_run {past : List (DeskStep × DeskResult)} {d : Desk} (h : Counted past d)
    (steps : List DeskStep) :
    Counted (past ++ record d steps) (d.run steps) := by
  induction steps generalizing past d with
  | nil =>
    rw [record, List.append_nil]
    exact h
  | cons step steps ih =>
    rw [record, ← List.singleton_append, ← List.append_assoc]
    exact ih (counted_turned h (step_turned d step))

/-- What is there stays, whatever is done: messages, exchanges, and their parameters but for those
put in place anew. -/
structure Grows (steps : List DeskStep) (d d' : Desk) : Prop where
  published : d.broker.published <+: d'.broker.published
  exchanges : ∀ name spec, d.broker.exchange? name = some spec → ∃ spec', d'.broker.exchange? name =
    some spec' ∧
    (spec' = spec ∨ .existing spec' ∈ steps ∧ spec'.name = name)

theorem Grows.refl (d : Desk) : Grows [] d d :=
  ⟨List.prefix_rfl, fun _ spec stored => ⟨spec, stored, .inl rfl⟩⟩

theorem Grows.trans {steps more : List DeskStep} {d d' d'' : Desk} (h : Grows steps d d')
    (h' : Grows more d' d'') :
    Grows (steps ++ more) d d'' where
  published := h.published.trans h'.published
  exchanges := by
    intro name spec stored
    obtain ⟨spec', stored', first⟩ := h.exchanges name spec stored
    obtain ⟨spec'', stored'', second⟩ := h'.exchanges name spec' stored'
    refine ⟨spec'', stored'', ?_⟩
    rcases second with rfl | ⟨anew, named⟩
    · exact first.imp_right fun ⟨anew, named⟩ => ⟨List.mem_append_left _ anew, named⟩
    · exact .inr ⟨List.mem_append_right _ anew, named⟩

theorem grows_turned {d d' : Desk} {step : DeskStep} {result : DeskResult}
    (turned : Turned d step result d') :
    Grows [step] d d' := by
  have kept (name : String) (spec : ExchangeSpec) (stored : d.broker.exchange? name = some spec) :
      ∃ spec', d.broker.exchange? name = some spec' ∧
        (spec' = spec ∨ .existing spec' ∈ [step] ∧ spec'.name = name) :=
    ⟨spec, stored, .inl rfl⟩
  cases turned with
  | @existing new =>
    refine ⟨List.prefix_rfl, fun name spec stored => ?_⟩
    dsimp only
    rw [MemoryBroker.exchange?_setExchange]
    split
    · next same => exact ⟨new, rfl, .inr ⟨List.mem_cons_self, same.symm⟩⟩
    · exact ⟨spec, stored, .inl rfl⟩
  | @declared n session new here free =>
    refine ⟨List.prefix_rfl, fun name spec stored => ⟨spec, ?_, .inl rfl⟩⟩
    refine (MemoryBroker.exchange?_setExchange d.broker new name).trans ?_
    split
    · next same =>
      rcases MemoryBroker.conflict?_eq_none.1 free with absent | present
      · rw [← same, stored] at absent
        cases absent
      · rw [← present, ← same, stored]
    · exact stored
  | stored here known nacking => exact ⟨List.prefix_append _ _, kept⟩
  | _ => exact ⟨List.prefix_rfl, kept⟩

theorem grows_run (d : Desk) (steps : List DeskStep) : Grows steps d (d.run steps) := by
  induction steps generalizing d with
  | nil => exact .refl d
  | cons step steps ih => exact (grows_turned (step_turned d step)).trans (ih (d.step step).2)

/-- Whatever is done at a desk, in whatever order and by however many sessions, its books agree with
what has happened. Every exchange is filed under its name and every message under an exchange that
is there; sessions open and closed are the connections accepted, and those neither closed nor
dropped are among the open ones, so that one more can always be closed; and nothing that is there is
lost by what is done next. -/
theorem run_keeps_books (steps : List DeskStep) :
    let d := run {} steps
    let past := record {} steps
    d.broker.Filed ∧
    (d.broker.openSessions + d.broker.closedSessions = past.countP isOpening ∧
      past.countP isOpening ≤ d.broker.attempts) ∧
    (d.live + past.countP isClosing + past.countP isDropping = past.countP isOpening ∧
      d.live ≤ d.broker.openSessions) ∧
    (∀ n session, d.session? n = some session → 0 < d.broker.openSessions) ∧
    d.broker.declarations = past.countP isDeclaring ∧
    ∀ more, Grows more d (d.run more) := by
  intro d past
  have counted : Counted past d := counted_run counted_start steps
  have attempted : past.countP isOpening ≤ past.countP isAttempt := by
    refine List.countP_mono_left fun entry _ opening => ?_
    obtain ⟨step, result⟩ := entry
    cases step <;> first | rfl | cases opening
  refine ⟨filed_run ⟨by simp, by simp⟩ steps, ⟨?_, ?_⟩, ⟨counted.live, counted.live_le⟩,
    fun n session here => ?_, counted.declarations, grows_run d⟩
  · rw [counted.closed, counted.opened]
  · rw [counted.attempts]
    exact attempted
  · exact Nat.lt_of_lt_of_le (live_pos here) counted.live_le

end Desk

end KeyRelay
