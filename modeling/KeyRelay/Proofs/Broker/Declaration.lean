import KeyRelay.Proofs.Broker.Desk

/-!
Failures and declarations at a desk. A step that fails leaves no trace, except that a refused
connection is counted. An exchange that was declared stays declared with its parameters
(`declared_stays`), so it can be declared again in the same way from any session, and messages to it
always find it.
-/

namespace KeyRelay

namespace MemoryBroker

theorem conflict?_eq_some {b : MemoryBroker} {spec other : ExchangeSpec} :
    b.conflict? spec = some other ↔ b.exchange? spec.name = some other ∧ other ≠ spec := by
  simp [conflict?, Option.filter_eq_some_iff]

theorem exists_conflict {b : MemoryBroker} {spec : ExchangeSpec} :
    (b.conflict? spec).isSome ↔ ∃ other, b.exchange? spec.name = some other ∧ other ≠ spec := by
  simp only [Option.isSome_iff_exists, conflict?_eq_some]

/-- Putting an exchange where it already is changes no lookup. -/
theorem exchange?_setExchange_same {b : MemoryBroker} {spec : ExchangeSpec}
    (stored : b.exchange? spec.name = some spec) (name : String) :
    (b.setExchange spec).exchange? name = b.exchange? name := by
  rw [exchange?_setExchange]
  split
  · next same => rw [same, stored]
  · rfl

end MemoryBroker

namespace Desk

variable {d d' : Desk} {n : Nat} {session : MemorySession} {result : DeskResult} {f : Failure}

/-! ### What a failure leaves -/

theorem Turned.of_connect_failed {who : Credentials} {mode : PublishMode}
    (turned : Turned d (.connect who mode) (.failed f) d') :
    d' = { d with broker := { d.broker with attempts := d.broker.attempts + 1 } } := by
  cases turned
  rfl

theorem Turned.of_declare_failed {spec : ExchangeSpec}
    (turned : Turned d (.declare n spec) (.failed f) d') :
    d' = d := by
  cases turned
  rfl

theorem Turned.of_publish_failed {m : Message} (turned : Turned d (.publish n m) (.failed f) d') :
    d' = d := by
  cases turned <;> rfl

/-- A declaration by an open session fails exactly if another exchange stands in its way. -/
theorem Turned.of_declare {spec : ExchangeSpec} (here : d.session? n = some session)
    (turned : Turned d (.declare n spec) result d') :
    (∃ f, result = .failed f) ∧ (d.broker.conflict? spec).isSome ∨
      result = .done ∧ d.broker.conflict? spec = none ∧
        d' =
          { d with
            broker :=
            { d.broker.setExchange spec with declarations := d.broker.declarations + 1 } } := by
  cases turned with
  | gone needs none =>
    cases needs
    rw [here] at none
    cases none
  | clashing here clash => exact .inl ⟨⟨_, rfl⟩, by rw [clash]; rfl⟩
  | declared here free => exact .inr ⟨rfl, free, rfl⟩

/-- A publish by an open session fails for want of its exchange exactly if there is none, and else,
if at all, for want of a confirmation. -/
theorem Turned.of_publish {m : Message} (here : d.session? n = some session)
    (turned : Turned d (.publish n m) result d') :
    (∃ reason, result = .failed (.channel reason)) ∧ d.broker.exchange? m.exchange = none ∨
      (d.broker.exchange? m.exchange).isSome ∧
        ((∃ acked, result = .acknowledged acked) ∨
          ∃ reason, result = .failed (.publishNotConfirmed reason)) := by
  cases turned with
  | gone needs none =>
    cases needs
    rw [here] at none
    cases none
  | unrouted here unknown => exact .inl ⟨⟨_, rfl⟩, unknown⟩
  | nacked here known nacking confirms => exact .inr ⟨known, .inr ⟨_, rfl⟩⟩
  | ignored here known nacking confirms => exact .inr ⟨known, .inl ⟨_, rfl⟩⟩
  | stored here known nacking => exact .inr ⟨known, .inl ⟨_, rfl⟩⟩

/-! ### Declarations last -/

theorem stored_of_declared {spec : ExchangeSpec} (declared : (d.step (.declare n spec)).1 = .done) :
    (d.step (.declare n spec)).2.broker.exchange? spec.name = some spec := by
  have turned := step_turned d (.declare n spec)
  rw [declared] at turned
  generalize (d.step (.declare n spec)).2 = d' at turned ⊢
  cases turned with
  | declared here free =>
    exact (MemoryBroker.exchange?_setExchange d.broker spec spec.name).trans (if_pos rfl)

/-- Whatever is done after a declaration, the exchange is there, with its parameters unless it is
put in place anew. -/
theorem declared_stays {spec : ExchangeSpec} (declared : (d.step (.declare n spec)).1 = .done)
    (more : List DeskStep) :
    ∃ spec', ((d.step (.declare n spec)).2.run more).broker.exchange? spec.name = some spec' ∧
      (spec' = spec ∨ .existing spec' ∈ more ∧ spec'.name = spec.name) :=
  (grows_run _ more).exchanges spec.name spec (stored_of_declared declared)

/-- One more declaration is counted, and nothing else is different: the table gives for every name
what it gave. -/
structure Recounted (d d' : Desk) : Prop where
  sessions : d'.sessions = d.sessions
  exchanges : ∀ name, d'.broker.exchange? name = d.broker.exchange? name
  broker : d'.broker =
    { d.broker with exchanges := d'.broker.exchanges, declarations := d.broker.declarations + 1 }

theorem declare_stored {spec : ExchangeSpec} (here : d.session? n = some session)
    (stored : d.broker.exchange? spec.name = some spec) :
    (d.step (.declare n spec)).1 = .done ∧ Recounted d (d.step (.declare n spec)).2 := by
  have free : d.broker.conflict? spec = none := MemoryBroker.conflict?_eq_none.2 (.inr stored)
  obtain ⟨-, clash⟩ | ⟨done, -, turned⟩ := (step_turned d (.declare n spec)).of_declare here
  · rw [free] at clash
    cases clash
  · rw [turned]
    exact ⟨done, rfl, MemoryBroker.exchange?_setExchange_same stored, rfl⟩

/-- At a desk in any state, a refused connection is counted as an attempt and changes nothing else;
a declaration or a publish that fails changes nothing at all. An open session can declare an
exchange exactly if there is no other one of that name. Once it has, and whatever is done meanwhile
by however many sessions, any open session can declare it again, which changes the count of
declarations alone, unless an exchange of that name was put in place with other parameters; and no
publish to it fails for want of the exchange. -/
theorem declaration_lasts (d : Desk) :
    (∀ who mode f, (d.step (.connect who mode)).1 = .failed f →
      (d.step (.connect who mode)).2 =
      { d with broker := { d.broker with attempts := d.broker.attempts + 1 } }) ∧
    ∀ n session, d.session? n = some session →
      (∀ spec f, (d.step (.declare n spec)).1 = .failed f → (d.step (.declare n spec)).2 = d) ∧
      (∀ m f, (d.step (.publish n m)).1 = .failed f → (d.step (.publish n m)).2 = d) ∧
      (∀ spec,
        ((∃ f, (d.step (.declare n spec)).1 = .failed f) ↔
          ∃ other, d.broker.exchange? spec.name = some other ∧ other ≠ spec) ∧
        ((d.step (.declare n spec)).1 = .done ↔
          ¬∃ other, d.broker.exchange? spec.name = some other ∧ other ≠ spec)) ∧
      (∀ m, (∃ reason, (d.step (.publish n m)).1 = .failed (.channel reason)) ↔
        d.broker.exchange? m.exchange = none) ∧
      ∀ spec, (d.step (.declare n spec)).1 = .done → ∀ more,
        let later := (d.step (.declare n spec)).2.run more
        ∀ n' session', later.session? n' = some session' →
          ((∀ other, .existing other ∈ more → other.name = spec.name → other = spec) →
            (later.step (.declare n' spec)).1 = .done ∧
            Recounted later (later.step (.declare n' spec)).2) ∧
          ∀ m f, m.exchange = spec.name → (later.step (.publish n' m)).1 = .failed f →
            ∃ reason, f = .publishNotConfirmed reason := by
  refine ⟨fun who mode f failed => ?_, fun n session here =>
    ⟨fun spec f failed => ?_, fun m f failed => ?_, fun spec => ?_, fun m =>
      ?_, fun spec declared more => ?_⟩⟩
  · exact (failed ▸ step_turned d (.connect who mode)).of_connect_failed
  · exact (failed ▸ step_turned d (.declare n spec)).of_declare_failed
  · exact (failed ▸ step_turned d (.publish n m)).of_publish_failed
  · rw [← MemoryBroker.exists_conflict]
    obtain ⟨⟨f, failed⟩, clash⟩ | ⟨done, free, -⟩ :=
      (step_turned d (.declare n spec)).of_declare here
    · simp [failed, clash]
    · simp [done, free]
  · obtain ⟨failed, unknown⟩ | ⟨known, ⟨acked, went⟩ | ⟨reason, went⟩⟩ :=
      (step_turned d (.publish n m)).of_publish here
    · exact iff_of_true failed unknown
    · simp [went, Option.isSome_iff_ne_none.1 known]
    · simp [went, Option.isSome_iff_ne_none.1 known]
  · intro later n' session' here'
    obtain ⟨spec', stored, origin⟩ := declared_stays declared more
    constructor
    · intro undisturbed
      have same : spec' = spec := origin.elim id fun ⟨anew, named⟩ => undisturbed spec' anew named
      rw [same] at stored
      exact declare_stored here' stored
    · intro m f same failed
      obtain ⟨-, unknown⟩ | ⟨-, ⟨acked, went⟩ | ⟨reason, went⟩⟩ :=
        (step_turned later (.publish n' m)).of_publish here'
      · rw [same, show later.broker.exchange? spec.name = _ from stored] at unknown
        cases unknown
      · rw [went] at failed
        cases failed
      · rw [went] at failed
        exact ⟨reason, (DeskResult.failed.inj failed).symm⟩

end Desk

end KeyRelay
