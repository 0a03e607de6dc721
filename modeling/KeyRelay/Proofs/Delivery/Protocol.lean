import KeyRelay.Proofs.Delivery.Course

/-!
The protocol a delivery keeps with its broker. The turns of a run are its calls with the replies
they got; `Orderly` says which calls there are and in which order, and holds of every run with every
broker. The outcome of a run is read off its turns, with the reply to closing left out.
-/

namespace KeyRelay

/-- A call and the reply it got. -/
structure Turn where
  call : Call
  reply : Except Failure call.Answer

inductive CallKind where
  | connect
  | declare
  | publish
  | close
  deriving DecidableEq, Repr

def Call.kind : Call → CallKind
  | .connect .. => .connect
  | .declare _ => .declare
  | .publish _ => .publish
  | .close => .close

@[simp] theorem Call.kind_connect (who : Credentials) (mode : PublishMode) :
    (Call.connect who mode).kind = .connect := rfl

@[simp] theorem Call.kind_declare (spec : ExchangeSpec) : (Call.declare spec).kind = .declare := rfl

@[simp] theorem Call.kind_publish (m : Message) : (Call.publish m).kind = .publish := rfl

@[simp] theorem Call.kind_close : Call.close.kind = .close := rfl

namespace Turn

def succeeded (x : Turn) : Bool :=
  x.reply.isOk

def failure? (x : Turn) : Option Failure :=
  match x.reply with
  | .ok _ => none
  | .error f => some f

/-- Whether the broker acknowledged the message of a publish that went well. -/
def acknowledgement? : Turn → Option Bool
  | ⟨.publish _, .ok acked⟩ => some acked
  | _ => none

/-- The exchange that a declare has made sure of. -/
def declared? : Turn → Option String
  | ⟨.declare spec, .ok _⟩ => some spec.name
  | _ => none

theorem exists_declared? {x : Turn} (kind : x.call.kind = .declare) (went : x.succeeded = true) :
    ∃ spec, x.call = .declare spec ∧ x.declared? = some spec.name := by
  obtain ⟨c, reply⟩ := x
  cases c with
  | declare spec =>
    cases reply with
    | ok u => exact ⟨spec, rfl, rfl⟩
    | error f => cases went
  | _ => cases kind

/-- The message of a publish that went well. -/
def sent? : Turn → Option Message
  | ⟨.publish m, .ok _⟩ => some m
  | _ => none

/-- How many calls of a kind there are. -/
def count (k : CallKind) (turns : List Turn) : Nat :=
  turns.countP fun x => x.call.kind = k

theorem count_append (k : CallKind) (xs ys : List Turn) :
    count k (xs ++ ys) = count k xs + count k ys :=
  List.countP_append

/-- A call of this kind went well. -/
def did (k : CallKind) (turns : List Turn) : Bool :=
  turns.any fun x => x.call.kind = k && x.succeeded

/-- The first failure there is, closing aside. -/
def firstFailure? (turns : List Turn) : Option Failure :=
  (turns.filter fun x => x.call.kind ≠ .close).findSome? failure?

end Turn

def Event.turn? : Event → Option Turn
  | .asked (.call c) reply => some ⟨c, reply⟩
  | _ => none

/-- The calls of a run, each with its reply. -/
def Ran.turns {α σ τ : Type} (r : Ran α σ τ) : List Turn :=
  r.events.filterMap Event.turn?

theorem Ran.turns_eq {α σ τ : Type} (r : Ran α σ τ) : r.turns = r.acts.filterMap Event.turn? :=
  (filterMap_acts Event.turn? (fun _ => rfl) r).symm

@[simp] theorem filterMap_turn?_said (line : LogLine) (es : List Event) :
    (Event.said line :: es).filterMap Event.turn? = es.filterMap Event.turn? := rfl

@[simp] theorem filterMap_turn?_lookup (key : String) (reply : Except Failure String)
    (es : List Event) :
    (Event.asked (.lookup key) reply :: es).filterMap Event.turn? = es.filterMap Event.turn? := rfl

@[simp] theorem filterMap_turn?_call (c : Call) (reply : Except Failure c.Answer)
    (es : List Event) :
    (Event.asked (.call c) reply :: es).filterMap Event.turn? = ⟨c, reply⟩ ::
      es.filterMap Event.turn? := rfl

theorem filterMap_turn?_noted (lines : List LogLine) :
    (lines.map Event.noted).filterMap Event.turn? = [] := by
  simp [List.filterMap_eq_nil_iff, Event.turn?]

theorem Ran.turns_after {α σ τ : Type} (es : List Event) (r : Ran α σ τ) :
    (r.after es).turns = es.filterMap Event.turn? ++ r.turns := by
  simp [turns, events_after]

/-- What may stand before and after a turn: a connection is made first, a declare needs one and asks
for a fanout that lasts, a publish needs a declaration, and nothing follows a close. -/
def Turn.InPlace (exchange : String) (before : List Turn) (x : Turn) (later : List Turn) : Prop :=
  match x.call with
  | .connect .. => before = []
  | .declare spec =>
    Turn.did .connect before ∧ spec = { name := exchange, kind := .fanout, durable := true }
  | .publish m => Turn.did .declare before ∧ m.exchange = exchange
  | .close => later = []

/-- The turns of a delivery. -/
structure Orderly (exchange : String) (turns : List Turn) : Prop where
  connects : Turn.count .connect turns ≤ 1
  declares : Turn.count .declare turns = if Turn.did .connect turns then 1 else 0
  publishes : Turn.count .publish turns = if Turn.did .declare turns then 1 else 0
  closes : Turn.count .close turns = if Turn.did .connect turns then 1 else 0
  in_place : ∀ before x later, turns = before ++ x :: later → x.InPlace exchange before later

/-- Every turn is in place, checked from the front. -/
def Turn.AllInPlace (exchange : String) (before : List Turn) : List Turn → Prop
  | [] => True
  | x :: later => x.InPlace exchange before later ∧ AllInPlace exchange (before ++ [x]) later

theorem Turn.AllInPlace.of_split {exchange : String} :
    ∀ {turns front : List Turn}, AllInPlace exchange front turns →
      ∀ before x later, turns = before ++ x :: later → x.InPlace exchange (front ++ before) later
  | [], _, _, before, x, later, h => by simp at h
  | y :: turns, front, ⟨hy, hrest⟩, [], x, later, h => by
    obtain ⟨rfl, rfl⟩ := List.cons.inj h
    simpa using hy
  | y :: turns, front, ⟨hy, hrest⟩, z :: before, x, later, h => by
    obtain ⟨rfl, htail⟩ := List.cons.inj h
    simpa using hrest.of_split before x later htail

/-- The message a report is about. -/
def DeliveryReport.message (r : DeliveryReport) : Message :=
  .persistentJson r.exchange (KeyChange.toBody ⟨r.key, r.value⟩) r.messageId

/-- The messages that are out where a delivery ends so. -/
def DeliveryReport.messages : Except Failure DeliveryReport → List Message
  | .ok report => [report.message]
  | .error _ => []

namespace Delivery

variable {σ τ : Type}

@[simp] theorem turns_closingActs (reply : Except Failure Unit) :
    (closingActs reply).filterMap Event.turn? = [⟨.close, reply⟩] := by
  cases reply <;> rfl

section
variable {source : SecretSource σ} {broker : Broker τ} {who : Credentials} {mode : PublishMode}
  {m : Message} {t t' : τ} {acts : List Event} {outcome : Except Failure Bool}

/-- The turns of a transaction. -/
theorem Transaction.turns (h : Transaction broker who mode m t acts outcome t') :
    (∃ f, acts.filterMap Event.turn? = [⟨.connect who mode, .error f⟩] ∧ outcome = .error f) ∨
    (∃ f closed, acts.filterMap Event.turn? =
      [⟨.connect who mode, .ok ()⟩, ⟨.declare (.durableFanout m.exchange), .error f⟩,
        ⟨.close, closed⟩] ∧
      outcome = .error f) ∨
    (∃ published closed, acts.filterMap Event.turn? =
      [⟨.connect who mode, .ok ()⟩, ⟨.declare (.durableFanout m.exchange), .ok ()⟩,
        ⟨.publish m, published⟩,
        ⟨.close, closed⟩] ∧ outcome = published) := by
  cases h with
  | @refused f _ _ _ => exact .inl ⟨f, rfl, rfl⟩
  | @undeclared f closed => exact .inr (.inl ⟨f, closed, by simp, rfl⟩)
  | @unpublished f closed => exact .inr (.inr ⟨.error f, closed, by simp, rfl⟩)
  | @published acked closed => exact .inr (.inr ⟨.ok acked, closed, by simp, rfl⟩)

theorem Transaction.orderly (h : Transaction broker who mode m t acts outcome t') :
    Orderly m.exchange (acts.filterMap Event.turn?) := by
  rcases h.turns with ⟨f, turns, _⟩ | ⟨f, closed, turns, _⟩ | ⟨published, closed, turns, _⟩
  all_goals
    rw [turns]
    refine ⟨?_, ?_, ?_, ?_, @Turn.AllInPlace.of_split _ _ [] ?_⟩
  all_goals simp [Turn.count, Turn.did, Turn.succeeded, Except.isOk, Except.toBool, Turn.AllInPlace,
    Turn.InPlace, ExchangeSpec.durableFanout]

/-- The outcome of a transaction is its first failure, closing aside, or the broker's
acknowledgement. -/
theorem Transaction.outcome_turns (h : Transaction broker who mode m t acts outcome t') :
    match outcome with
    | .error f => Turn.firstFailure? (acts.filterMap Event.turn?) = some f
    | .ok acked => Turn.firstFailure? (acts.filterMap Event.turn?) = none ∧
        (acts.filterMap Event.turn?).filterMap Turn.acknowledgement? = [acked] := by
  rcases h.turns with ⟨f, turns, rfl⟩ | ⟨f, closed, turns, rfl⟩ | ⟨published, closed, turns, rfl⟩
  · rw [turns]; rfl
  · rw [turns]; rfl
  · rw [turns]
    cases outcome with
    | error f => rfl
    | ok acked => exact ⟨rfl, rfl⟩

theorem Transaction.connects (h : Transaction broker who mode m t acts outcome t') :
    ∃ reply later, acts.filterMap Event.turn? = ⟨.connect who mode, reply⟩ :: later := by
  rcases h.turns with ⟨f, turns, _⟩ | ⟨f, closed, turns, _⟩ | ⟨published, closed, turns, _⟩
  all_goals exact ⟨_, _, turns⟩

theorem Preparation.turns {s : Settings} {input : List UInt8} {secrets after : σ}
    {r : Except Failure (KeyChange × Credentials)}
    (h : Preparation source s input secrets acts r after) :
    acts.filterMap Event.turn? = [] := by
  cases h <;> rfl

end

variable (source : SecretSource σ) (broker : Broker τ)

/-- The calls of a delivery are those of its transaction, and there are none where the preparation
fails. -/
theorem forward_turns (s : Settings) (input : List UInt8) (id : MessageId) (secrets : σ) (t : τ) :
    let r := (forward s input id).run source broker secrets t
    (∃ f, prepare source s input secrets = .error f ∧ r.result = .error f ∧ r.turns = []) ∨
    (∃ change who acts outcome, prepare source s input secrets = .ok (change, who) ∧
      Transaction broker who s.publishMode (announcement s change id) t acts outcome r.broker ∧
      r.turns = acts.filterMap Event.turn? ∧ r.result = outcome.map (report s change id)) := by
  intro r
  rcases forward_course source broker s input id secrets t with
    ⟨f, prepared, result, _⟩ |
      ⟨change, who, before, acts, outcome, prepared, transaction, split, result⟩
  · exact .inl ⟨f, prepared.eq_prepare.symm, result, by rw [Ran.turns_eq, prepared.turns]⟩
  · refine .inr ⟨change, who, acts, outcome, prepared.eq_prepare.symm, transaction, ?_, result⟩
    rw [Ran.turns_eq, split, List.filterMap_append, prepared.turns, List.nil_append]

theorem orderly_nil (exchange : String) : Orderly exchange [] :=
  ⟨by simp [Turn.count], rfl, rfl, rfl, by simp⟩

theorem forward_orderly (s : Settings) (input : List UInt8) (id : MessageId) (secrets : σ) (t : τ) :
    Orderly s.broker.exchange ((forward s input id).run source broker secrets t).turns := by
  rcases forward_turns source broker s input id secrets t with
    ⟨f, _, _, none⟩ | ⟨change, who, acts, outcome, _, transaction, turns, _⟩
  · rw [none]
    exact orderly_nil _
  · rw [turns]
    exact transaction.orderly

/-- A delivery connects once, or not at all where its preparation fails. -/
theorem forward_connects (s : Settings) (input : List UInt8) (id : MessageId) (secrets : σ)
    (t : τ) :
    Turn.count .connect ((forward s input id).run source broker secrets t).turns =
      if (prepare source s input secrets).isOk then 1 else 0 := by
  have orderly := forward_orderly source broker s input id secrets t
  rcases forward_turns source broker s input id secrets t with
    ⟨f, prepared, _, none⟩ | ⟨change, who, acts, outcome, prepared, transaction, turns, _⟩
  · rw [none, prepared]
    rfl
  · obtain ⟨reply, later, calls⟩ := transaction.connects
    have atMost := orderly.connects
    rw [turns, calls, Turn.count, List.countP_cons_of_pos (by simp)] at atMost ⊢
    rw [prepared]
    simp only [Except.isOk, Except.toBool, if_true]
    omega

/-- A delivery sends the message of its report where it succeeds, and none else. -/
theorem forward_sent (s : Settings) (input : List UInt8) (id : MessageId) (secrets : σ) (t : τ) :
    let r := (forward s input id).run source broker secrets t
    r.turns.filterMap Turn.sent? = DeliveryReport.messages r.result := by
  intro r
  rcases forward_turns source broker s input id secrets t with
    ⟨f, _, result, none⟩ | ⟨change, who, acts, outcome, _, transaction, turns, result⟩
  · rw [show r.turns = _ from none, show r.result = _ from result]
    rfl
  · rw [show r.turns = _ from turns, show r.result = _ from result]
    rcases transaction.turns with ⟨f, calls, rfl⟩ | ⟨f, closed, calls, rfl⟩ |
      ⟨published, closed, calls, rfl⟩
    · rw [calls]; rfl
    · rw [calls]; rfl
    · rw [calls]
      cases outcome <;> rfl

/-- With every source of secrets and every broker, a delivery keeps its calls in order. It makes
none where the preparation fails, and ends in that failure; else it connects with the credentials it
looked up, and ends in the first failure that is not one of closing, or in a report with the
broker's acknowledgement. -/
theorem forward_keeps_protocol (s : Settings) (input : List UInt8) (id : MessageId) (secrets : σ)
    (t : τ) :
    let r := (forward s input id).run source broker secrets t
    Orderly s.broker.exchange r.turns ∧
    (∀ f, prepare source s input secrets = .error f → r.turns = [] ∧ r.result = .error f) ∧
    (∀ change who, prepare source s input secrets = .ok (change, who) →
      (∃ reply later, r.turns = ⟨.connect who s.publishMode, reply⟩ :: later) ∧
      (∀ f, Turn.firstFailure? r.turns = some f → r.result = .error f) ∧
      (Turn.firstFailure? r.turns = none → ∃ acked,
        r.turns.filterMap Turn.acknowledgement? = [acked] ∧
          r.result = .ok (report s change id acked))) := by
  intro r
  refine ⟨forward_orderly source broker s input id secrets t, ?_⟩
  rcases forward_turns source broker s input id secrets t with
    ⟨f, prepared, result, none⟩ | ⟨change, who, acts, outcome, prepared, transaction, turns, result⟩
  · rw [prepared]
    refine ⟨?_, by simp⟩
    rintro _ ⟨⟩
    exact ⟨none, result⟩
  · rw [prepared]
    refine ⟨by simp, ?_⟩
    rintro _ _ ⟨⟩
    rw [show r.turns = _ from turns, show r.result = _ from result]
    refine ⟨transaction.connects, ?_⟩
    have first := transaction.outcome_turns
    cases outcome with
    | error f => simp [first, Except.map]
    | ok acked => simp [first, Except.map]

end Delivery

end KeyRelay
