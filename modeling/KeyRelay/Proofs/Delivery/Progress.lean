import KeyRelay.Proofs.Delivery.Protocol

/-!
What a delivery writes to the log, whatever looks the secrets up and whatever broker answers. Its
lines are those of the preparation and then those that the replies of the broker call for
(`Turn.lines`), each right after its reply, so the log tells what has been done and no more.
-/

namespace KeyRelay

/-- The line of a program that writes one itself. -/
def Event.own? : Event → Option LogLine
  | .said line => some line
  | _ => none

/-- The lines the program itself wrote in a run. -/
def Ran.said {α σ τ : Type} (r : Ran α σ τ) : List LogLine :=
  r.events.filterMap Event.own?

theorem Ran.said_eq {α σ τ : Type} (r : Ran α σ τ) : r.said = r.acts.filterMap Event.own? :=
  (filterMap_acts Event.own? (fun _ => rfl) r).symm

/-- The texts of the lines of a level. -/
def LogLine.textsAt (level : Level) (lines : List LogLine) : List String :=
  (lines.filter fun line => line.level = level).map LogLine.text

theorem LogLine.textsAt_append (level : Level) (lines more : List LogLine) :
    textsAt level (lines ++ more) = textsAt level lines ++ textsAt level more := by
  simp [textsAt]

open Delivery (changedLine credentialsLine declaredLine publishedLine closeFailedLine)

/-- The lines that a call with its reply calls for. -/
def Turn.lines : Turn → List LogLine
  | ⟨.declare spec, .ok _⟩ => [⟨.info, declaredLine spec.name⟩]
  | ⟨.publish _, .ok acked⟩ => [⟨.info, publishedLine acked⟩]
  | ⟨.close, .error f⟩ => [⟨.warn, closeFailedLine f⟩]
  | _ => []

theorem Turn.level_of_mem_lines {x : Turn} (kind : x.call.kind ≠ .close) {line : LogLine}
    (member : line ∈ x.lines) :
    line.level ≠ .warn := by
  obtain ⟨c, reply⟩ := x
  cases c with
  | connect who mode => cases member
  | declare spec =>
    cases reply with
    | error f => cases member
    | ok _ =>
      rw [List.mem_singleton.1 member]
      simp
  | publish m =>
    cases reply with
    | error f => cases member
    | ok acked =>
      rw [List.mem_singleton.1 member]
      simp
  | close => exact absurd rfl kind

namespace Delivery

/-! ### Lines tell each other apart -/

theorem head?_changedLine (c : KeyChange) : (changedLine c).toList.head? = some 'K' := by
  simp [changedLine]

theorem head?_declaredLine (exchange : String) :
    (declaredLine exchange).toList.head? = some 'D' := by
  simp [declaredLine]

theorem head?_publishedLine (acked : Bool) : (publishedLine acked).toList.head? = some 'M' := by
  cases acked <;> rfl

theorem ne_of_head? {s t : String} {a b : Char} (first : s.toList.head? = some a)
    (other : t.toList.head? = some b) (differ : a ≠ b) : s ≠ t := by
  rintro rfl
  rw [first] at other
  exact differ (Option.some.inj other)

theorem declaredLine_ne_changedLine (exchange : String) (c : KeyChange) :
    declaredLine exchange ≠ changedLine c :=
  ne_of_head? (head?_declaredLine exchange) (head?_changedLine c) (by decide)

theorem publishedLine_ne_changedLine (acked : Bool) (c : KeyChange) :
    publishedLine acked ≠ changedLine c :=
  ne_of_head? (head?_publishedLine acked) (head?_changedLine c) (by decide)

theorem publishedLine_ne_declaredLine (acked : Bool) (exchange : String) :
    publishedLine acked ≠ declaredLine exchange :=
  ne_of_head? (head?_publishedLine acked) (head?_declaredLine exchange) (by decide)

theorem publishedLine_inj {acked acked' : Bool} :
    publishedLine acked = publishedLine acked' ↔ acked = acked' := by
  revert acked acked'
  decide

/-! ### What is said -/

/-- The lines that come before the broker: the change if there is one, and who connects if anyone
can. -/
def opening (s : Settings) (input : List UInt8)
    (prepared : Except Failure (KeyChange × Credentials)) : List LogLine :=
  match s.check, KeyChange.ofWatchJson input with
  | .ok (), .ok change =>
    ⟨.info, changedLine change⟩ ::
      match prepared with
      | .ok (_, who) => [⟨.debug, credentialsLine who⟩]
      | .error _ => []
  | _, _ => []

variable {σ τ : Type} {source : SecretSource σ} {broker : Broker τ} {s : Settings}
  {input : List UInt8}

theorem Preparation.said {secrets after : σ} {acts : List Event}
    {r : Except Failure (KeyChange × Credentials)}
    (h : Preparation source s input secrets acts r after) :
    acts.filterMap Event.own? = opening s input r := by
  cases h with
  | misconfigured check => simp [opening, check]
  | undecoded check decoded => simp [opening, check, decoded]
  | noUsername check decoded | noPassword check decoded | ready check decoded =>
    simp only [opening, check, decoded]
    rfl

theorem said_closingActs (reply : Except Failure Unit) :
    (closingActs reply).filterMap Event.own? = Turn.lines ⟨.close, reply⟩ := by
  cases reply <;> rfl

/-- A transaction says what its turns call for, in their order. -/
theorem Transaction.said {who : Credentials} {mode : PublishMode} {m : Message} {t t' : τ}
    {acts : List Event} {outcome : Except Failure Bool}
    (h : Transaction broker who mode m t acts outcome t') :
    acts.filterMap Event.own? = (acts.filterMap Event.turn?).flatMap Turn.lines := by
  cases h with
  | refused connect => rfl
  | _ =>
    rw [List.filterMap_append, List.filterMap_append, said_closingActs, turns_closingActs,
      List.flatMap_append, List.flatMap_singleton]
    rfl

theorem forward_said (id : MessageId) (secrets : σ) (t : τ) :
    let r := (forward s input id).run source broker secrets t
    r.said = opening s input (prepare source s input secrets) ++ r.turns.flatMap Turn.lines := by
  intro r
  rw [Ran.said_eq, Ran.turns_eq]
  rcases forward_course source broker s input id secrets t with
    ⟨f, prepared, -, -⟩ | ⟨change, who, before, acts, outcome, prepared, transaction, split, -⟩
  · rw [prepared.said, prepared.turns, prepared.eq_prepare]
    exact (List.append_nil _).symm
  · rw [show r.acts = _ from split, List.filterMap_append, List.filterMap_append, prepared.said,
      prepared.turns, transaction.said, prepared.eq_prepare]
    rfl

theorem textsAt_opening (prepared : Except Failure (KeyChange × Credentials)) :
    LogLine.textsAt .info (opening s input prepared) =
      match s.check, KeyChange.ofWatchJson input with
      | .ok (), .ok change => [changedLine change]
      | _, _ => [] := by
  simp only [opening]
  split
  · cases prepared <;> rfl
  · rfl

theorem level_of_mem_opening {prepared : Except Failure (KeyChange × Credentials)} {line : LogLine}
    (member : line ∈ opening s input prepared) : line.level ≠ .warn := by
  intro warned
  simp only [opening] at member
  split at member
  · cases prepared with
    | error f =>
      rw [List.mem_singleton.1 member] at warned
      cases warned
    | ok ready =>
      rcases List.mem_cons.1 member with rfl | member
      · cases warned
      · rw [List.mem_singleton.1 member] at warned
        cases warned
  · cases member

/-! ### How far the log goes -/

/-- What the log tells at its usual level, whether an exchange was declared, whether a message was
published, and what came of the delivery. -/
inductive Told (s : Settings) (input : List UInt8) :
    List String → Bool → Bool → Except Failure DeliveryReport → Prop where
  | nothing {f : Failure}
      (unready : ¬(s.check = .ok () ∧ ∃ change, KeyChange.ofWatchJson input = .ok change)) :
      Told s input [] false false (.error f)
  | changed {change : KeyChange} {f : Failure} (check : s.check = .ok ())
      (decoded : KeyChange.ofWatchJson input = .ok change) :
      Told s input [changedLine change] false false (.error f)
  | declared {change : KeyChange} {f : Failure} (check : s.check = .ok ())
      (decoded : KeyChange.ofWatchJson input = .ok change) :
      Told s input [changedLine change, declaredLine s.broker.exchange] true false (.error f)
  | published {change : KeyChange} {report : DeliveryReport} (check : s.check = .ok ())
      (decoded : KeyChange.ofWatchJson input = .ok change) :
      Told s input [changedLine change, declaredLine s.broker.exchange,
        publishedLine report.confirmed] true true (.ok report)

variable (source broker s input) in
theorem forward_told (id : MessageId) (secrets : σ) (t : τ) :
    let r := (forward s input id).run source broker secrets t
    Told s input (LogLine.textsAt .info r.said) (Turn.did .declare r.turns)
      (Turn.did .publish r.turns) r.result := by
  intro r
  have said : r.said = _ := forward_said id secrets t
  rw [said, LogLine.textsAt_append, textsAt_opening]
  rcases forward_course source broker s input id secrets t with
    ⟨f, prepared, result, -⟩ |
      ⟨change, who, before, acts, outcome, prepared, transaction, split, result⟩
  · have none : r.turns = [] := by rw [Ran.turns_eq, prepared.turns]
    rw [none, show r.result = _ from result]
    split
    · next check decoded => exact .changed check decoded
    · next unready => exact .nothing fun ⟨check, change, decoded⟩ => unready change check decoded
  · obtain ⟨check, decoded⟩ : s.check = .ok () ∧ KeyChange.ofWatchJson input = .ok change := by
      cases prepared with
      | ready check decoded => exact ⟨check, decoded⟩
    have turns : r.turns = acts.filterMap Event.turn? := by
      rw [Ran.turns_eq, split, List.filterMap_append, prepared.turns, List.nil_append]
    rw [check, decoded, turns, show r.result = _ from result]
    rcases transaction.turns with ⟨f, calls, rfl⟩ | ⟨f, closed, calls, rfl⟩ |
      ⟨published, closed, calls, rfl⟩
    · rw [calls]
      exact .changed check decoded
    · rw [calls]
      cases closed <;> exact .changed check decoded
    · rw [calls]
      cases outcome with
      | error f => cases closed <;> exact .declared check decoded
      | ok acked =>
        cases closed <;> exact @Told.published s input change (report s change id acked)
          check decoded

section
variable {infos : List String} {declared published : Bool} {result : Except Failure DeliveryReport}

/-- The change comes first, and nothing is told out of turn. -/
theorem Told.in_order (h : Told s input infos declared published result) {change : KeyChange}
    (check : s.check = .ok ()) (decoded : KeyChange.ofWatchJson input = .ok change) :
    changedLine change ∈ infos ∧
      (infos <+: [changedLine change, declaredLine s.broker.exchange, publishedLine false] ∨
        infos <+: [changedLine change, declaredLine s.broker.exchange, publishedLine true]) := by
  cases h with
  | nothing unready => exact absurd ⟨check, change, decoded⟩ unready
  | changed _ decoded' | declared _ decoded' =>
    cases decoded.symm.trans decoded'
    exact ⟨List.mem_cons_self, .inl (by simp)⟩
  | @published _ report _ decoded' =>
    cases decoded.symm.trans decoded'
    refine ⟨List.mem_cons_self, ?_⟩
    cases report.confirmed with
    | false => exact .inl List.prefix_rfl
    | true => exact .inr List.prefix_rfl

theorem Told.eq_nil (h : Told s input infos declared published result)
    (unready : ¬(s.check = .ok () ∧ ∃ change, KeyChange.ofWatchJson input = .ok change)) :
    infos = [] := by
  cases h with
  | nothing => rfl
  | changed check decoded | declared check decoded | published check decoded =>
    exact absurd ⟨check, _, decoded⟩ unready

theorem Told.declaredLine_mem (h : Told s input infos declared published result) :
    declaredLine s.broker.exchange ∈ infos ↔ declared = true := by
  cases h with
  | nothing => simp
  | changed => simp [declaredLine_ne_changedLine]
  | declared => simp
  | published => simp

theorem Told.publishedLine_mem (h : Told s input infos declared published result) (acked : Bool) :
    publishedLine acked ∈ infos ↔ published = true ∧ ∃ report, result = .ok report ∧
    report.confirmed = acked := by
  cases h with
  | nothing => simp
  | changed => simp [publishedLine_ne_changedLine]
  | declared => simp [publishedLine_ne_changedLine, publishedLine_ne_declaredLine]
  | published =>
    simp only [List.mem_cons, publishedLine_ne_changedLine, publishedLine_ne_declaredLine,
      publishedLine_inj, List.not_mem_nil, false_or, or_false, true_and]
    simp [eq_comm]

theorem Told.succeeded (h : Told s input infos declared published result) :
    published = true ↔ ∃ report, result = .ok report := by
  cases h <;> simp

end

/-! ### The warning -/

/-- The lines end in a warning where the session was closed in vain, and hold no other one. -/
def Warned (turns : List Turn) (lines : List LogLine) : Prop :=
  ∃ front, (∀ line ∈ front, line.level ≠ .warn) ∧
    ((∃ f, Turn.did .connect turns = true ∧ ⟨.close, .error f⟩ ∈ turns ∧
        lines = front ++ [⟨.warn, "Closing broker connection failed: " ++ f.message⟩]) ∨
      (¬∃ f, ⟨.close, .error f⟩ ∈ turns) ∧ lines = front)

theorem Warned.append {turns : List Turn} {lines before : List LogLine} (h : Warned turns lines)
    (calm : ∀ line ∈ before, line.level ≠ .warn) : Warned turns (before ++ lines) := by
  obtain ⟨front, quiet, ⟨f, opened, failed, rfl⟩ | ⟨closed, rfl⟩⟩ := h
  · exact ⟨before ++ front, List.forall_mem_append.2 ⟨calm, quiet⟩,
      .inl ⟨f, opened, failed, (List.append_assoc ..).symm⟩⟩
  · exact ⟨before ++ lines, List.forall_mem_append.2 ⟨calm, quiet⟩, .inr ⟨closed, rfl⟩⟩

/-- A session that was opened is closed last, and only closing it can call for a warning. -/
theorem warned_of_closed (before : List Turn) (closed : Except Failure Unit)
    (opened : Turn.did .connect before = true) (earlier : ∀ x ∈ before, x.call.kind ≠ .close) :
    let turns : List Turn := before ++ [⟨.close, closed⟩]
    Warned turns (turns.flatMap Turn.lines) := by
  intro turns
  have calm : ∀ line ∈ before.flatMap Turn.lines, line.level ≠ .warn := by
    intro line member
    obtain ⟨x, turn, member⟩ := List.mem_flatMap.1 member
    exact Turn.level_of_mem_lines (earlier x turn) member
  rw [List.flatMap_append, List.flatMap_singleton]
  refine ⟨before.flatMap Turn.lines, calm, ?_⟩
  cases closed with
  | error f =>
    refine .inl ⟨f, ?_, List.mem_append_right _ List.mem_cons_self, rfl⟩
    rw [Turn.did, List.any_append, Bool.or_eq_true]
    exact .inl opened
  | ok _ =>
    refine .inr ⟨?_, List.append_nil _⟩
    rintro ⟨f, member⟩
    rcases List.mem_append.1 member with member | member
    · exact earlier _ member rfl
    · cases List.mem_singleton.1 member

theorem Transaction.warned {who : Credentials} {mode : PublishMode} {m : Message} {t t' : τ}
    {acts : List Event} {outcome : Except Failure Bool}
    (h : Transaction broker who mode m t acts outcome t') :
    Warned (acts.filterMap Event.turn?) ((acts.filterMap Event.turn?).flatMap Turn.lines) := by
  rcases h.turns with ⟨f, turns, -⟩ | ⟨f, closed, turns, -⟩ | ⟨published, closed, turns, -⟩
  · rw [turns]
    exact ⟨[], by simp, .inr ⟨by simp, rfl⟩⟩
  · rw [turns]
    exact warned_of_closed [⟨.connect who mode, .ok ()⟩,
      ⟨.declare (.durableFanout m.exchange), .error f⟩] closed rfl (by simp)
  · rw [turns]
    exact warned_of_closed [⟨.connect who mode, .ok ()⟩,
      ⟨.declare (.durableFanout m.exchange), .ok ()⟩, ⟨.publish m, published⟩] closed rfl (by simp)

/-- The warning about closing comes last, and only where it is due. -/
theorem forward_warned (id : MessageId) (secrets : σ) (t : τ) :
    let r := (forward s input id).run source broker secrets t
    Warned r.turns r.said := by
  intro r
  have said : r.said = _ := forward_said id secrets t
  rw [said]
  refine Warned.append ?_ fun line => level_of_mem_opening
  rcases forward_turns source broker s input id secrets t with
    ⟨f, -, -, none⟩ | ⟨change, who, acts, outcome, -, transaction, turns, -⟩
  · rw [show r.turns = _ from none]
    exact ⟨[], by simp, .inr ⟨by simp, rfl⟩⟩
  · rw [show r.turns = _ from turns]
    exact transaction.warned

variable (source broker s input) in
/-- The log of a delivery tells the truth, with every source of secrets and every broker. At its
usual level it tells of the change with its key and its value, of the exchange by its name and of
the message, in this order and breaking off somewhere: of the change exactly if the settings are
sound and the input can be decoded, of the exchange exactly if the broker has declared it, of the
message exactly if the broker took it, which is where the delivery succeeds, and then of a
confirmation exactly if the report has one. A warning comes last, where a session was opened and
could not be closed, and nowhere else. -/
theorem forward_logs_truly (id : MessageId) (secrets : σ) (t : τ) :
    let r := (forward s input id).run source broker secrets t
    let infos := LogLine.textsAt .info r.said
    let declared := "Declared '" ++ s.broker.exchange ++ "'"
    let published := "Message published"
    let confirmed := "Message published and confirmed"
    (∀ change, s.check = .ok () → KeyChange.ofWatchJson input = .ok change →
      let changed := "Key " ++ change.key ++ " has been changed into " ++ change.value ++ "."
      changed ∈ infos ∧ (infos <+: [changed, declared, published] ∨
        infos <+: [changed, declared, confirmed])) ∧
    (¬(s.check = .ok () ∧ ∃ change, KeyChange.ofWatchJson input = .ok change) → infos = []) ∧
    (declared ∈ infos ↔ Turn.did .declare r.turns = true) ∧
    ((published ∈ infos ∨ confirmed ∈ infos) ↔ Turn.did .publish r.turns = true) ∧
    (Turn.did .publish r.turns = true ↔ ∃ report, r.result = .ok report) ∧
    (∀ report, r.result = .ok report →
      (confirmed ∈ infos ↔ report.confirmed = true) ∧
      (published ∈ infos ↔ report.confirmed = false)) ∧
    Warned r.turns r.said := by
  intro r infos declared published confirmed
  have told : Told s input infos (Turn.did .declare r.turns) (Turn.did .publish r.turns) r.result :=
    forward_told source broker s input id secrets t
  have acknowledged : confirmed ∈ infos ↔ _ := told.publishedLine_mem true
  have sent : published ∈ infos ↔ _ := told.publishedLine_mem false
  refine ⟨fun change => told.in_order, told.eq_nil, told.declaredLine_mem, ?_, told.succeeded, ?_,
    forward_warned id secrets t⟩
  · rw [acknowledged, sent]
    constructor
    · rintro (⟨took, -⟩ | ⟨took, -⟩) <;> exact took
    · intro took
      obtain ⟨report, result⟩ := told.succeeded.1 took
      cases flag : report.confirmed with
      | false => exact .inl ⟨took, report, result, flag⟩
      | true => exact .inr ⟨took, report, result, flag⟩
  · intro report result
    have took := told.succeeded.2 ⟨report, result⟩
    rw [acknowledged, sent, result]
    simp [took]

end Delivery

end KeyRelay
