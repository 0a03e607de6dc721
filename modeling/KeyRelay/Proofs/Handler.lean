import KeyRelay.Proofs.Delivery.Course
import KeyRelay.Proofs.Delivery.Input

/-!
How a run of the handler ends. `Occasion.failure?` says of each stage how it goes wrong, in the
states that the stages before it leave, be they well or not; so any number of them may go wrong at
once. A run ends in the failure of the first (`run_eq_first`), whose kind alone settles the exit
code, whatever is said around it.
-/

namespace KeyRelay

/-- The exit codes by kinds of failure. -/
def Failure.codes : List (String × Nat) :=
  [("Config", 2), ("Input", 3), ("Decode", 4), ("SecretLookup", 5), ("Connection", 6),
    ("ExchangeConflict", 7), ("PublishNotConfirmed", 8), ("Channel", 9)]

theorem Failure.mem_codes (f : Failure) : (f.kind, f.exitCode) ∈ codes := by
  cases f <;> simp [kind, exitCode, codes]

/-- The exit code tells the kind of failure. -/
theorem Failure.exitCode_eq_iff {f g : Failure} : f.exitCode = g.exitCode ↔ f.kind = g.kind := by
  have distinct : ∀ x ∈ codes, ∀ y ∈ codes, x.2 = y.2 ↔ x.1 = y.1 := by decide
  exact distinct _ f.mem_codes _ g.mem_codes

theorem Failure.exitCode_bounds (f : Failure) : 2 ≤ f.exitCode ∧ f.exitCode ≤ 9 := by
  have bounds : ∀ entry ∈ codes, 2 ≤ entry.2 ∧ entry.2 ≤ 9 := by decide
  exact bounds _ f.mem_codes

/-- What is said around a trouble leaves its cause as it is. -/
theorem Trouble.foldl_within (contexts : List String) (t : Trouble) :
    contexts.foldl within t = ⟨contexts.reverse ++ t.contexts, t.cause⟩ := by
  induction contexts generalizing t with
  | nil => rfl
  | cons context outer ih =>
    rw [List.foldl_cons, ih, List.reverse_cons, List.append_assoc]
    rfl

namespace Handler

/-- What can fail a run. -/
inductive Stage where
  | reading
  | configuration
  | payload
  | value
  | username
  | password
  | connection
  | declaration
  | publication
  deriving DecidableEq

/-- The stages in their order. -/
def Stage.all : List Stage :=
  [.reading, .configuration, .payload, .value, .username, .password, .connection, .declaration,
    .publication]

/-- What is being done at a stage. -/
def Stage.context : Stage → String
  | .reading => "reading watch payload"
  | _ => "forwarding key change"

/-- What a run depends on. -/
structure Occasion (σ τ : Type) where
  settings : Settings
  stream : InputStream
  id : MessageId
  source : SecretSource σ
  broker : Broker τ
  secrets : σ
  state : τ

/-- How a result fails. -/
@[simp]
def error? {ε α : Type} : Except ε α → Option ε
  | .error e => some e
  | .ok _ => none

namespace Occasion

variable {σ τ : Type} (o : Occasion σ τ)

def run : Ran Outcome σ τ :=
  Handler.run o.settings o.stream o.id o.source o.broker o.secrets o.state

/-! ### The stages, each on its own

Each takes what the stages before it give, and something blank from one that gives nothing. -/

/-- What the bytes of the stream stand for, whether or not it breaks off. -/
def decoded : Except ChangeFault KeyChange :=
  KeyChange.ofWatchJson o.stream.bytes

def change : KeyChange :=
  o.decoded.toOption.getD ⟨"", ""⟩

def username : Answered String σ :=
  o.source.lookup o.settings.secrets.usernameKey o.secrets

def password : Answered String σ :=
  o.source.lookup o.settings.secrets.passwordKey o.username.state

def who : Credentials :=
  ⟨o.username.result.toOption.getD "", o.password.result.toOption.getD ""⟩

def message : Message :=
  Delivery.announcement o.settings o.change o.id

def connected : Answered Unit τ :=
  o.broker.answer (.connect o.who o.settings.publishMode) o.state

def declared : Answered Unit τ :=
  o.broker.answer (.declare (.durableFanout o.message.exchange)) o.connected.state

def published : Answered Bool τ :=
  o.broker.answer (.publish o.message) o.declared.state

/-- How a stage goes wrong. The value is wrong where the payload has one that cannot be decoded. -/
def failure? : Stage → Option Failure
  | .reading => error? o.stream.readAll
  | .configuration => (error? o.settings.check).map SettingsFault.toFailure
  | .payload =>
    match o.decoded with
    | .error (.decode _) | .ok _ => none
    | .error f => some f.toFailure
  | .value =>
    match o.decoded with
    | .error (.decode reason) => some (.decode reason)
    | _ => none
  | .username => error? o.username.result
  | .password => error? o.password.result
  | .connection => error? o.connected.result
  | .declaration => error? o.declared.result
  | .publication => error? o.published.result

/-- The first stage that goes wrong, and how. -/
def first? : Option (Stage × Failure) :=
  Stage.all.findSome? fun stage => (o.failure? stage).map (stage, ·)

/-- The report of a run in which no stage goes wrong. -/
def report : DeliveryReport :=
  Delivery.report o.settings o.change o.id (o.published.result.toOption.getD false)

/-! ### The first of them -/

section
variable {o} {acts : List Event} {after : σ}

theorem first?_of_broken {f : Failure} (broken : o.stream.readAll = .error f) :
    o.first? = some (.reading, f) := by
  simp [first?, Stage.all, failure?, broken]

/-- A preparation that fails does so at the first stage that goes wrong. -/
theorem first?_of_unprepared (read : o.stream.readAll = .ok o.stream.bytes) {f : Failure}
    (h : Delivery.Preparation o.source o.settings o.stream.bytes o.secrets acts (.error f) after) :
    ∃ stage, stage.context = "forwarding key change" ∧ o.first? = some (stage, f) := by
  cases h with
  | misconfigured check =>
    refine ⟨.configuration, rfl, ?_⟩
    simp [first?, Stage.all, failure?, read, check]
  | @undecoded fault check given =>
    replace given : o.decoded = .error fault := given
    cases fault with
    | decode reason =>
      refine ⟨.value, rfl, ?_⟩
      simp [first?, Stage.all, failure?, read, check, given, ChangeFault.toFailure]
    | input | serialization =>
      refine ⟨.payload, rfl, ?_⟩
      simp [first?, Stage.all, failure?, read, check, given]
  | @noUsername change f _ _ check given name =>
    replace given : o.decoded = .ok change := given
    have first : o.username.result = .error f := by rw [username, name]
    refine ⟨.username, rfl, ?_⟩
    simp [first?, Stage.all, failure?, read, check, given, first]
  | @noPassword change who f _ _ _ _ check given name word =>
    replace given : o.decoded = .ok change := given
    have first : o.username.result = .ok who := by rw [username, name]
    have second : o.password.result = .error f := by rw [password, username, name, word]
    refine ⟨.password, rfl, ?_⟩
    simp [first?, Stage.all, failure?, read, check, given, first, second]

/-- The stages before the connection give a change and credentials. -/
structure Prepared (o : Occasion σ τ) (change : KeyChange) (who : Credentials) : Prop where
  read : o.stream.readAll = .ok o.stream.bytes
  check : o.settings.check = .ok ()
  decoded : o.decoded = .ok change
  username : o.username.result = .ok who.username
  password : o.password.result = .ok who.password

theorem prepared_of_preparation (read : o.stream.readAll = .ok o.stream.bytes) {change : KeyChange}
    {who : Credentials}
    (h : Delivery.Preparation o.source o.settings o.stream.bytes o.secrets acts
      (.ok (change, who)) after) :
    o.Prepared change who := by
  cases h with
  | ready check decoded name word =>
    exact ⟨read, check, decoded, by rw [username, name], by rw [password, username, name, word]⟩

section
variable {change : KeyChange} {who : Credentials}

theorem Prepared.message (h : o.Prepared change who) :
    o.message = Delivery.announcement o.settings change o.id := by
  rw [Occasion.message, Occasion.change, h.decoded]
  rfl

theorem Prepared.connected (h : o.Prepared change who) :
    o.connected = o.broker.answer (.connect who o.settings.publishMode) o.state := by
  rw [Occasion.connected, Occasion.who, h.username, h.password]
  rfl

theorem Prepared.declared (h : o.Prepared change who) :
    o.declared = o.broker.answer
      (.declare (.durableFanout (Delivery.announcement o.settings change o.id).exchange))
      (o.broker.answer (.connect who o.settings.publishMode) o.state).state := by
  rw [Occasion.declared, h.message, h.connected]

theorem Prepared.published (h : o.Prepared change who) :
    o.published = o.broker.answer (.publish (Delivery.announcement o.settings change o.id))
      (o.broker.answer (.declare
        (.durableFanout (Delivery.announcement o.settings change o.id).exchange))
        (o.broker.answer (.connect who o.settings.publishMode) o.state).state).state := by
  rw [Occasion.published, h.message, h.declared]

theorem Prepared.first? (h : o.Prepared change who) :
    o.first? = [Stage.connection, .declaration, .publication].findSome? fun stage =>
      (o.failure? stage).map (stage, ·) := by
  simp [Occasion.first?, Stage.all, failure?, h.read, h.check, h.decoded, h.username, h.password]

/-- A transaction that fails does so at the first stage that goes wrong; in one that goes well none
does. -/
theorem Prepared.first?_of_transaction (h : o.Prepared change who) {outcome : Except Failure Bool}
    {t : τ}
    (transaction : Delivery.Transaction o.broker who o.settings.publishMode
      (Delivery.announcement o.settings change o.id) o.state acts outcome t) :
    match outcome with
    | .error f => ∃ stage, stage.context = "forwarding key change" ∧ o.first? = some (stage, f)
    | .ok acked => o.first? = none ∧ o.report = Delivery.report o.settings change o.id acked := by
  rw [h.first?]
  cases transaction with
  | refused connect =>
    refine ⟨.connection, rfl, ?_⟩
    simp [failure?, h.connected, connect]
  | undeclared connect declare close =>
    refine ⟨.declaration, rfl, ?_⟩
    simp [failure?, h.connected, h.declared, connect, declare]
  | unpublished connect declare publish close =>
    refine ⟨.publication, rfl, ?_⟩
    simp [failure?, h.connected, h.declared, h.published, connect, declare, publish]
  | published connect declare publish close =>
    refine ⟨by simp [failure?, h.connected, h.declared, h.published, connect, declare, publish], ?_⟩
    rw [Occasion.report, Occasion.change, h.decoded, h.published, connect, declare, publish]
    rfl

end

end

/-- A run ends in the failure of the first stage that goes wrong, or in its report. -/
theorem run_eq_first : o.run.result = match o.first? with
    | some (stage, f) => .error ((Trouble.ofFailure f).within stage.context)
    | none => .ok o.report := by
  rcases read : o.stream.readAll with f | bytes
  · rw [first?_of_broken read, run, Handler.run, read]
    rfl
  obtain rfl := InputStream.bytes_of_readAll read
  rw [run, Handler.run, read]
  dsimp only
  rcases Delivery.forward_course o.source o.broker o.settings o.stream.bytes o.id o.secrets
      o.state with
    ⟨f, preparation, result, -⟩ | ⟨change, who, _, _, outcome, preparation, transaction, -, result⟩
  · obtain ⟨stage, context, first⟩ := first?_of_unprepared read preparation
    rw [result, first]
    dsimp only
    rw [context]
    rfl
  · have prepared := prepared_of_preparation read preparation
    have first := prepared.first?_of_transaction transaction
    rw [result]
    cases outcome with
    | error f =>
      obtain ⟨stage, context, first⟩ := first
      rw [first]
      dsimp only
      rw [context]
      rfl
    | ok acked =>
      obtain ⟨first, same⟩ := first
      rw [first, same]
      rfl

end Occasion

/-- The exit code of a process whose command line is accepted is that of its run. -/
theorem process_of_parse {σ τ : Type} {env : List (String × String)} {argv : List String}
    {choices : CommandLine.Choices} (accepted : CommandLine.parse env argv = .ok choices)
    (run : Settings → Ran Outcome σ τ) :
    (process env argv run).1.code = exitCode (run choices.toSettings).result ∧
      (process env argv run).2 = some (run choices.toSettings) := by
  rw [process, accepted]
  exact ⟨rfl, rfl⟩

/-- A run ends in the failure of the first stage that goes wrong, in the order of `Stage.all`, or in
its report. The exit code of a process whose command line is accepted is 0 where there is a report,
and else the one that `Failure.codes` has for the kind of failure, which is none of 0 and 1. Nothing
that is said around a failure changes the code, or whether the broker counts as contacted; the
message says it all, outermost first, before what the failure itself says. -/
theorem process_tells_first :
    (∀ (σ τ : Type) (o : Occasion σ τ), o.run.result = match o.first? with
      | some (stage, f) => .error ((Trouble.ofFailure f).within stage.context)
      | none => .ok o.report) ∧
    (∀ (σ τ : Type) (env : List (String × String)) (argv : List String)
      (choices : CommandLine.Choices)
      (stream : InputStream) (id : MessageId) (source : Settings → SecretSource σ)
      (broker : Settings → Broker τ)
      (secrets : σ) (state : τ), CommandLine.parse env argv = .ok choices →
        let s := choices.toSettings
        let r := run s stream id (source s) (broker s) secrets state
        let ended := process env argv fun s => run s stream id (source s) (broker s) secrets state
        ended.2 = some r ∧
        (ended.1.code = 0 ↔ ∃ report, r.result = .ok report) ∧
        ∀ trouble, r.result = .error trouble →
          ∃ f, trouble.cause = .failure f ∧ ended.1.code = f.exitCode ∧
            (f.kind, ended.1.code) ∈ Failure.codes ∧
            2 ≤ ended.1.code ∧ ended.1.code ≤ 9) ∧
    ∀ (f : Failure) (contexts : List String),
      let trouble := contexts.foldl Trouble.within (Trouble.ofFailure f)
      trouble.exitCode = f.exitCode ∧ trouble.brokerContacted = !f.isPreConnect ∧
      trouble.message = ": ".intercalate (contexts.reverse ++ [f.message]) := by
  refine ⟨fun σ τ o => o.run_eq_first, ?_, ?_⟩
  · intro σ τ env argv choices stream id source broker secrets state accepted s r ended
    obtain ⟨code, ran⟩ : ended.1.code = exitCode r.result ∧ ended.2 = some r :=
      process_of_parse accepted _
    refine ⟨ran, ?_⟩
    let o : Occasion σ τ := ⟨s, stream, id, source s, broker s, secrets, state⟩
    have result : r.result = _ := o.run_eq_first
    rw [code, result]
    rcases o.first? with _ | ⟨stage, f⟩
    · exact ⟨⟨fun _ => ⟨_, rfl⟩, fun _ => rfl⟩, fun _ failed => by cases failed⟩
    · have bounds := f.exitCode_bounds
      constructor
      · constructor
        · intro (zero : f.exitCode = 0)
          omega
        · rintro ⟨_, ⟨⟩⟩
      · rintro _ ⟨⟩
        exact ⟨f, rfl, rfl, f.mem_codes, bounds⟩
  · intro f contexts trouble
    rw [show trouble = _ from Trouble.foldl_within contexts _]
    exact ⟨rfl, rfl, by simp [Trouble.message, Trouble.ofFailure, Cause.message]⟩

end Handler

end KeyRelay
