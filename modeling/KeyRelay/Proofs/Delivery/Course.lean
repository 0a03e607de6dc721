import KeyRelay.Delivery

/-!
The course a delivery takes, whatever looks the secrets up and whatever broker answers. A delivery
has two parts: the preparation (settings, input, username, password) and the transaction with the
broker. Each of them ends in one of a few ways, and `forward_course` says that every run is one such
preparation and, where that succeeds, one such transaction.
-/

namespace KeyRelay

/-- The program did it itself; the lines of whoever answers are not its own. -/
def Event.isOwn : Event → Bool
  | .noted _ => false
  | _ => true

/-- What the program itself did in a run. -/
def Ran.acts {α σ τ : Type} (r : Ran α σ τ) : List Event :=
  r.events.filter Event.isOwn

@[simp] theorem filter_isOwn_said (line : LogLine) (es : List Event) :
    (Event.said line :: es).filter Event.isOwn = .said line :: es.filter Event.isOwn := rfl

@[simp] theorem filter_isOwn_asked (q : Ask) (reply : Except Failure q.Answer) (es : List Event) :
    (Event.asked q reply :: es).filter Event.isOwn = .asked q reply :: es.filter Event.isOwn := rfl

theorem filter_noted (lines : List LogLine) : (lines.map Event.noted).filter Event.isOwn = [] := by
  simp [List.filter_eq_nil_iff, Event.isOwn]

/-! ### Runs, statement by statement -/

namespace Ran

variable {α σ τ : Type}

@[simp] theorem result_after (es : List Event) (r : Ran α σ τ) :
    (r.after es).result = r.result := rfl

@[simp] theorem secrets_after (es : List Event) (r : Ran α σ τ) :
    (r.after es).secrets = r.secrets := rfl

@[simp] theorem broker_after (es : List Event) (r : Ran α σ τ) :
    (r.after es).broker = r.broker := rfl

theorem events_after (es : List Event) (r : Ran α σ τ) : (r.after es).events = es ++ r.events := rfl

theorem after_after (es fs : List Event) (r : Ran α σ τ) :
    (r.after fs).after es = r.after (es ++ fs) := by
  simp [after]

theorem acts_after (es : List Event) (r : Ran α σ τ) :
    (r.after es).acts = es.filter Event.isOwn ++ r.acts := by
  simp [acts, events_after]

theorem acts_said (line : LogLine) (r : Ran α σ τ) :
    (r.after [.said line]).acts = .said line :: r.acts := by
  simp [acts, events_after]

theorem acts_asked (lines : List LogLine) (q : Ask) (reply : Except Failure q.Answer)
    (r : Ran α σ τ) :
    (r.after (lines.map .noted ++ [.asked q reply])).acts = .asked q reply :: r.acts := by
  simp [acts, events_after, filter_noted]

/-- Reading calls or keys off the program's own part loses none. -/
theorem filterMap_acts {β : Type} (f : Event → Option β) (noted : ∀ line, f (.noted line) = none)
    (r : Ran α σ τ) : r.acts.filterMap f = r.events.filterMap f := by
  simp only [acts, List.filterMap_filter]
  congr 1
  funext e
  cases e <;> simp [Event.isOwn, noted]

theorem keys_eq (r : Ran α σ τ) : r.keys = r.acts.filterMap Event.key? :=
  (filterMap_acts Event.key? (fun _ => rfl) r).symm

end Ran

namespace Program

variable {σ τ α β : Type} (source : SecretSource σ) (broker : Broker τ)

theorem run_say (line : LogLine) (next : Program α) (s : σ) (t : τ) :
    (say line next).run source broker s t = (next.run source broker s t).after [.said line] := rfl

theorem run_lookup (key : String) (next : Except Failure String → Program α) (s : σ) (t : τ) :
    (ask (.lookup key) next).run source broker s t =
      ((next (source.lookup key s).result).run source broker (source.lookup key s).state t).after
        ((source.lookup key s).lines.map .noted ++
          [.asked (.lookup key) (source.lookup key s).result]) := rfl

theorem run_call (c : Call) (next : Except Failure c.Answer → Program α) (s : σ) (t : τ) :
    (ask (.call c) next).run source broker s t =
      ((next (broker.answer c t).result).run source broker s (broker.answer c t).state).after
        ((broker.answer c t).lines.map .noted ++ [.asked (.call c) (broker.answer c t).result]) :=
  rfl

/-- A program run after another one starts in the states that one leaves. -/
theorem run_bind (p : Program α) (f : α → Program β) (s : σ) (t : τ) :
    (p.bind f).run source broker s t =
      ((f (p.run source broker s t).result).run source broker (p.run source broker s t).secrets
        (p.run source broker s t).broker).after (p.run source broker s t).events := by
  induction p generalizing s t with
  | done a => simp [bind, run, Ran.after]
  | say line next ih => rw [bind, run_say, ih, run_say, Ran.after_after]; rfl
  | ask q next ih =>
    cases q with
    | lookup key => rw [bind, run_lookup, ih, run_lookup, Ran.after_after]; rfl
    | call c => rw [bind, run_call, ih, run_call, Ran.after_after]; rfl

end Program

namespace Delivery

variable {σ τ : Type} (source : SecretSource σ) (broker : Broker τ)

/-! ### The preparation -/

/-- What comes before the broker: settings, input, username and password, the first failure
winning. -/
def prepare (s : Settings) (input : List UInt8) (secrets : σ) :
    Except Failure (KeyChange × Credentials) :=
  match s.check with
  | .error f => .error f.toFailure
  | .ok () =>
    match KeyChange.ofWatchJson input with
    | .error f => .error f.toFailure
    | .ok change =>
      match source.lookup s.secrets.usernameKey secrets with
      | ⟨.error f, _, _⟩ => .error f
      | ⟨.ok username, _, after⟩ =>
        match (source.lookup s.secrets.passwordKey after).result with
        | .error f => .error f
        | .ok password => .ok (change, ⟨username, password⟩)

/-- How a preparation goes: what is done, what comes of it, and the secret source afterwards. -/
inductive Preparation (s : Settings) (input : List UInt8) (secrets : σ) :
    List Event → Except Failure (KeyChange × Credentials) → σ → Prop where
  | misconfigured {f : SettingsFault} (check : s.check = .error f) :
      Preparation s input secrets [] (.error f.toFailure) secrets
  | undecoded {f : ChangeFault} (check : s.check = .ok ())
      (decoded : KeyChange.ofWatchJson input = .error f) :
      Preparation s input secrets [] (.error f.toFailure) secrets
  | noUsername {change : KeyChange} {f : Failure} {lines : List LogLine} {after : σ}
      (check : s.check = .ok ())
      (decoded : KeyChange.ofWatchJson input = .ok change)
      (username : source.lookup s.secrets.usernameKey secrets = ⟨.error f, lines, after⟩) :
      Preparation s input secrets
        [.said ⟨.info, changedLine change⟩, .asked (.lookup s.secrets.usernameKey) (.error f)]
        (.error f) after
  | noPassword {change : KeyChange} {name : String} {f : Failure} {lines lines' : List LogLine}
      {after after' : σ}
      (check : s.check = .ok ()) (decoded : KeyChange.ofWatchJson input = .ok change)
      (username : source.lookup s.secrets.usernameKey secrets = ⟨.ok name, lines, after⟩)
      (password : source.lookup s.secrets.passwordKey after = ⟨.error f, lines', after'⟩) :
      Preparation s input secrets
        [.said ⟨.info, changedLine change⟩, .asked (.lookup s.secrets.usernameKey) (.ok name),
          .asked (.lookup s.secrets.passwordKey) (.error f)] (.error f) after'
  | ready {change : KeyChange} {who : Credentials} {lines lines' : List LogLine} {after after' : σ}
      (check : s.check = .ok ()) (decoded : KeyChange.ofWatchJson input = .ok change)
      (username : source.lookup s.secrets.usernameKey secrets = ⟨.ok who.username, lines, after⟩)
      (password : source.lookup s.secrets.passwordKey after = ⟨.ok who.password, lines', after'⟩) :
      Preparation s input secrets
        [.said ⟨.info, changedLine change⟩,
          .asked (.lookup s.secrets.usernameKey) (.ok who.username),
          .asked (.lookup s.secrets.passwordKey) (.ok who.password),
          .said ⟨.debug, credentialsLine who⟩]
        (.ok (change, who)) after'

variable {source} in
theorem Preparation.eq_prepare {s : Settings} {input : List UInt8} {secrets after : σ}
    {acts : List Event} {r : Except Failure (KeyChange × Credentials)}
    (h : Preparation source s input secrets acts r after) :
    r = prepare source s input secrets := by
  cases h with
  | misconfigured check => simp [prepare, check]
  | undecoded check decoded => simp [prepare, check, decoded]
  | noUsername check decoded username => simp [prepare, check, decoded, username]
  | noPassword check decoded username password => simp [prepare, check, decoded, username, password]
  | ready check decoded username password => simp [prepare, check, decoded, username, password]

/-! ### The transaction -/

/-- Closing, and the line that tells of a failure to close. -/
def closingActs (reply : Except Failure Unit) : List Event :=
  .asked (.call .close) reply ::
    match reply with
    | .ok _ => []
    | .error f => [.said ⟨.warn, closeFailedLine f⟩]

/-- How a transaction goes that publishes one message: what is done, whether the broker acknowledged
the message, and the broker afterwards. The reply to closing is any. -/
inductive Transaction (who : Credentials) (mode : PublishMode) (m : Message) (t : τ) :
    List Event → Except Failure Bool → τ → Prop where
  | refused {f : Failure} {lines : List LogLine} {t₁ : τ}
      (connect : broker.answer (.connect who mode) t = ⟨.error f, lines, t₁⟩) :
      Transaction who mode m t [.asked (.call (.connect who mode)) (.error f)] (.error f) t₁
  | undeclared {f : Failure} {reply : Except Failure Unit} {l₁ l₂ l₃ : List LogLine} {t₁ t₂ t₃ : τ}
      (connect : broker.answer (.connect who mode) t = ⟨.ok (), l₁, t₁⟩)
      (declare : broker.answer (.declare (.durableFanout m.exchange)) t₁ = ⟨.error f, l₂, t₂⟩)
      (close : broker.answer .close t₂ = ⟨reply, l₃, t₃⟩) :
      Transaction who mode m t
        ([.asked (.call (.connect who mode)) (.ok ()),
          .asked (.call (.declare (.durableFanout m.exchange))) (.error f)] ++ closingActs reply)
        (.error f) t₃
  | unpublished {f : Failure} {reply : Except Failure Unit} {l₁ l₂ l₃ l₄ : List LogLine}
      {t₁ t₂ t₃ t₄ : τ}
      (connect : broker.answer (.connect who mode) t = ⟨.ok (), l₁, t₁⟩)
      (declare : broker.answer (.declare (.durableFanout m.exchange)) t₁ = ⟨.ok (), l₂, t₂⟩)
      (publish : broker.answer (.publish m) t₂ = ⟨.error f, l₃, t₃⟩)
      (close : broker.answer .close t₃ = ⟨reply, l₄, t₄⟩) :
      Transaction who mode m t
        ([.asked (.call (.connect who mode)) (.ok ()),
          .asked (.call (.declare (.durableFanout m.exchange))) (.ok ()),
          .said ⟨.info, declaredLine m.exchange⟩,
          .asked (.call (.publish m)) (.error f)] ++ closingActs reply)
        (.error f) t₄
  | published {acked : Bool} {reply : Except Failure Unit} {l₁ l₂ l₃ l₄ : List LogLine}
      {t₁ t₂ t₃ t₄ : τ}
      (connect : broker.answer (.connect who mode) t = ⟨.ok (), l₁, t₁⟩)
      (declare : broker.answer (.declare (.durableFanout m.exchange)) t₁ = ⟨.ok (), l₂, t₂⟩)
      (publish : broker.answer (.publish m) t₂ = ⟨.ok acked, l₃, t₃⟩)
      (close : broker.answer .close t₃ = ⟨reply, l₄, t₄⟩) :
      Transaction who mode m t
        ([.asked (.call (.connect who mode)) (.ok ()),
          .asked (.call (.declare (.durableFanout m.exchange))) (.ok ()),
          .said ⟨.info, declaredLine m.exchange⟩,
          .asked (.call (.publish m)) (.ok acked),
          .said ⟨.info, publishedLine acked⟩] ++ closingActs reply)
        (.ok acked) t₄

/-! ### The whole -/

/-- The message that announces a change under these settings. -/
def announcement (s : Settings) (change : KeyChange) (id : MessageId) : Message :=
  .persistentJson s.broker.exchange change.toBody id

/-- The report of a change that is delivered under these settings. -/
def report (s : Settings) (change : KeyChange) (id : MessageId) (confirmed : Bool) :
    DeliveryReport :=
  ⟨change.key, change.value, s.broker.exchange, id, confirmed⟩

section
variable {α : Type} {secrets after : σ} {t t' : τ} {lines : List LogLine} {f : Failure}

theorem run_lookup_ok {key secret : String}
    (h : source.lookup key secrets = ⟨.ok secret, lines, after⟩) (next : String → Step α) :
    ((lookup key).andThen next).run source broker secrets t =
      ((next secret).run source broker after t).after
        (lines.map .noted ++ [.asked (.lookup key) (.ok secret)]) := by
  simp only [Step.andThen, lookup, Program.bind, Program.run_lookup, h]

theorem run_lookup_error {key : String} (h : source.lookup key secrets = ⟨.error f, lines, after⟩)
    (next : String → Step α) :
    ((lookup key).andThen next).run source broker secrets t =
      Ran.after (lines.map .noted ++ [.asked (.lookup key) (.error f)]) ⟨.error f, [],
        after, t⟩ := by
  simp only [Step.andThen, lookup, Program.bind, Program.run_lookup, h, Program.run]

theorem run_call_ok {c : Call} {a : c.Answer} (h : broker.answer c t = ⟨.ok a, lines, t'⟩)
    (next : c.Answer → Step α) :
    ((call c).andThen next).run source broker secrets t =
      ((next a).run source broker secrets t').after
        (lines.map .noted ++ [.asked (.call c) (.ok a)]) := by
  simp only [Step.andThen, call, Program.bind, Program.run_call, h]

theorem run_call_error {c : Call} (h : broker.answer c t = ⟨.error f, lines, t'⟩)
    (next : c.Answer → Step α) :
    ((call c).andThen next).run source broker secrets t =
      Ran.after (lines.map .noted ++ [.asked (.call c) (.error f)]) ⟨.error f, [],
        secrets, t'⟩ := by
  simp only [Step.andThen, call, Program.bind, Program.run_call, h, Program.run]

end

/-- Nothing is looked up after a failed lookup. -/
theorem fetchCredentials_andThen {α : Type} (s : SecretSettings) (next : Credentials → Step α) :
    (fetchCredentials s).andThen next =
      (lookup s.usernameKey).andThen fun username =>
        (lookup s.passwordKey).andThen fun password => next ⟨username, password⟩ := by
  simp only [fetchCredentials, Step.andThen, lookup, Program.bind]
  congr 1
  funext reply
  cases reply with
  | error f => rfl
  | ok username =>
    simp only [Program.bind]
    congr 1
    funext reply
    cases reply <;> rfl

/-- The part of a delivery that follows the preparation. -/
def transact (s : Settings) (change : KeyChange) (id : MessageId) (who : Credentials) :
    Step DeliveryReport :=
  (call (.connect who s.publishMode)).andThen fun _ =>
  (announce (announcement s change id)).bind fun outcome =>
  closing <| .done (outcome.map (report s change id))

theorem run_closing {α : Type} (next : Step α) (secrets : σ) (t : τ) :
    let r := (closing next).run source broker secrets t
    let closed := next.run source broker secrets (broker.answer .close t).state
    r.acts = closingActs (broker.answer .close t).result ++ closed.acts ∧ r.result = closed.result ∧
      r.secrets = closed.secrets ∧ r.broker = closed.broker := by
  rw [closing, Program.run_call]
  rcases broker.answer .close t with ⟨f | u, lines, after⟩
  · simp [Ran.acts_asked, say, Program.run_say, Ran.acts_said, closingActs]
  · simp [Ran.acts_asked, closingActs]

/-- A transaction goes on from the connection: what `announce` does comes before the closing. -/
theorem run_announce_closing (s : Settings) (change : KeyChange) (id : MessageId) (secrets : σ)
    (t : τ) :
    let m := announcement s change id
    let a := (announce m).run source broker secrets t
    let r :=
      ((announce m).bind fun outcome => closing <| .done (outcome.map (report s change id))).run
      source broker secrets t
    r.acts = a.acts ++ closingActs (broker.answer .close a.broker).result ∧
      r.result = a.result.map (report s change id) ∧ r.secrets = a.secrets ∧
      r.broker = (broker.answer .close a.broker).state := by
  intro m a r
  obtain ⟨acts, result, same, last⟩ :=
    run_closing source broker (.done (a.result.map (report s change id))) a.secrets a.broker
  have hr : r = Ran.after a.events _ := Program.run_bind ..
  rw [hr, Ran.acts_after, Ran.result_after, Ran.secrets_after, Ran.broker_after, acts, result,
    same, last]
  exact ⟨by simp [Program.run, Ran.acts], rfl, rfl, rfl⟩

theorem run_transact (s : Settings) (change : KeyChange) (id : MessageId) (who : Credentials)
    (secrets : σ) (t : τ) :
    let r := (transact s change id who).run source broker secrets t
    r.secrets = secrets ∧ ∃ outcome, r.result = outcome.map (report s change id) ∧
      Transaction broker who s.publishMode (announcement s change id) t r.acts outcome
        r.broker := by
  intro r
  let m := announcement s change id
  rcases hc : broker.answer (.connect who s.publishMode) t with ⟨f | u, l₁, t₁⟩
  · have hr : r = Ran.after _ _ := run_call_error source broker hc _
    refine ⟨by rw [hr]; rfl, .error f, by rw [hr]; rfl, ?_⟩
    rw [hr, Ran.acts_asked]
    exact .refused hc
  have hr : r = Ran.after _ _ := run_call_ok source broker hc _
  obtain ⟨acts, result, same, last⟩ := run_announce_closing source broker s change id secrets t₁
  rw [hr, Ran.acts_asked, Ran.result_after, Ran.secrets_after, Ran.broker_after, acts, result,
    same, last]
  rcases hd : broker.answer (.declare (.durableFanout m.exchange)) t₁ with ⟨f | u, l₂, t₂⟩
  · have ha : (announce m).run source broker secrets t₁ = Ran.after _ _ :=
      run_call_error source broker hd _
    rw [ha, Ran.acts_asked]
    exact ⟨rfl, .error f, rfl, .undeclared hc hd rfl⟩
  have ha : (announce m).run source broker secrets t₁ = Ran.after _ _ :=
    run_call_ok source broker hd _
  rw [say, Program.run_say] at ha
  rcases hp : broker.answer (.publish m) t₂ with ⟨f | acked, l₃, t₃⟩
  · rw [run_call_error source broker hp] at ha
    rw [ha, Ran.acts_asked, Ran.acts_said, Ran.acts_asked]
    exact ⟨rfl, .error f, rfl, .unpublished hc hd hp rfl⟩
  · rw [run_call_ok source broker hp, say, Program.run_say] at ha
    rw [ha, Ran.acts_asked, Ran.acts_said, Ran.acts_asked, Ran.acts_said]
    exact ⟨rfl, .ok acked, rfl, .published hc hd hp rfl⟩

theorem forwardChange_eq (s : Settings) (change : KeyChange) (id : MessageId) :
    forwardChange s change id = say .info (changedLine change)
      ((fetchCredentials s.secrets).andThen fun who =>
      say .debug (credentialsLine who) (transact s change id who)) := rfl

/-- Every run of a delivery is a preparation that fails, or one that succeeds and then a
transaction. -/
theorem forward_course (s : Settings) (input : List UInt8) (id : MessageId) (secrets : σ) (t : τ) :
    let r := (forward s input id).run source broker secrets t
    (∃ f, Preparation source s input secrets r.acts (.error f) r.secrets ∧ r.result = .error f ∧
      r.broker = t) ∨
    (∃ change who before acts outcome,
      Preparation source s input secrets before (.ok (change, who)) r.secrets ∧
      Transaction broker who s.publishMode (announcement s change id) t acts outcome r.broker ∧
      r.acts = before ++ acts ∧ r.result = outcome.map (report s change id)) := by
  intro r
  rcases check : s.check with f | u
  · have hr : r = ⟨.error f.toFailure, [], secrets, t⟩ := by simp only [r, forward, check]; rfl
    rw [hr]
    exact .inl ⟨_, .misconfigured check, rfl, rfl⟩
  rcases decoded : KeyChange.ofWatchJson input with f | change
  · have hr : r = ⟨.error f.toFailure, [], secrets, t⟩ := by
      simp only [r, forward, check, decoded]; rfl
    rw [hr]
    exact .inl ⟨_, .undecoded check decoded, rfl, rfl⟩
  have hr : r = (forwardChange s change id).run source broker secrets t := by
    simp only [r, forward, check, decoded]
  rw [forwardChange_eq, say, Program.run_say, fetchCredentials_andThen] at hr
  rcases username : source.lookup s.secrets.usernameKey secrets with ⟨f | name, lines, after⟩
  · rw [run_lookup_error source broker username] at hr
    rw [hr, Ran.acts_said, Ran.acts_asked]
    exact .inl ⟨f, .noUsername check decoded username, rfl, rfl⟩
  rw [run_lookup_ok source broker username] at hr
  rcases password : source.lookup s.secrets.passwordKey after with ⟨f | word, lines', after'⟩
  · rw [run_lookup_error source broker password] at hr
    rw [hr, Ran.acts_said, Ran.acts_asked, Ran.acts_asked]
    exact .inl ⟨f, .noPassword check decoded username password, rfl, rfl⟩
  rw [run_lookup_ok source broker password, say, Program.run_say] at hr
  obtain ⟨same, outcome, result, transaction⟩ :=
    run_transact source broker s change id ⟨name, word⟩ after' t
  rw [hr, Ran.acts_said, Ran.acts_asked, Ran.acts_asked, Ran.acts_said]
  simp only [Ran.result_after, Ran.secrets_after, Ran.broker_after, same]
  exact .inr ⟨change, ⟨name, word⟩, _, _, outcome, .ready check decoded username password,
    transaction, rfl, result⟩

end Delivery

end KeyRelay
