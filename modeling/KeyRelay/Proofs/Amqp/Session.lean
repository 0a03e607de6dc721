import KeyRelay.Proofs.Amqp.Transcript
import KeyRelay.Proofs.Delivery.Course

/-!
The course of a session, whatever the server does. A session is one walk through a script of
requests, from the header to the publish, with a farewell after it; each operation of the client is
a part of that walk. `Session` lists the ways it can go, `Client.told` says what is told of its
first setback, and `Reports` which kind of failure that is.
-/

namespace KeyRelay.Amqp

/-! ### The script -/

/-- The parts of a session. -/
inductive Phase where
  | handshake
  | channelSetup
  /-- The declaration and the publish. -/
  | work
  | farewell
  deriving DecidableEq, Repr

def Method.phase : Method → Phase
  | .header | .startOk .. | .openConnection _ => .handshake
  | .openChannel | .confirmSelect _ => .channelSetup
  | .declare _ | .publish _ => .work
  | .closeChannel .. | .closeConnection .. => .farewell

/-- What sets up the connection. -/
def handshakeScript (vhost : String) (who : Credentials) : List Method :=
  [.header, .login who, .openConnection vhost]

/-- What sets up the channel. -/
def channelScript (mode : PublishMode) : List Method :=
  .openChannel :: if mode.waitsForConfirm then [.confirmSelect false] else []

/-- The requests of a session in order. -/
def script (vhost : String) (who : Credentials) (mode : PublishMode) (d : Declaration)
    (p : Publication) :
    List Method :=
  handshakeScript vhost who ++ (channelScript mode ++ [.declare d, .publish p])

/-- How a session is closed that went well or failed in this phase. -/
def Phase.closing : Phase → List Method
  | .handshake => []
  | .channelSetup => [.closeConnection replySuccess "channel setup failed"]
  | _ => [.closeChannel replySuccess "OK", .closeConnection replySuccess "OK"]

/-! ### Setbacks -/

/-- What a session fails of. -/
inductive Setback where
  /-- No server is reached. -/
  | unreachable (text : String)
  /-- Something goes wrong with a request. -/
  | halted (m : Method) (snag : Snag)

/-- What a request fails of, if it fails and does not just stay without its positive reply. -/
def Snag.fault? : Snag → Option LinkFault
  | .unsent f | .refused f => some f
  | _ => none

/-- The soft error by which a server refuses the parameters of an exchange. -/
def Snag.IsConflict (snag : Snag) : Prop :=
  ∃ name text, snag.fault? = some (.protocol ⟨preconditionFailed, .soft, name⟩ text)

/-- What a setback is reported as, where the exchange has this name. -/
inductive Reports (exchange : String) : Setback → Failure → Prop where
  | unreachable {text reason : String} : Reports exchange (.unreachable text) (.connection reason)
  | handshake {m : Method} {snag : Snag} {reason : String} (phase : m.phase = .handshake) :
      Reports exchange (.halted m snag) (.connection reason)
  | channel {snag : Snag} {reason : String} : Reports exchange (.halted .openChannel snag)
      (.connection reason)
  | confirms {nowait : Bool} {snag : Snag} {reason : String} (answered : snag ≠ .unanswered) :
      Reports exchange (.halted (.confirmSelect nowait) snag) (.channel reason)
  /-- The limit is one on the whole channel setup. -/
  | unansweredConfirms {nowait : Bool} {reason : String} :
      Reports exchange (.halted (.confirmSelect nowait) .unanswered) (.connection reason)
  | conflict {d : Declaration} {snag : Snag} {reason : String} (conflict : snag.IsConflict) :
      Reports exchange (.halted (.declare d) snag) (.exchangeConflict exchange reason)
  | undeclared {d : Declaration} {snag : Snag} {reason : String} (other : ¬snag.IsConflict) :
      Reports exchange (.halted (.declare d) snag) (.channel reason)
  | unsent {p : Publication} {f : LinkFault} {reason : String} :
      Reports exchange (.halted (.publish p) (.unsent f)) (.channel reason)
  | unconfirmed {p : Publication} {snag : Snag} {reason : String} (sent : ∀ f, snag ≠ .unsent f) :
      Reports exchange (.halted (.publish p) snag) (.publishNotConfirmed reason)

/-- A setback is reported in one way only, the wording apart. -/
theorem Reports.kind_unique {exchange : String} {x : Setback} {f g : Failure}
    (hf : Reports exchange x f) (hg : Reports exchange x g) : f.kind = g.kind := by
  cases hf with
  | handshake phase =>
    cases hg with
    | handshake => rfl
    | channel => rfl
    | unansweredConfirms => rfl
    | _ => cases phase
  | _ => cases hg <;> first | rfl | contradiction | simp_all

theorem reports_ofDeclare {exchange : String} {d : Declaration} {snag : Snag} {f : LinkFault}
    (snagged : snag.fault? = some f) :
    Reports exchange (.halted (.declare d) snag) (f.ofDeclare exchange) := by
  by_cases conflict : snag.IsConflict
  · obtain ⟨name, text, h⟩ := conflict
    cases snagged.symm.trans h
    exact .conflict ⟨name, text, h⟩
  · have other : ∃ reason, f.ofDeclare exchange = .channel reason := by
      cases f with
      | protocol code text =>
        refine ⟨_, if_neg ?_⟩
        rintro ⟨soft, number⟩
        obtain ⟨n, severity, name⟩ := code
        cases soft
        cases number
        exact conflict ⟨name, text, snagged⟩
      | _ => exact ⟨_, rfl⟩
    obtain ⟨reason, h⟩ := other
    rw [h]
    exact .undeclared conflict

/-! ### What is told of a setback -/

/-- The step that a request of a session belongs to. -/
def Method.step : Method → Step
  | .header | .startOk .. | .openConnection _ => .connect
  | .openChannel | .confirmSelect _ => .channelSetup
  | .declare _ => .declare
  | .publish _ => .confirmation
  | .closeChannel .. => .channelClose
  | .closeConnection .. => .connectionClose

/-- What is told of a request that was made and failed, where the exchange has this name. -/
def Method.failing (exchange : String) : Method → LinkFault → Failure
  | .header, f | .startOk .., f | .openConnection _, f => .connection f.message
  | .openChannel, f => .connection ("cannot open channel: " ++ f.message)
  | .confirmSelect _, f => .channel ("cannot enable confirms: " ++ f.message)
  | .declare _, f => f.ofDeclare exchange
  | .publish _, f => .publishNotConfirmed f.message
  | .closeChannel .., f | .closeConnection .., f => .channel f.message

/-- What a client tells of a setback. A request that is not answered ends in the expiry of its
step. -/
def Client.told (c : Client) (exchange : String) : Setback → Failure
  | .unreachable text => .connection (LinkFault.io text).message
  | .halted (.publish _) (.unsent f) => .channel f.message
  | .halted (.publish _) .nacked => .publishNotConfirmed "broker nacked the message"
  | .halted m snag =>
    match snag.fault? with
    | some f => m.failing exchange f
    | none => m.step.expired (expiry (c.limit m.step) m.step.name)

section
variable {c : Client} {exchange : String} {m : Method} {snag : Snag}

theorem Client.told_failing (other : ∀ p, m ≠ .publish p) {f : LinkFault}
    (snagged : snag.fault? = some f) :
    c.told exchange (.halted m snag) = m.failing exchange f := by
  cases m with
  | publish p => exact absurd rfl (other p)
  | _ => simp only [told, snagged]

theorem Client.told_unanswered :
    c.told exchange (.halted m .unanswered) =
      m.step.expired (expiry (c.limit m.step) m.step.name) := by
  cases m <;> rfl

theorem reports_failing (other : ∀ p, m ≠ .publish p) (early : m.phase ≠ .farewell) {f : LinkFault}
    (snagged : snag.fault? = some f) :
    Reports exchange (.halted m snag) (m.failing exchange f) := by
  cases m with
  | header | startOk | openConnection => exact .handshake rfl
  | openChannel => exact .channel
  | confirmSelect =>
    refine .confirms ?_
    rintro rfl
    cases snagged
  | declare => exact reports_ofDeclare snagged
  | publish p => exact absurd rfl (other p)
  | closeChannel | closeConnection => exact absurd rfl early

theorem reports_expired (early : m.phase ≠ .farewell) (reason : String) :
    Reports exchange (.halted m .unanswered) (m.step.expired reason) := by
  cases m with
  | header | startOk | openConnection => exact .handshake rfl
  | openChannel => exact .channel
  | confirmSelect => exact .unansweredConfirms
  | declare =>
    refine .undeclared ?_
    rintro ⟨name, text, ⟨⟩⟩
  | publish => exact .unconfirmed (by simp)
  | closeChannel | closeConnection => exact absurd rfl early

end

/-! ### Waits -/

/-- What has come within a limit that is not zero. -/
def Wait.arrived? {α : Type} : Wait α → Option α
  | .now a | .later a => some a
  | .never => none

/-- A result that takes some time. -/
def Wait.delayed {α : Type} : Wait α → Wait α
  | .now a => .later a
  | w => w

@[simp] theorem Wait.arrived?_delayed {α : Type} (w : Wait α) :
    w.delayed.arrived? = w.arrived? := by
  cases w <;> rfl

theorem bounded_eq {α : Type} {limit : Limit} (limited : limit.millis ≠ 0) (step : String)
    (expired : String → Failure) (w : Wait (Except Failure α)) :
    bounded limit step expired w = w.arrived?.getD (.error (expired (expiry limit step))) := by
  cases w with
  | now r => rfl
  | later r => exact if_neg limited
  | never => rfl

theorem millis_ofSeconds {n : UInt64} (h : n ≠ 0) : (Limit.ofSeconds n).millis ≠ 0 := by
  have positive : n.toNat ≠ 0 := fun zero => h (UInt64.toNat_inj.1 zero)
  simp only [Limit.ofSeconds]
  omega

variable {σ : Type} {server : Server σ}

namespace Link

theorem await_eq {α : Type} {limit : Step → Limit} {step : Step} (limited : (limit step).millis ≠ 0)
    (w : Wait (Except Failure α)) (l : Link σ) :
    l.await limit step w = (w.arrived?.getD (.error (step.expired (expiry (limit step) step.name))),
      { l with armed := l.armed ++ [(step, limit step)] }) := by
  rw [await, bounded_eq limited]

/-! ### Requests one after another -/

/-- How requests end that are made one after another: `asks` says how a failure is reported, and
`late` is what comes of them where one is not answered. -/
inductive Settles (asks : List (Method × (LinkFault → Failure))) (late : Except Failure Unit) :
    Option (Method × Snag) → Except Failure Unit → Prop where
  | granted : Settles asks late none (.ok ())
  | failed {m : Method} {report : LinkFault → Failure} {snag : Snag} {f : LinkFault}
      (asked : (m, report) ∈ asks)
      (snagged : snag.fault? = some f) : Settles asks late (some (m, snag)) (.error (report f))
  | unanswered {m : Method} {report : LinkFault → Failure} (asked : (m, report) ∈ asks) :
      Settles asks late (some (m, .unanswered)) late

theorem Settles.cons {asks : List (Method × (LinkFault → Failure))} {late r : Except Failure Unit}
    {stop : Option (Method × Snag)} (h : Settles asks late stop r)
    (ask : Method × (LinkFault → Failure)) :
    Settles (ask :: asks) late stop r := by
  cases h with
  | granted => exact .granted
  | failed asked snagged => exact .failed (List.mem_cons_of_mem _ asked) snagged
  | unanswered asked => exact .unanswered (List.mem_cons_of_mem _ asked)

theorem Asked.cases_reply {m : Method} {l l' : Link σ} {w : Wait Reply} (h : Asked server m l w l')
    (other : ∀ p, m ≠ .publish p) :
    w = .later .ok ∨ (∃ f, w = .now (.failed f) ∨ w = .later (.failed f)) ∨ w = .never := by
  cases h with
  | @unsent f gone => exact .inr (.inl ⟨f, .inl rfl⟩)
  | @sent x _ about up spoke =>
    subst about
    rw [Exchange.reply]
    cases x.reaction with
    | accept loss? => exact .inl rfl
    | refuse loss => exact .inr (.inl ⟨loss.fault, .inr rfl⟩)
    | silent => exact .inr (.inr rfl)
    | nack =>
      dsimp only
      split
      · next p about => exact absurd about (other p)
      · exact .inr (.inr rfl)

theorem askAll_granted {m : Method} {l l' : Link σ}
    (granted : l.request server m = (.later .ok, l')) (report : LinkFault → Failure)
    (asks : List (Method × (LinkFault → Failure))) :
    l.askAll server ((m, report) :: asks) =
      ((l'.askAll server asks).1.delayed, (l'.askAll server asks).2) := by
  simp only [askAll, ask, granted, Wait.map]
  rcases l'.askAll server asks with ⟨_ | _ | _, l''⟩ <;> rfl

theorem askAll_walk (server : Server σ) (mode : PublishMode)
    {asks : List (Method × (LinkFault → Failure))} (other : ∀ ask ∈ asks, ∀ p, ask.1 ≠ .publish p)
    (late : Except Failure Unit) (l : Link σ) :
    let asked := l.askAll server asks
    let walked := l.wire.walk server mode (asks.map (·.1))
    asked.2.wire = walked.2 ∧ Settles asks late walked.1 (asked.1.arrived?.getD late) := by
  dsimp only
  induction asks generalizing l with
  | nil => exact ⟨rfl, .granted⟩
  | cons ask asks ih =>
    obtain ⟨m, report⟩ := ask
    obtain ⟨otherHere, otherLater⟩ := List.forall_mem_cons.1 other
    have awaited : m.isAwaited mode = true := by
      cases m with
      | publish p => exact absurd rfl (otherHere p)
      | _ => rfl
    have reply := (request_asked server m l).cases_reply otherHere
    have here : (m, report) ∈ (m, report) :: asks := List.mem_cons_self
    rw [List.map_cons, walk, request_wire, awaited]
    rcases asked : l.request server m with ⟨w, l'⟩
    rw [asked] at reply
    rcases reply with rfl | ⟨f, rfl | rfl⟩ | rfl
    · obtain ⟨left, rest⟩ := ih otherLater l'
      rw [askAll_granted asked, Wait.arrived?_delayed]
      exact ⟨left, rest.cons _⟩
    · simp only [askAll, ask, asked]
      exact ⟨rfl, .failed here rfl⟩
    · simp only [askAll, ask, asked]
      exact ⟨rfl, .failed here rfl⟩
    · simp only [askAll, ask, asked]
      exact ⟨rfl, .unanswered here⟩

theorem await_askAll (server : Server σ) (mode : PublishMode)
    (asks : List (Method × (LinkFault → Failure))) (other : ∀ ask ∈ asks, ∀ p, ask.1 ≠ .publish p)
    (limit : Step → Limit) (step : Step) (limited : (limit step).millis ≠ 0) (l : Link σ) :
    let asked := l.askAll server asks
    let ended := asked.2.await limit step asked.1
    ∃ stop, l.wire.walk server mode (asks.map (·.1)) = (stop, ended.2.wire) ∧
      Settles asks (.error (step.expired (expiry (limit step) step.name))) stop ended.1 := by
  intro asked ended
  obtain ⟨left, settles⟩ :=
    askAll_walk server mode other (.error (step.expired (expiry (limit step) step.name))) l
  have result : ended = _ := await_eq limited asked.1 asked.2
  rw [result]
  exact ⟨_, Prod.ext rfl left.symm, settles⟩

theorem ask_eq_askAll (server : Server σ) (m : Method) (report : LinkFault → Failure) (l : Link σ) :
    l.ask server m report = l.askAll server [(m, report)] := by
  simp only [askAll]
  rcases l.ask server m report with ⟨(_ | _) | (_ | _) | _, l'⟩ <;> rfl

/-- No request changes whether publishes are confirmed, nor does it arm a limit; waiting for what
comes of it does. -/
theorem request_keeps (server : Server σ) (m : Method) (l : Link σ) :
    (l.request server m).2.confirms = l.confirms ∧ (l.request server m).2.armed = l.armed := by
  unfold request
  split
  · exact ⟨rfl, rfl⟩
  · split
    · exact ⟨rfl, rfl⟩
    · rcases server.react m l.server with ⟨(_ | loss) | _ | loss | _, s⟩
      · cases m <;> exact ⟨rfl, rfl⟩
      · cases loss <;> cases m <;> exact ⟨rfl, rfl⟩
      · exact ⟨rfl, rfl⟩
      · cases loss <;> exact ⟨rfl, rfl⟩
      · exact ⟨rfl, rfl⟩

theorem request_confirms (server : Server σ) (m : Method) (l : Link σ) :
    (l.request server m).2.confirms = l.confirms :=
  (request_keeps server m l).1

theorem tell_wire (server : Server σ) (ms : List Method) (l : Link σ) :
    l.wire.tell server ms = (l.tell server ms).wire := by
  induction ms generalizing l with
  | nil => rfl
  | cons m ms ih =>
    have step : l.wire.tell server (m :: ms) = (l.wire.request server m).2.tell server ms := rfl
    rw [step, request_wire, ih]
    rfl

end Link

/-! ### The calls of a delivery -/

/-- No limit that counts in this mode is zero. -/
structure Client.Limited (c : Client) (mode : PublishMode) : Prop where
  connect : c.settings.connectTimeout ≠ 0
  operation : c.settings.operationTimeout ≠ 0
  confirmation : mode = .confirmed → c.confirmTimeout ≠ 0

/-- The client of a delivery with these settings. -/
def Client.of (s : Settings) (now : Nat) : Client :=
  ⟨s.broker, s.confirmTimeout, now⟩

theorem passed_of_check {s : Settings} (check : s.check = .ok ()) :
    ∀ entry ∈ s.checks, entry.1 = false := by
  rw [Settings.check] at check
  split at check
  · cases check
  · next none => simpa using List.find?_eq_none.1 none

theorem Client.limited_of_check {s : Settings} (check : s.check = .ok ()) (now : Nat) :
    (Client.of s now).Limited s.publishMode := by
  have passed := passed_of_check check
  simp only [Settings.checks, List.forall_mem_cons, decide_eq_false_iff_not] at passed
  obtain ⟨-, -, -, connect, operation, -, -, -, confirmation, -⟩ := passed
  refine ⟨connect, operation, fun mode => ?_⟩
  simpa [mode, PublishMode.waitsForConfirm, of] using confirmation

/-- What comes of a part of a session: it goes well, or its setback is told. -/
inductive Ending {α : Type} (c : Client) (exchange : String) (phase : Phase) (good : α) :
    Option (Method × Snag) → Except Failure α → Prop where
  | well : Ending c exchange phase good none (.ok good)
  | ill {m : Method} {snag : Snag} {f : Failure} (about : m.phase = phase)
      (reports : Reports exchange (.halted m snag) f)
      (told : f = c.told exchange (.halted m snag)) :
      Ending c exchange phase good (some (m, snag)) (.error f)

/-- The requests of a part of a session under the limit of one step. -/
structure Asks (exchange : String) (phase : Phase) (step : Step)
    (ask : Method × (LinkFault → Failure)) : Prop where
  phase : ask.1.phase = phase
  step : ask.1.step = step
  failing : ask.2 = ask.1.failing exchange
  other : ∀ p, ask.1 ≠ .publish p

theorem Link.Settles.ending {c : Client} {asks : List (Method × (LinkFault → Failure))}
    {step : Step} {r : Except Failure Unit} {stop : Option (Method × Snag)} {exchange : String}
    {phase : Phase}
    (h : Link.Settles asks (.error (step.expired (expiry (c.limit step) step.name))) stop r)
    (early : phase ≠ .farewell) (about : ∀ ask ∈ asks, Asks exchange phase step ask) :
    Ending c exchange phase () stop r := by
  cases h with
  | granted => exact .well
  | @failed m report snag f asked snagged =>
    have here := about _ asked
    have inside : m.phase ≠ .farewell := fun same => early (here.phase.symm.trans same)
    obtain rfl : report = m.failing exchange := here.failing
    exact .ill here.phase (reports_failing here.other inside snagged)
      (Client.told_failing here.other snagged).symm
  | @unanswered m report asked =>
    have here := about _ asked
    have inside : m.phase ≠ .farewell := fun same => early (here.phase.symm.trans same)
    obtain rfl : m.step = step := here.step
    exact .ill here.phase (reports_expired inside _) Client.told_unanswered.symm

namespace Client

variable (c : Client) (server : Server σ)

/-- The link of a session that has reached its server. -/
def reached (s₀ : σ) : Link σ := { server := s₀, isConnected := true }

theorem sent_reached (s₀ : σ) : (reached s₀).sent = [] := rfl

theorem handshake_ending {mode : PublishMode} (limited : c.Limited mode) (who : Credentials)
    (exchange : String) {s₀ : σ} (up : server.unreachable s₀ = none) :
    let asked := c.handshake server who { server := s₀ }
    let ended := asked.2.await c.limit .connect asked.1
    ∃ stop, (reached s₀).walk server mode (handshakeScript c.settings.vhost who) =
      (stop, ended.2.wire) ∧
      Ending c exchange .handshake () stop ended.1 := by
  intro asked ended
  let asks := (handshakeScript c.settings.vhost who).map fun m =>
    (m, fun f : LinkFault => Failure.connection f.message)
  have reach : asked = (reached s₀).askAll server asks := by
    simp only [asked, handshake, up]
    rfl
  have about : ∀ ask ∈ asks, Asks exchange .handshake .connect ask := by
    intro ask asked
    obtain ⟨m, listed, rfl⟩ := List.mem_map.1 asked
    rcases listed with _ | ⟨_, _ | ⟨_, _ | ⟨_, ⟨⟩⟩⟩⟩ <;> exact ⟨rfl, rfl, rfl, nofun⟩
  obtain ⟨stop, walk, settles⟩ :=
    Link.await_askAll server mode asks (fun ask h => (about ask h).other)
    c.limit .connect (millis_ofSeconds limited.connect) (reached s₀)
  rw [← reach] at walk settles
  exact ⟨stop, walk, settles.ending nofun about⟩

/-- The requests of the channel setup, with how each failure is reported. -/
def channelAsks (mode : PublishMode) : List (Method × (LinkFault → Failure)) :=
  (.openChannel, fun f => .connection ("cannot open channel: " ++ f.message)) ::
    if mode.waitsForConfirm then
      [(.confirmSelect false, fun f => .channel ("cannot enable confirms: " ++ f.message))]
    else []

theorem channelAsks_methods (mode : PublishMode) :
    (channelAsks mode).map (·.1) = channelScript mode := by
  cases mode <;> rfl

theorem mem_channelAsks {mode : PublishMode} {ask : Method × (LinkFault → Failure)}
    (h : ask ∈ channelAsks mode) :
    ask = (.openChannel, fun f => .connection ("cannot open channel: " ++ f.message)) ∨
    ask = (.confirmSelect false, fun f => .channel ("cannot enable confirms: " ++ f.message)) := by
  cases mode with
  | confirmed => simpa [channelAsks, PublishMode.waitsForConfirm] using h
  | fireAndForget => exact .inl (by simpa [channelAsks, PublishMode.waitsForConfirm] using h)

theorem setUpChannel_ending {mode : PublishMode} (limited : c.Limited mode) (exchange : String)
    (l : Link σ) :
    let asked := setUpChannel server mode l
    let ended := asked.2.await c.limit .channelSetup asked.1
    ∃ stop, l.wire.walk server mode (channelScript mode) = (stop, ended.2.wire) ∧
      Ending c exchange .channelSetup () stop ended.1 := by
  intro asked ended
  have about : ∀ ask ∈ channelAsks mode, Asks exchange .channelSetup .channelSetup ask := by
    intro ask h
    rcases mem_channelAsks h with rfl | rfl <;> exact ⟨rfl, rfl, rfl, nofun⟩
  obtain ⟨stop, walk, settles⟩ :=
    Link.await_askAll server mode (channelAsks mode) (fun ask h => (about ask h).other)
    c.limit .channelSetup (millis_ofSeconds limited.connect) l
  rw [channelAsks_methods] at walk
  exact ⟨stop, walk, settles.ending nofun about⟩

theorem declare_ending {mode : PublishMode} (limited : c.Limited mode) (spec : ExchangeSpec)
    (l : Link σ) :
    let a := c.declare server spec l
    ∃ stop, l.wire.walk server mode [.declare (.of spec)] = (stop, a.state.wire) ∧
      Ending c spec.name .work () stop a.result := by
  intro a
  have about : ∀ ask ∈ [(Method.declare (.of spec), LinkFault.ofDeclare spec.name)],
      Asks spec.name .work .declare ask := by
    rintro ask (_ | ⟨_, ⟨⟩⟩)
    exact ⟨rfl, rfl, rfl, nofun⟩
  obtain ⟨stop, walk, settles⟩ :=
    Link.await_askAll server mode _ (fun ask h => (about ask h).other) c.limit .declare
    (millis_ofSeconds limited.operation) l
  rw [← Link.ask_eq_askAll] at walk settles
  exact ⟨stop, walk, settles.ending nofun about⟩

/-- What the server's reply to a publish means where it is to be confirmed. -/
def verdict : Reply → Except Failure Bool
  | .ok => .ok true
  | .nack => .error (.publishNotConfirmed "broker nacked the message")
  | .failed f => .error (.publishNotConfirmed f.message)

theorem publish_unsent {m : Message} {l l' : Link σ} {f : LinkFault}
    (asked : l.request server (.publish (.of m c.now)) = (.now (.failed f), l')) :
    (c.publish server m l).result = .error (.channel f.message) ∧
    (c.publish server m l).state.wire = l'.wire := by
  simp only [publish, asked]
  exact ⟨rfl, rfl⟩

theorem publish_sent {m : Message} {l l' : Link σ} {w : Wait Reply}
    (asked : l.request server (.publish (.of m c.now)) = (w, l'))
    (sent : ∀ f, w ≠ .now (.failed f)) :
    (c.publish server m l).result =
      (if l'.confirms then
        bounded (c.limit .confirmation) Step.confirmation.name Step.confirmation.expired
          (w.map verdict)
      else .ok false) ∧
    (c.publish server m l).state.wire = l'.wire := by
  rcases w with (_ | _ | f) | w | _
  case now.failed => exact absurd rfl (sent f)
  all_goals
    simp only [publish, asked, Link.await, bounded]
    cases confirms : l'.confirms with
    | false => exact ⟨rfl, rfl⟩
    | true => exact ⟨rfl, rfl⟩

theorem publish_ending {mode : PublishMode} (limited : c.Limited mode) (m : Message) {l : Link σ}
    (confirms : l.confirms = mode.waitsForConfirm) :
    let a := c.publish server m l
    ∃ stop, l.wire.walk server mode [.publish (.of m c.now)] = (stop, a.state.wire) ∧
      Ending c m.exchange .work mode.waitsForConfirm stop a.result := by
  intro a
  have kept : (l.request server (.publish (.of m c.now))).2.confirms = mode.waitsForConfirm :=
    (Link.request_confirms server _ l).trans confirms
  rw [Link.walk, Link.request_wire]
  rcases asked : l.request server (.publish (.of m c.now)) with ⟨w, l'⟩
  rw [asked] at kept
  by_cases unsent : ∃ f, w = .now (.failed f)
  · obtain ⟨f, rfl⟩ := unsent
    obtain ⟨result, left⟩ := c.publish_unsent server asked
    refine ⟨_, Prod.ext rfl left.symm, ?_⟩
    rw [show a.result = _ from result]
    exact .ill rfl .unsent rfl
  · obtain ⟨result, left⟩ := c.publish_sent server asked (not_exists.1 unsent)
    rw [show a.result = _ from result, show a.state.wire = _ from left]
    dsimp only at kept ⊢
    rw [kept]
    cases mode with
    | fireAndForget =>
      refine ⟨none, ?_, .well⟩
      rcases w with (_ | _ | f) | (_ | _ | f) | _
      case now.failed => exact absurd ⟨f, rfl⟩ unsent
      all_goals rfl
    | confirmed =>
      have limit : (c.limit .confirmation).millis ≠ 0 := millis_ofSeconds (limited.confirmation rfl)
      rw [PublishMode.waitsForConfirm, if_pos rfl, bounded_eq limit]
      rcases w with (_ | _ | f) | (_ | _ | f) | _
      · exact ⟨_, rfl, .well⟩
      · exact ⟨_, rfl, .ill rfl (.unconfirmed (by simp)) rfl⟩
      · exact absurd ⟨f, rfl⟩ unsent
      · exact ⟨_, rfl, .well⟩
      · exact ⟨_, rfl, .ill rfl (.unconfirmed (by simp)) rfl⟩
      · exact ⟨_, rfl, .ill rfl (.unconfirmed (by simp)) rfl⟩
      · exact ⟨_, rfl, .ill rfl (.unconfirmed (by simp)) rfl⟩

theorem close_sent (l : Link σ) :
    (c.close server l).state.sent = (l.wire.tell server Phase.work.closing).sent := by
  let asked := l.ask server (.closeChannel replySuccess "OK") fun f => .channel f.message
  let l₁ := (asked.2.await c.limit .channelClose asked.1).2
  have same : l₁.wire = (l.wire.request server (.closeChannel replySuccess "OK")).2 := by
    rw [Link.request_wire]
    rfl
  calc (c.close server l).state.sent
    _ = (l₁.request server (.closeConnection replySuccess "OK")).2.sent := rfl
    _ = (l₁.wire.request server (.closeConnection replySuccess "OK")).2.sent := by
      rw [Link.request_wire]
      rfl
    _ = (l.wire.tell server Phase.work.closing).sent := by
      rw [same]
      rfl

/-! ### Connecting -/

/-- How connecting goes from a server in its state. -/
inductive Connecting (who : Credentials) (mode : PublishMode) (exchange : String) (s₀ : σ) :
    Answered Unit (Link σ) → Prop where
  | unreachable {text reason : String} {lines : List LogLine} {l : Link σ}
      (down : server.unreachable s₀ = some text)
      (sent : l.sent = []) (told : .connection reason = c.told exchange (.unreachable text)) :
      Connecting who mode exchange s₀ ⟨.error (.connection reason), lines, l⟩
  | halted {m : Method} {snag : Snag} {f : Failure} {lines : List LogLine} {l₁ l : Link σ}
      (up : server.unreachable s₀ = none)
      (walk : (reached s₀).walk server mode
        (handshakeScript c.settings.vhost who ++ channelScript mode) = (some (m, snag), l₁))
      (reports : Reports exchange (.halted m snag) f)
      (sent : l.sent = (l₁.tell server m.phase.closing).sent)
      (told : f = c.told exchange (.halted m snag)) :
      Connecting who mode exchange s₀ ⟨.error f, lines, l⟩
  | connected {lines : List LogLine} {l : Link σ} (up : server.unreachable s₀ = none)
      (walk : (reached s₀).walk server mode
        (handshakeScript c.settings.vhost who ++ channelScript mode) = (none, l.wire))
      (confirms : l.confirms = mode.waitsForConfirm) :
      Connecting who mode exchange s₀ ⟨.ok (), lines, l⟩

theorem connect_connecting {mode : PublishMode} (limited : c.Limited mode) (who : Credentials)
    (exchange : String) (s₀ : σ) :
    Connecting c server who mode exchange s₀ (c.connect server who mode { server := s₀ }) := by
  rw [connect]
  cases down : server.unreachable s₀ with
  | some text =>
    rw [handshake, down]
    dsimp only
    rw [Link.await_eq (millis_ofSeconds limited.connect)]
    exact .unreachable down rfl rfl
  | none =>
    obtain ⟨stop, shaken, ending⟩ := c.handshake_ending server limited who exchange down
    have walk := Link.walk_append server mode (handshakeScript c.settings.vhost who)
      (channelScript mode) (reached s₀)
    rw [shaken] at walk
    dsimp only at ending walk ⊢
    generalize Link.await c.limit .connect _ _ = ended at ending walk ⊢
    obtain ⟨r, l₁⟩ := ended
    cases ending with
    | ill about reports told =>
      refine .halted down walk reports ?_ told
      rw [about]
      rfl
    | well =>
      obtain ⟨stop, set, ending⟩ := c.setUpChannel_ending server limited exchange l₁
      dsimp only at ending walk set ⊢
      rw [set] at walk
      generalize Link.await c.limit .channelSetup _ _ = ended at ending walk ⊢
      obtain ⟨r, l₂⟩ := ended
      cases ending with
      | well => exact .connected down walk rfl
      | ill about reports told =>
        refine .halted down walk reports ?_ told
        rw [about, Phase.closing, Link.tell_wire]
        rfl

/-! ### The whole session -/

/-- The requests of a session that publishes this message. -/
def requests (who : Credentials) (mode : PublishMode) (m : Message) : List Method :=
  script c.settings.vhost who mode (.of (.durableFanout m.exchange)) (.of m c.now)

theorem requests_eq (who : Credentials) (mode : PublishMode) (m : Message) :
    c.requests who mode m = (handshakeScript c.settings.vhost who ++ channelScript mode) ++
      ([.declare (.of (.durableFanout m.exchange))] ++ [.publish (.of m c.now)]) := by
  simp [requests, script]

/-- How a session goes that publishes one message: what comes of it, and everything that was
sent. -/
inductive Session (who : Credentials) (mode : PublishMode) (m : Message) (s₀ : σ) :
    Except Failure Bool → List Method → Prop where
  | unreachable {text reason : String} (down : server.unreachable s₀ = some text)
      (told : .connection reason = c.told m.exchange (.unreachable text)) :
      Session who mode m s₀ (.error (.connection reason)) []
  | halted {last : Method} {snag : Snag} {f : Failure} {l : Link σ}
      (up : server.unreachable s₀ = none)
      (walk : (reached s₀).walk server mode (c.requests who mode m) = (some (last, snag), l))
      (reports : Reports m.exchange (.halted last snag) f)
      (told : f = c.told m.exchange (.halted last snag)) :
      Session who mode m s₀ (.error f) (l.tell server last.phase.closing).sent
  | delivered {l : Link σ} (up : server.unreachable s₀ = none)
      (walk : (reached s₀).walk server mode (c.requests who mode m) = (none, l)) :
      Session who mode m s₀ (.ok mode.waitsForConfirm) (l.tell server Phase.work.closing).sent

section
variable {c : Client} {server : Server σ} {who : Credentials} {mode : PublishMode} {m : Message}
  {s₀ : σ} {lines lines' : List LogLine} {l₁ l₂ : Link σ}

/-- A session comes to its server, which gets the header before anything else; or it ends in what
the system says of a server that is not reached. -/
theorem Session.approach {outcome : Except Failure Bool} {sent : List Method}
    (h : Session c server who mode m s₀ outcome sent) :
    match server.unreachable s₀ with
    | none => sent.head? = some .header
    | some text => sent = [] ∧ outcome = .error (.connection ("IO error: " ++ text)) := by
  have first {l : Link σ} {stop : Option (Method × Snag)}
      (walk : (reached s₀).walk server mode (c.requests who mode m) = (stop, l)) :
      l.sent.head? = some .header :=
    Link.head?_sent_of_walk walk rfl rfl rfl
  cases h with
  | unreachable down told =>
    rw [down, told]
    exact ⟨rfl, rfl⟩
  | @halted last snag f l up walk reports told =>
    obtain ⟨ys, spoke, -⟩ := l.tell_spoke server last.phase.closing
    rw [up]
    exact spoke.head?_sent (first walk)
  | @delivered l up walk =>
    obtain ⟨ys, spoke, -⟩ := l.tell_spoke server Phase.work.closing
    rw [up]
    exact spoke.head?_sent (first walk)

theorem walk_of_connect (limited : c.Limited mode)
    (connect : c.connect server who mode { server := s₀ } = ⟨.ok (), lines, l₁⟩) :
    server.unreachable s₀ = none ∧ l₁.confirms = mode.waitsForConfirm ∧
      (reached s₀).walk server mode (c.requests who mode m) =
        l₁.wire.walk server mode ([.declare (.of (.durableFanout m.exchange))] ++
          [.publish (.of m c.now)]) := by
  have connecting := c.connect_connecting server limited who m.exchange s₀
  rw [connect] at connecting
  cases connecting with
  | connected up walk confirms =>
    refine ⟨up, confirms, ?_⟩
    rw [requests_eq, Link.walk_append, walk]

theorem walk_of_declare (limited : c.Limited mode)
    (connect : c.connect server who mode { server := s₀ } = ⟨.ok (), lines, l₁⟩)
    (declare : c.declare server (.durableFanout m.exchange) l₁ = ⟨.ok (), lines', l₂⟩) :
    server.unreachable s₀ = none ∧ l₂.confirms = mode.waitsForConfirm ∧
      (reached s₀).walk server mode (c.requests who mode m) =
        l₂.wire.walk server mode [.publish (.of m c.now)] := by
  obtain ⟨up, confirms, walk⟩ := walk_of_connect (m := m) limited connect
  obtain ⟨stop, declared, ending⟩ := c.declare_ending server limited (.durableFanout m.exchange) l₁
  have kept : l₂.confirms = l₁.confirms := by
    rw [← Link.request_confirms server (.declare (.of (.durableFanout m.exchange))) l₁]
    exact congrArg (·.state.confirms) declare.symm
  rw [declare] at declared ending
  cases ending with
  | well => exact ⟨up, kept.trans confirms, by rw [walk, Link.walk_append, declared]⟩

/-- A session that gets as far as the publish, closed after it. -/
theorem session_of_publish (limited : c.Limited mode) {lines'' : List LogLine}
    {outcome : Except Failure Bool} {l₃ : Link σ}
    (connect : c.connect server who mode { server := s₀ } = ⟨.ok (), lines, l₁⟩)
    (declare : c.declare server (.durableFanout m.exchange) l₁ = ⟨.ok (), lines', l₂⟩)
    (publish : c.publish server m l₂ = ⟨outcome, lines'', l₃⟩) :
    Session c server who mode m s₀ outcome (l₃.wire.tell server Phase.work.closing).sent := by
  obtain ⟨up, confirms, walk⟩ := walk_of_declare limited connect declare
  obtain ⟨stop, published, ending⟩ := c.publish_ending server limited m confirms
  rw [publish] at published ending
  cases ending with
  | well => exact .delivered up (walk.trans published)
  | ill about reports told =>
    have halted := Session.halted up (walk.trans published) reports told
    rw [about] at halted
    exact halted

end

theorem session_of_transaction {c : Client} {server : Server σ} {who : Credentials}
    {mode : PublishMode} {m : Message} {s₀ : σ} {acts : List Event} {outcome : Except Failure Bool}
    {l : Link σ} (limited : c.Limited mode)
    (h : Delivery.Transaction (c.broker server) who mode m { server := s₀ } acts outcome l) :
    Session c server who mode m s₀ outcome l.sent := by
  cases h with
  | @refused _ _ l connect =>
    have connecting := c.connect_connecting server limited who m.exchange s₀
    rw [show c.connect server who mode { server := s₀ } = _ from connect] at connecting
    cases connecting with
    | unreachable down sent told =>
      rw [sent]
      exact .unreachable down told
    | halted up walk reports sent told =>
      rw [sent]
      refine .halted up ?_ reports told
      rw [requests_eq, Link.walk_append, walk]
  | @undeclared _ _ _ _ _ l₁ l₂ _ connect declare close =>
    obtain ⟨up, -, walk⟩ := walk_of_connect (m := m) limited connect
    obtain ⟨stop, declared, ending⟩ :=
      c.declare_ending server limited (.durableFanout m.exchange) l₁
    have closed := c.close_sent server l₂
    rw [show c.declare server _ _ = _ from declare] at declared ending
    rw [show c.close server _ = _ from close] at closed
    rw [closed]
    cases ending with
    | ill about reports told =>
      rw [Link.walk_append, declared] at walk
      have halted := Session.halted up walk reports told
      rw [about] at halted
      exact halted
  | @unpublished _ _ _ _ _ _ l₁ l₂ l₃ _ connect declare publish close =>
    have closed := c.close_sent server l₃
    rw [show c.close server _ = _ from close] at closed
    rw [closed]
    exact session_of_publish limited connect declare publish
  | @published _ _ _ _ _ _ l₁ l₂ l₃ _ connect declare publish close =>
    have closed := c.close_sent server l₃
    rw [show c.close server _ = _ from close] at closed
    rw [closed]
    exact session_of_publish limited connect declare publish

end Client

open Delivery (forward prepare announcement report)

/-- A delivery over a link to a server: the preparation fails and nothing is sent, or there is one
session. -/
theorem forward_session {ς : Type} (source : SecretSource ς) (server : Server σ) (s : Settings)
    (input : List UInt8) (id : MessageId) (secrets : ς) (s₀ : σ) (now : Nat) :
    let c := Client.of s now
    let r := (forward s input id).run source (c.broker server) secrets { server := s₀ }
    (∃ f, prepare source s input secrets = .error f ∧ r.result = .error f ∧ r.broker.sent = []) ∨
    ∃ change who outcome, prepare source s input secrets = .ok (change, who) ∧
      c.Session server who s.publishMode (announcement s change id) s₀ outcome r.broker.sent ∧
      r.result = outcome.map (report s change id) := by
  intro c r
  rcases Delivery.forward_course source (c.broker server) s input id secrets { server := s₀ } with
    ⟨f, prepared, result, same⟩ |
      ⟨change, who, before, acts, outcome, prepared, transaction, _, result⟩
  · rw [show r.broker = _ from same]
    exact .inl ⟨f, prepared.eq_prepare.symm, result, rfl⟩
  · refine .inr ⟨change, who, outcome, prepared.eq_prepare.symm, ?_, result⟩
    cases prepared with
    | ready check =>
      exact Client.session_of_transaction (Client.limited_of_check check now) transaction

end KeyRelay.Amqp
