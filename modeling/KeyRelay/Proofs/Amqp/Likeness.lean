import Mathlib.Data.List.Forall2
import KeyRelay.Proofs.Amqp.Conversation
import KeyRelay.Proofs.Delivery.InMemory

/-!
A broker in memory against a server that behaves as the broker's state says. `Owes` is what such a
server answers to the requests of a session, and `Embodies` says that it does. A delivery comes to
the same over a link to the server as at the broker in memory, and the server gets a publish exactly
where the broker in memory does.
-/

namespace KeyRelay

/-! ### What a broker in memory gets -/

/-- What a call publishes. -/
def Call.message? : Call → Option Message
  | .publish m => some m
  | _ => none

/-- A delivery with these credentials gets as far as to publish to this exchange. -/
def MemoryBroker.admits (b : MemoryBroker) (who : Credentials) (exchange : String) : Bool :=
  b.accepts who && (b.clash? exchange).isNone

/-- The calls of a run are those of its turns. -/
theorem Ran.calls_eq {α σ τ : Type} (r : Ran α σ τ) : r.calls = r.turns.map (·.call) := by
  rw [calls, turns, List.map_filterMap]
  congr 1
  funext e
  rcases e with _ | _ | ⟨_ | _, _⟩ <;> rfl

namespace Delivery

theorem Transaction.offered {b : MemoryBroker} {who : Credentials} {mode : PublishMode}
    {m : Message} {acts : List Event} {outcome : Except Failure Bool}
    {t : MemoryBroker × Option MemorySession}
    (h : Transaction MemoryBroker.broker who mode m (b, none) acts outcome t) :
    (acts.filterMap Event.turn?).filterMap (·.call.message?) = if b.admits who m.exchange then [m]
      else [] := by
  obtain ⟨b', session⟩ := t
  cases h with
  | refused connect =>
    cases MemoryBroker.effect_of_answer connect trivial with
    | refused access => simp [MemoryBroker.admits, access, Call.message?]
    | unopened h => exact absurd rfl h
  | @undeclared _ _ _ _ _ _ t₂ _ connect declare close =>
    obtain ⟨access, rfl⟩ := opened_of_answer connect
    obtain ⟨b₂, s₂⟩ := t₂
    cases MemoryBroker.effect_of_answer declare rfl with
    | clashing clash =>
      have clash : b.clash? m.exchange = some _ := clash
      simp [MemoryBroker.admits, clash, Call.message?]
  | unpublished connect declare publish close =>
    obtain ⟨access, free, -⟩ := provided_of_answers connect declare
    simp [MemoryBroker.admits, access, free, Call.message?]
  | published connect declare publish close =>
    obtain ⟨access, free, -⟩ := provided_of_answers connect declare
    simp [MemoryBroker.admits, access, free, Call.message?]

variable {σ : Type} (source : SecretSource σ)

/-- What a delivery offers to a broker in memory: the message that announces the change, where it
gets as far. -/
theorem forward_offered (s : Settings) (input : List UInt8) (id : MessageId) (secrets : σ)
    (b : MemoryBroker) :
    ((forward s input id).run source MemoryBroker.broker secrets (b, none)).calls.filterMap
      Call.message? =
      match prepare source s input secrets with
      | .error _ => []
      | .ok (change, who) => if b.admits who s.broker.exchange then [announcement s change id]
        else [] := by
  rw [Ran.calls_eq, List.filterMap_map]
  rcases forward_turns source MemoryBroker.broker s input id secrets (b, none) with
    ⟨f, prepared, -, none⟩ | ⟨change, who, acts, outcome, prepared, transaction, turns, -⟩
  · rw [prepared, none]
    rfl
  · rw [prepared, turns]
    exact transaction.offered

end Delivery

namespace Amqp

/-! ### What a server owes -/

/-- The reaction that a broker in this state owes to a request of a session by this user. Nothing is
asked of a publish that is not to be confirmed. -/
def Owes (b : MemoryBroker) (who : Credentials) (mode : PublishMode) : Method → Reaction → Prop
  | .startOk .., r => if b.accepts who then r = .accept none else ∃ loss, r = .refuse loss
  | .declare d, r =>
    match b.exchange? d.exchange with
    | some spec => if .of spec = d then r = .accept none else ∃ text,
      r = .refuse (.channel preconditionFailed text)
    | none => r = .accept none
  | .publish _, r => mode = .confirmed → if b.nacking then r = .nack else ∃ loss?, r = .accept loss?
  | _, r => r = .accept none

variable {σ : Type}

/-- The server treats a session of this user as the broker in memory says: it can be reached, and
reacts to each request in turn as long as it has accepted those before. -/
structure Embodies (server : Server σ) (s₀ : σ) (b : MemoryBroker) (who : Credentials)
    (mode : PublishMode) : Prop where
  reachable : server.unreachable s₀ = none
  owes : ∀ vhost d p before m, before ++ [m] <+: script vhost who mode d p →
    (∀ x ∈ server.transcript s₀ before, x.isAccepted = true) →
      Owes b who mode m (server.react m (server.after s₀ before)).1

section
variable {server : Server σ} {s₀ : σ} {b : MemoryBroker} {who : Credentials} {mode : PublishMode}
  {vhost : String} {d : Declaration} {p : Publication} {xs : List Exchange} {l : Link σ}

/-- The server owes what it has said. -/
theorem Embodies.owes_of_spoke (h : Embodies server s₀ b who mode)
    (spoke : Link.Spoke server (Client.reached s₀) xs l)
    (inOrder : InOrder (script vhost who mode d p) xs) :
    ∀ x ∈ xs, Owes b who mode x.method x.reaction := by
  intro x here
  obtain ⟨before, after, rfl⟩ := List.append_of_mem here
  have heard := spoke.heard
  rw [List.map_append, List.map_cons, Server.transcript_append] at heard
  obtain ⟨heardBefore, heardAfter⟩ :=
    List.append_inj heard (by rw [Server.length_transcript, List.length_map])
  have upTo : before.map (·.method) ++ [x.method] <+: script vhost who mode d p :=
    List.IsPrefix.trans ⟨after.map (·.method), by simp⟩ inOrder.order
  have accepted : ∀ y ∈ before, y.isAccepted = true := fun y h => inOrder.granted y (by
    rw [List.dropLast_append_of_ne_nil (List.cons_ne_nil x after)]
    exact List.mem_append_left _ h)
  have owed := h.owes vhost d p _ _ upTo (by
    rw [show server.transcript s₀ _ = _ from heardBefore]
    exact accepted)
  have reaction := congrArg Exchange.reaction (List.cons.inj heardAfter).1
  rw [← reaction]
  exact owed

/-- What is owed to a request other than a publish is accepted with nothing lost, or refused. -/
theorem Owes.accepted {m : Method} {r : Reaction} (h : Owes b who mode m r)
    (accepted : Exchange.isAccepted ⟨m, r⟩ = true) (other : ∀ p, m ≠ .publish p) :
    r = .accept none := by
  cases m with
  | startOk mechanism response locale =>
    rw [Owes] at h
    split at h
    · exact h
    · obtain ⟨loss, rfl⟩ := h
      cases accepted
  | declare d =>
    rw [Owes] at h
    split at h
    · split at h
      · exact h
      · obtain ⟨text, rfl⟩ := h
        cases accepted
    · exact h
  | publish p => exact absurd rfl (other p)
  | _ => exact h

/-- What is asked for on the channel comes after the channel is opened. -/
theorem script_eq_openChannel (vhost : String) (who : Credentials) (mode : PublishMode)
    (d : Declaration) (p : Publication) :
    ∃ back, script vhost who mode d p = handshakeScript vhost who ++ .openChannel :: back ∧
      ∀ m ∈ handshakeScript vhost who ++ [.openChannel], m.needsChannel = false :=
  ⟨_, rfl, by simp [handshakeScript, Method.login, Method.needsChannel]⟩

/-- A walk with such a server does not halt because something cannot be sent. -/
theorem Embodies.not_gone (h : Embodies server s₀ b who mode) {last : Method}
    (spoke : Link.Spoke server (Client.reached s₀) xs l)
    (front : xs.map (·.method) ++ [last] <+: script vhost who mode d p)
    (accepted : ∀ x ∈ xs, x.isAccepted = true) :
    ¬(last.needsChannel = true ∧ l.hasChannel = false ∨ l.isConnected = false) := by
  have inOrder : InOrder (script vhost who mode d p) xs :=
    ⟨(List.prefix_append _ _).trans front, fun x h =>
      accepted x ((List.dropLast_sublist xs).subset h)⟩
  have kept : ∀ x ∈ xs, x.reaction = .accept none := by
    intro x here
    refine (h.owes_of_spoke spoke inOrder x here).accepted (accepted x here) fun q publish => ?_
    exact not_publish_of_script front q (publish ▸ List.mem_map_of_mem here)
  rintro (⟨onChannel, closed⟩ | down)
  · obtain ⟨back, eq, others⟩ := script_eq_openChannel vhost who mode d p
    rw [eq] at front
    have opened := mem_before_of_append front fun early => by
      cases onChannel.symm.trans (others _ early)
    obtain ⟨x, here, about⟩ := List.mem_map.1 opened
    have there : l.hasChannel = true := by
      rw [spoke.channel kept, List.any_eq_true.2 ⟨x, here, decide_eq_true about⟩, Bool.or_true]
    cases there.symm.trans closed
  · have up : l.isConnected = true := by
      rw [spoke.standing, List.all_eq_true.2 fun x here => ?_]
      · rfl
      · rw [Exchange.severs, kept x here]
        rfl
    cases up.symm.trans down

/-! ### How a session ends -/

/-- What is published by a method. -/
def Method.publication? : Method → Option Publication
  | .publish p => some p
  | _ => none

/-- Where a session ends that declares this exchange, and what the server gets published: it is
refused at the login, clashes at the declaration, is nacked at the publish, or goes through. -/
inductive Serves (b : MemoryBroker) (who : Credentials) (mode : PublishMode) (exchange : String)
    (p : Publication) :
    Option (Method × Snag) → List Publication → Prop where
  | refused {snag : Snag} (access : b.accepts who = false) :
      Serves b who mode exchange p (some (.login who, snag)) []
  | clashing {d : Declaration} {spec : ExchangeSpec} {snag : Snag} (access : b.accepts who = true)
      (clash : b.clash? exchange = some spec) (conflict : snag.IsConflict) :
      Serves b who mode exchange p (some (.declare d, snag)) []
  | nacked (access : b.accepts who = true) (free : b.clash? exchange = none)
      (nacking : b.nacking = true)
      (confirms : mode = .confirmed) : Serves b who mode exchange p (some (.publish p, .nacked)) [p]
  | through (access : b.accepts who = true) (free : b.clash? exchange = none)
      (acked : mode = .confirmed → b.nacking = false) : Serves b who mode exchange p none [p]

theorem Owes.login {r : Reaction} (h : Owes b who mode (.login who) r) :
    b.accepts who = true ∧ r = .accept none ∨ b.accepts who = false ∧ ∃ loss, r = .refuse loss := by
  rw [Method.login, Owes] at h
  split at h
  · next access => exact .inl ⟨access, h⟩
  · next access => exact .inr ⟨by simpa using access, h⟩

theorem Declaration.of_injective {e f : ExchangeSpec} (h : Declaration.of e = .of f) : e = f := by
  cases e
  cases f
  cases h
  rfl

theorem Owes.declare {r : Reaction} {name : String}
    (h : Owes b who mode (.declare (.of (.durableFanout name))) r) :
    b.clash? name = none ∧ r = .accept none ∨
    ∃ spec text, b.clash? name = some spec ∧ r = .refuse (.channel preconditionFailed text) := by
  rw [Owes] at h
  split at h
  · next spec held =>
    have held : b.exchange? name = some spec := held
    split at h
    · next same =>
      cases Declaration.of_injective same
      exact .inl ⟨MemoryBroker.clash?_eq_none.2 (.inr held), h⟩
    · next differs =>
      obtain ⟨text, rfl⟩ := h
      refine .inr ⟨spec, text, MemoryBroker.clash?_eq_some.2 ⟨held, ?_⟩, rfl⟩
      rintro rfl
      exact differs rfl
  · next absent => exact .inl ⟨MemoryBroker.clash?_eq_none.2 (.inl absent), h⟩

theorem mem_script {m : Method} (h : m ∈ script vhost who mode d p) :
    (∀ mechanism response locale, m = .startOk mechanism response locale → m = .login who) ∧
      (∀ e, m = .declare e → e = d) ∧ ∀ q, m = .publish q → q = p := by
  revert m
  cases mode <;> simp [script, handshakeScript, channelScript, Method.login,
    PublishMode.waitsForConfirm]

section
variable {x : Exchange} {name : String}

theorem Owes.access (owed : Owes b who mode x.method x.reaction) (about : x.method = .login who)
    (accepted : x.isAccepted = true) : b.accepts who = true := by
  rw [about] at owed
  rcases owed.login with ⟨access, -⟩ | ⟨-, loss, refused⟩
  · exact access
  · simp [Exchange.isAccepted, refused] at accepted

theorem Owes.free (owed : Owes b who mode x.method x.reaction)
    (about : x.method = .declare (.of (.durableFanout name))) (accepted : x.isAccepted = true) :
    b.clash? name = none := by
  rw [about] at owed
  rcases owed.declare with ⟨free, -⟩ | ⟨spec, text, -, refused⟩
  · exact free
  · simp [Exchange.isAccepted, refused] at accepted

theorem Owes.acked (owed : Owes b who .confirmed x.method x.reaction)
    (about : x.method = .publish p) (accepted : x.isAccepted = true) : b.nacking = false := by
  rw [about] at owed
  cases nacking : b.nacking with
  | false => rfl
  | true =>
    have nacked : x.reaction = .nack := by simpa [nacking] using owed rfl
    simp [Exchange.isAccepted, nacked] at accepted

/-- What can be wrong with an exchange where the server says what it owes. -/
theorem Owes.halts {snag : Snag} (owed : Owes b who mode x.method x.reaction)
    (trouble : x.reply.snag? (x.method.isAwaited mode) = some snag)
    (wanted : x.method ∈ script vhost who mode (.of (.durableFanout name)) p) :
    x.method = .login who ∧ b.accepts who = false ∨
    (∃ d spec, x.method = .declare d ∧ b.clash? name = some spec ∧ snag.IsConflict) ∨
    x.method = .publish p ∧ mode = .confirmed ∧ b.nacking = true ∧ snag = .nacked := by
  have short : x.isEnough mode = false := by
    rw [← Bool.not_eq_true, ← x.snag?_eq_none mode, trouble]
    simp
  obtain ⟨m, r⟩ := x
  obtain ⟨logins, declarations, publishes⟩ := mem_script wanted
  dsimp only at owed trouble logins declarations publishes ⊢
  cases m with
  | startOk mechanism response locale =>
    rw [logins _ _ _ rfl] at owed ⊢
    rcases owed.login with ⟨-, rfl⟩ | ⟨access, -⟩
    · cases short
    · exact .inl ⟨rfl, access⟩
  | declare d =>
    cases declarations d rfl
    rcases owed.declare with ⟨-, rfl⟩ | ⟨spec, text, clash, rfl⟩
    · cases short
    · obtain rfl := Option.some.inj trouble
      exact .inr (.inl ⟨_, spec, rfl, clash, _, text, rfl⟩)
  | publish q =>
    cases publishes q rfl
    cases mode with
    | fireAndForget =>
      simp [Exchange.isEnough, Method.isAwaited, PublishMode.waitsForConfirm] at short
    | confirmed =>
      have owed := owed rfl
      cases nacking : b.nacking with
      | false =>
        obtain ⟨loss?, rfl⟩ : ∃ loss?, r = .accept loss? := by simpa [nacking] using owed
        cases short
      | true =>
        obtain rfl : r = .nack := by simpa [nacking] using owed
        obtain rfl := Option.some.inj trouble
        exact .inr (.inr ⟨rfl, rfl, rfl, rfl⟩)
  | _ =>
    cases owed
    cases short

end

theorem publications_script :
    (script vhost who mode d p).filterMap Method.publication? = [p] := by
  cases mode <;> rfl

theorem publications_of_script {before : List Method} {last : Method}
    (front : before ++ [last] <+: script vhost who mode d p) :
    (before ++ [last]).filterMap Method.publication? = last.publication?.toList := by
  have none : before.filterMap Method.publication? = [] := by
    rw [List.filterMap_eq_nil_iff]
    intro m here
    cases m with
    | publish q => exact absurd here (not_publish_of_script front q)
    | _ => rfl
  rw [List.filterMap_append, none, List.nil_append]
  cases last <;> rfl

section
variable {last : Method} {name : String} (owes : ∀ x ∈ xs, Owes b who mode x.method x.reaction)
  (accepted : ∀ x ∈ xs, x.isAccepted = true)
  (front : xs.map (·.method) ++ [last] <+: script vhost who mode (.of (.durableFanout name)) p)
include owes accepted front

/-- What comes after the login is reached only by a user whom the broker accepts. -/
theorem accepts_of_later (later : last ∉ [.header] ++ [.login who]) : b.accepts who = true := by
  obtain ⟨back, eq⟩ : ∃ back, script vhost who mode (.of (.durableFanout name)) p =
      [.header] ++ .login who :: back := ⟨_, rfl⟩
  rw [eq] at front
  obtain ⟨x, here, login⟩ := List.mem_map.1 (mem_before_of_append front later)
  exact (owes x here).access login (accepted x here)

/-- The publish is reached only where no exchange of the broker clashes. -/
theorem free_of_publish (publish : last = .publish p) : b.clash? name = none := by
  obtain ⟨eq, others⟩ := script_eq_declare vhost who mode (.of (.durableFanout name)) p
  rw [eq, publish] at front
  obtain ⟨x, here, declare⟩ :=
    List.mem_map.1 (mem_before_of_append front fun early => others _ early rfl)
  exact (owes x here).free declare (accepted x here)

end

/-- With such a server, a session ends where the broker in memory says. -/
theorem Embodies.serves (h : Embodies server s₀ b who mode) {exchange : String}
    {stop : Option (Method × Snag)}
    (walk : (Client.reached s₀).walk server mode
      (script vhost who mode (.of (.durableFanout exchange)) p) = (stop, l)) :
    Serves b who mode exchange p stop (l.sent.filterMap Method.publication?) := by
  obtain ⟨xs, spoke, ended⟩ := Link.walk_ended walk
  rw [spoke.sent, Client.sent_reached, List.nil_append]
  have owes := h.owes_of_spoke spoke ended.inOrder
  cases ended with
  | through whole enough =>
    have said (m : Method) (asked : m ∈ script vhost who mode (.of (.durableFanout exchange)) p)
        (awaited : m.isAwaited mode = true) : ∃ x ∈ xs, x.method = m ∧ x.isAccepted = true := by
      rw [← whole] at asked
      obtain ⟨x, here, rfl⟩ := List.mem_map.1 asked
      exact ⟨x, here, rfl, by simpa [Exchange.isEnough, awaited] using enough x here⟩
    obtain ⟨x, hx, login, granted⟩ := said (.login who) (by simp [script, handshakeScript]) rfl
    obtain ⟨y, hy, declare, declared⟩ :=
      said (.declare (.of (.durableFanout exchange))) (by simp [script]) rfl
    rw [whole, publications_script]
    refine .through ((owes x hx).access login granted) ((owes y hy).free declare declared) ?_
    rintro rfl
    obtain ⟨z, hz, publish, acked⟩ := said (.publish p) (by simp [script]) rfl
    exact (owes z hz).acked publish acked
  | @halted xs ys m snag front enough stops =>
    have accepted := granted_of_script front enough
    cases stops with
    | unsent gone =>
      rw [List.append_nil] at spoke
      exact absurd gone (h.not_gone spoke front accepted)
    | @wrong y _ about trouble =>
      subst about
      have owed := owes y (List.mem_append_right xs List.mem_cons_self)
      have published := publications_of_script front
      rw [List.map_append, List.map_singleton, published]
      have owesBefore : ∀ x ∈ xs, Owes b who mode x.method x.reaction :=
        fun x here => owes x (List.mem_append_left _ here)
      have access := accepts_of_later owesBefore accepted front
      rcases owed.halts trouble (front.subset (List.mem_append_right _ List.mem_cons_self)) with
        ⟨login, refused⟩ | ⟨d, spec, declare, clash, conflict⟩ | ⟨publish, rfl, nacking, rfl⟩
      · rw [login]
        exact .refused refused
      · rw [declare] at access ⊢
        exact .clashing (access (by simp [Method.login])) clash conflict
      · have free := free_of_publish owesBefore accepted front publish
        rw [publish] at access ⊢
        exact .nacked (access (by simp [Method.login])) free nacking rfl

/-- A farewell publishes nothing. -/
theorem publications_tell (phase : Phase) (l : Link σ) :
    (l.tell server phase.closing).sent.filterMap Method.publication? =
      l.sent.filterMap Method.publication? := by
  obtain ⟨xs, spoke, sub⟩ := l.tell_spoke server phase.closing
  have none : (xs.map (·.method)).filterMap Method.publication? = [] := by
    rw [List.filterMap_eq_nil_iff]
    intro m here
    have closing := sub.subset here
    cases phase with
    | handshake => cases closing
    | channelSetup =>
      rw [List.mem_singleton.1 closing]
      rfl
    | _ =>
      rcases List.mem_cons.1 closing with rfl | closing
      · rfl
      · rw [List.mem_singleton.1 closing]
        rfl
  rw [spoke.sent, List.filterMap_append, none, List.append_nil]

end

/-! ### A server for a broker in memory -/

/-- A login that the broker accepts. -/
def takes (b : MemoryBroker) (login : Method) : Bool :=
  match b.accepted with
  | some c => login = .login c
  | none => true

theorem takes_login (b : MemoryBroker) {who : Credentials}
    (own : ∀ c, b.accepted = some c → Method.login who = .login c → who = c) :
    takes b (.login who) = b.accepts who := by
  rw [takes, MemoryBroker.accepts]
  cases accepted : b.accepted with
  | none => rfl
  | some c => exact decide_eq_decide.2 ⟨fun h => (own c accepted h).symm, fun h => by rw [h]⟩

/-- Hosts a broker in memory: the login, the declaration and the publish are answered as its state
says. -/
def host (b : MemoryBroker) : Server Unit where
  unreachable _ := none
  react m _ := (match m with
    | .startOk .. =>
      if takes b m then .accept none
        else .refuse (.connection 403 "ACCESS_REFUSED - login was refused")
    | .declare d =>
      match b.exchange? d.exchange with
      | some spec =>
        if .of spec = d then .accept none
        else .refuse (.channel preconditionFailed "PRECONDITION_FAILED - inequivalent arg")
      | none => .accept none
    | .publish _ => if b.nacking then .nack else .accept none
    | _ => .accept none, ())

/-- The host embodies its broker, for every user whose login is not that of another who is
accepted. -/
theorem host_embodies (b : MemoryBroker) (who : Credentials) (mode : PublishMode)
    (own : ∀ c, b.accepted = some c → Method.login who = .login c → who = c) :
    Embodies (host b) () b who mode where
  reachable := rfl
  owes := by
    intro vhost d p before m front _
    obtain ⟨logins, -, -⟩ := mem_script (front.subset (List.mem_append_right _ List.mem_cons_self))
    cases m with
    | startOk mechanism response locale =>
      rw [logins _ _ _ rfl]
      change if b.accepts who then (if takes b (.login who) then _ else _) = _
        else ∃ loss, (if takes b (.login who) then _ else _) = _
      rw [takes_login b own]
      split
      · rfl
      · exact ⟨_, rfl⟩
    | declare d =>
      cases held : b.exchange? d.exchange with
      | none => simp [Owes, host, held]
      | some spec => by_cases same : Declaration.of spec = d <;> simp [Owes, host, held, same]
    | publish p =>
      intro _
      cases nacking : b.nacking <;> simp [host, nacking]
    | _ => rfl

/-! ### Against the broker in memory -/

variable {server : Server σ} {s₀ : σ} {b : MemoryBroker} {who : Credentials} {mode : PublishMode}

theorem Client.Session.likeness {c : Client} {m : Message} {outcome : Except Failure Bool}
    {sent : List Method} (h : c.Session server who mode m s₀ outcome sent)
    (embodies : Embodies server s₀ b who mode) :
    outcome.mapError Failure.kind = (b.verdict who mode m.exchange).mapError Failure.kind ∧
      sent.filterMap Method.publication? = if b.admits who m.exchange then [.of m c.now]
        else [] := by
  cases h with
  | unreachable down => cases down.symm.trans embodies.reachable
  | @halted last snag f l up walk reports =>
    have serves := embodies.serves walk
    rw [publications_tell]
    generalize l.sent.filterMap Method.publication? = published at serves ⊢
    cases serves with
    | refused access =>
      refine ⟨?_, by simp [MemoryBroker.admits, access]⟩
      rw [MemoryBroker.verdict, access]
      exact congrArg Except.error (reports.kind_unique (.handshake rfl))
    | clashing access clash conflict =>
      refine ⟨?_, by simp [MemoryBroker.admits, clash]⟩
      rw [MemoryBroker.verdict, access, clash]
      exact congrArg Except.error (reports.kind_unique (.conflict conflict))
    | nacked access free nacking confirms =>
      refine ⟨?_, by simp [MemoryBroker.admits, access, free]⟩
      rw [MemoryBroker.verdict, access, free, nacking, confirms]
      exact congrArg Except.error (reports.kind_unique (.unconfirmed (by simp)))
  | @delivered l up walk =>
    have serves := embodies.serves walk
    rw [publications_tell]
    generalize l.sent.filterMap Method.publication? = published at serves ⊢
    cases serves with
    | through access free acked =>
      refine ⟨?_, by simp [MemoryBroker.admits, access, free]⟩
      cases mode with
      | confirmed =>
        simp [MemoryBroker.verdict, access, free, acked rfl, PublishMode.waitsForConfirm]
      | fireAndForget => simp [MemoryBroker.verdict, access, free, PublishMode.waitsForConfirm]

/-- What is published on the wire is this message. -/
structure Carries (p : Publication) (m : Message) : Prop where
  exchange : p.exchange = m.exchange
  routingKey : p.routingKey = m.routingKey
  body : p.body = m.body
  contentType : p.properties.contentType = m.contentType
  persistent : p.properties.deliveryMode = some persistentMode ↔ m.persistent = true

theorem carries_of (m : Message) (now : Nat) : Carries (.of m now) m := by
  refine ⟨rfl, rfl, rfl, rfl, ?_⟩
  cases persistent : m.persistent <;> simp [Publication.of, Properties.of, persistent]

theorem mapError_map {α β ε δ : Type} (f : α → β) (g : ε → δ) (r : Except ε α) :
    (r.map f).mapError g = (r.mapError g).map f := by
  cases r <;> rfl

open Delivery (forward prepare announcement report)

/-- A delivery comes to the same over a link to a server that embodies a broker in memory as it does
at that broker: the same report, or a failure of the same kind. The server gets a publish exactly
where the broker does, and it carries the same message. -/
theorem forward_like_memory {ς : Type} (source : SecretSource ς) (server : Server σ) (s : Settings)
    (input : List UInt8) (id : MessageId) (secrets : ς) (s₀ : σ) (now : Nat) (b : MemoryBroker)
    (embodies : ∀ change who, prepare source s input secrets = .ok (change, who) →
      Embodies server s₀ b who s.publishMode) :
    let wired := (forward s input id).run source ((Client.of s now).broker server) secrets
      { server := s₀ }
    let kept := (forward s input id).run source MemoryBroker.broker secrets (b, none)
    wired.result.mapError Failure.kind = kept.result.mapError Failure.kind ∧
      List.Forall₂ Carries (wired.broker.sent.filterMap Method.publication?)
        (kept.calls.filterMap Call.message?) := by
  intro wired kept
  have verdict := Delivery.result_eq_verdict source s input id secrets b
  have offered := Delivery.forward_offered source s input id secrets b
  rw [show kept.result = _ from verdict, show kept.calls.filterMap _ = _ from offered]
  rcases forward_session source server s input id secrets s₀ now with
    ⟨f, prepared, result, sent⟩ | ⟨change, who, outcome, prepared, session, result⟩
  · rw [prepared, show wired.result = _ from result, show wired.broker.sent = _ from sent]
    exact ⟨rfl, .nil⟩
  · obtain ⟨same, published⟩ := session.likeness (embodies change who prepared)
    rw [prepared, show wired.result = _ from result, show wired.broker.sent.filterMap _ = _ from
      published]
    refine ⟨?_, ?_⟩
    · rw [mapError_map, mapError_map, same]
      rfl
    · change List.Forall₂ Carries (if b.admits who s.broker.exchange then _ else _)
        (if _ then _ else _)
      split
      · exact .cons (carries_of _ now) .nil
      · exact .nil

/-- A host that knows the user and the exchange, and nacks. -/
theorem forward_like_memory_host :
    let source : SecretSource Unit := ⟨fun _ _ => ⟨.ok "guest", [], ()⟩⟩
    let b : MemoryBroker :=
      { accepted := some ⟨"guest", "guest"⟩
        exchanges := [("KV_CHANGED_EXCHANGE", .durableFanout "KV_CHANGED_EXCHANGE")]
        nacking := true }
    let input := Utf8.bytes "\x7b\"Key\":\"k\",\"Value\":\"aA==\"\x7d"
    let wired := (forward {} input ⟨1⟩).run source ((Client.of {} 0).broker (host b)) ()
      { server := () }
    let kept := (forward {} input ⟨1⟩).run source MemoryBroker.broker () (b, none)
    prepare source {} input () = .ok (⟨"k", "h"⟩, ⟨"guest", "guest"⟩) ∧
      Embodies (host b) () b ⟨"guest", "guest"⟩ .confirmed ∧
      wired.result.mapError Failure.kind = kept.result.mapError Failure.kind ∧
      List.Forall₂ Carries (wired.broker.sent.filterMap Method.publication?)
        (kept.calls.filterMap Call.message?) := by
  intro source b input wired kept
  have check : ({} : Settings).check = .ok () := rfl
  have decoded : KeyChange.ofWatchJson (Utf8.bytes "\x7b\"Key\":\"k\",\"Value\":\"aA==\"\x7d") =
      .ok ⟨"k", "h"⟩ := by decide +kernel
  have ready : prepare source {} input () = .ok (⟨"k", "h"⟩, ⟨"guest", "guest"⟩) := by
    simp only [prepare, check, input, decoded, source]
  have embodies : Embodies (host b) () b ⟨"guest", "guest"⟩ .confirmed :=
    host_embodies b _ _ fun c accepted _ => Option.some.inj accepted
  refine ⟨ready, embodies, forward_like_memory source (host b) {} input ⟨1⟩ () () 0 b fun change who
    prepared => ?_⟩
  cases ready.symm.trans prepared
  exact embodies

end Amqp

end KeyRelay
