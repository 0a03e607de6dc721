import KeyRelay.Amqp.Script
import KeyRelay.Proofs.Amqp.Session

/-!
The order that a client keeps on the wire. Whatever the server does, a delivery makes its requests
in one order, each once the one before is accepted, and then says farewell: `Conversation` lists
what that means for everything that passes. Where the connection is up to the end, the last thing
sent is that it is closed.
-/

namespace KeyRelay.Amqp

/-! ### Before and after in a list -/

section
variable {α : Type} {before front back : List α} {a b : α}

/-- What is last in a prefix comes after anything that is in it before. -/
theorem mem_back_of_append (h : before ++ [b] <+: front ++ a :: back) (here : a ∈ before)
    (only : a ∉ front) :
    b ∈ back := by
  induction front generalizing before with
  | nil =>
    obtain _ | ⟨c, before⟩ := before
    · cases here
    · exact (List.cons_prefix_cons.1 h).2.subset (List.mem_append_right _ List.mem_cons_self)
  | cons c front ih =>
    obtain _ | ⟨d, before⟩ := before
    · cases here
    obtain ⟨rfl, rest⟩ := List.cons_prefix_cons.1 h
    rw [List.mem_cons, not_or] at only
    exact ih rest ((List.mem_cons.1 here).resolve_left only.1) only.2

/-- What is last in a prefix has before it anything that it comes after. -/
theorem mem_before_of_append (h : before ++ [b] <+: front ++ a :: back) (later : b ∉ front ++ [a]) :
    a ∈ before := by
  induction front generalizing before with
  | nil =>
    obtain _ | ⟨c, before⟩ := before
    · cases (List.cons_prefix_cons.1 h).1
      exact absurd List.mem_cons_self later
    · cases (List.cons_prefix_cons.1 h).1
      exact List.mem_cons_self
  | cons c front ih =>
    obtain _ | ⟨d, before⟩ := before
    · cases (List.cons_prefix_cons.1 h).1
      exact absurd List.mem_cons_self later
    · obtain ⟨-, rest⟩ := List.cons_prefix_cons.1 h
      exact List.mem_cons_of_mem _ (ih rest fun h => later (List.mem_cons_of_mem _ h))

end

/-! ### Requests -/

/-- The exchanges of requests that were wanted in this order: each was sent once the one before was
accepted. -/
structure InOrder (wanted : List Method) (requests : List Exchange) : Prop where
  order : requests.map (·.method) <+: wanted
  granted : ∀ x ∈ requests.dropLast, x.isAccepted = true

/-- Whatever is wanted before a request that was sent has been accepted. -/
theorem InOrder.accepted {front back : List Method} {m : Method} {requests : List Exchange}
    {x : Exchange} (h : InOrder (front ++ m :: back) requests) (made : x ∈ requests)
    (later : x.method ∉ front ++ [m]) :
    ∃ y ∈ requests, y.method = m ∧ y.isAccepted = true := by
  obtain ⟨before, after, rfl⟩ := List.append_of_mem made
  have upTo : before.map (·.method) ++ [x.method] <+: front ++ m :: back := by
    refine List.IsPrefix.trans ?_ h.order
    exact ⟨after.map (·.method), by simp⟩
  obtain ⟨y, earlier, rfl⟩ := List.mem_map.1 (mem_before_of_append upTo later)
  refine ⟨y, List.mem_append_left _ earlier, rfl, h.granted y ?_⟩
  rw [List.dropLast_append_of_ne_nil (List.cons_ne_nil x after)]
  exact List.mem_append_left _ earlier

section
variable (vhost : String) (who : Credentials) (mode : PublishMode) (d : Declaration)
  (p : Publication)

/-- The publish is the last thing that a session asks for. -/
theorem script_eq_publish :
    ∃ front, script vhost who mode d p = front ++ [.publish p] ∧ ∀ q, .publish q ∉ front := by
  refine ⟨handshakeScript vhost who ++ (channelScript mode ++ [.declare d]),
    by simp [script], fun q => ?_⟩
  cases mode <;> simp [handshakeScript, channelScript, Method.login, PublishMode.waitsForConfirm]

/-- What comes before the declaration. -/
theorem script_eq_declare :
    script vhost who mode d p = (handshakeScript vhost who ++ channelScript mode) ++ .declare d ::
      [.publish p] ∧
      ∀ m ∈ (handshakeScript vhost who ++ channelScript mode) ++ [.declare d],
        m.kind ≠ .publish := by
  refine ⟨by simp [script], ?_⟩
  cases mode <;> simp [handshakeScript, channelScript, Method.login, Method.kind,
    PublishMode.waitsForConfirm]

/-- What comes before confirmations are enabled. -/
theorem script_eq_confirm :
    script vhost who .confirmed d p =
      (handshakeScript vhost who ++ [.openChannel]) ++ .confirmSelect false ::
      [.declare d, .publish p] ∧
      ∀ m ∈ (handshakeScript vhost who ++ [.openChannel]) ++ [.confirmSelect false],
        m.kind ≠ .publish :=
  ⟨rfl, by simp [handshakeScript, Method.login, Method.kind]⟩

/-- After the connection is open, a session asks for nothing that belongs to the handshake. -/
theorem script_eq_openConnection : ∃ back, script vhost who mode d p =
    [.header, .login who] ++ .openConnection vhost :: back ∧ ∀ m ∈ back, m.phase ≠ .handshake := by
  refine ⟨channelScript mode ++ [.declare d, .publish p], rfl, ?_⟩
  cases mode <;> simp [channelScript, PublishMode.waitsForConfirm, Method.phase]

/-- A session opens one connection, and does not ask for its end. -/
theorem kind_of_mem_script {m : Method} (h : m ∈ script vhost who mode d p) :
    m.kind ≠ .connectionClose ∧ (m.kind = .openConnection → m = .openConnection vhost) := by
  revert m
  cases mode <;> simp [script, handshakeScript, channelScript, Method.login,
    PublishMode.waitsForConfirm, Method.kind]

end

section
variable {vhost : String} {who : Credentials} {mode : PublishMode} {d : Declaration}
  {p : Publication} {σ : Type}

/-- Nothing is asked for after the publish. -/
theorem not_publish_of_script {before : List Method} {last : Method}
    (h : before ++ [last] <+: script vhost who mode d p) (q : Publication) :
    .publish q ∉ before := by
  intro here
  obtain ⟨front, eq, only⟩ := script_eq_publish vhost who mode d p
  rw [eq] at h
  have same : q = p := by
    rcases List.mem_append.1 (h.subset (List.mem_append_left _ here)) with early | early
    · exact absurd early (only q)
    · simpa using early
  rw [same] at here
  cases mem_back_of_append h here (only p)

/-- What a session asks for before anything else is awaited. -/
theorem isAwaited_of_script {before : List Method} {last : Method}
    (h : before ++ [last] <+: script vhost who mode d p) :
    ∀ m ∈ before, m.isAwaited mode = true := by
  intro m here
  cases m with
  | publish q => exact absurd here (not_publish_of_script h q)
  | _ => rfl

/-- All requests before the one that a walk halts at are accepted. -/
theorem granted_of_script {xs : List Exchange} {last : Method}
    (front : xs.map (·.method) ++ [last] <+: script vhost who mode d p)
    (enough : ∀ x ∈ xs, x.isEnough mode = true) :
    ∀ x ∈ xs, x.isAccepted = true := by
  intro x h
  have awaited := isAwaited_of_script front x.method (List.mem_map_of_mem h)
  simpa [Exchange.isEnough, awaited] using enough x h

variable {l : Link σ} {stop : Option (Method × Snag)} {xs : List Exchange}

theorem Link.Ended.inOrder (h : Link.Ended mode (script vhost who mode d p) l stop xs) :
    InOrder (script vhost who mode d p) xs := by
  cases h with
  | through whole enough =>
    refine ⟨whole ▸ List.prefix_rfl, fun x h => ?_⟩
    obtain rfl | ⟨front, last, rfl⟩ := List.eq_nil_or_concat xs
    · cases h
    rw [List.concat_eq_append] at h whole enough
    rw [List.dropLast_concat] at h
    have all : front.map (·.method) ++ [last.method] <+: script vhost who mode d p := by
      rw [← whole, List.map_append]
      exact List.prefix_rfl
    exact granted_of_script all (fun x h => enough x (List.mem_append_left _ h)) x h
  | @halted xs ys m snag front enough stops =>
    have granted := granted_of_script front enough
    cases stops with
    | unsent gone =>
      rw [List.append_nil]
      exact ⟨(List.prefix_append _ _).trans front, fun x h =>
        granted x ((List.dropLast_sublist xs).subset h)⟩
    | @wrong y _ about trouble =>
      refine ⟨by rw [List.map_append, List.map_singleton, about]; exact front, fun x h => ?_⟩
      rw [List.dropLast_concat] at h
      exact granted x h

/-- No connection has been opened where a walk halts within the handshake. -/
theorem Link.Ended.unopened {m : Method} {snag : Snag}
    (h : Link.Ended mode (script vhost who mode d p) l (some (m, snag)) xs)
    (early : m.phase = .handshake) :
    ∀ x ∈ xs, x.method = .openConnection vhost → x.isAccepted = false := by
  intro x here opening
  cases h with
  | @halted xs ys _ _ front enough stops =>
  rcases List.mem_append.1 here with here | here
  · obtain ⟨back, eq, later⟩ := script_eq_openConnection vhost who mode d p
    rw [eq] at front
    have made : .openConnection vhost ∈ xs.map (·.method) := opening ▸ List.mem_map_of_mem here
    exact absurd early (later m (mem_back_of_append front made (by simp [Method.login])))
  · cases stops with
    | unsent gone => cases here
    | @wrong y _ about trouble =>
      have short : y.isEnough mode = false := by
        rw [← Bool.not_eq_true, ← y.snag?_eq_none mode, about, trouble]
        simp
      rw [List.mem_singleton.1 here]
      exact (Bool.or_eq_false_iff.1 short).1

end

variable {σ : Type} {server : Server σ}

/-! ### Farewells -/

theorem Phase.closing_eq {phase : Phase} (started : phase ≠ .handshake) :
    ∃ front code text, phase.closing = front ++ [.closeConnection code text] ∧
      ∀ m ∈ front, m.kind = .channelClose := by
  cases phase with
  | handshake => exact absurd rfl started
  | channelSetup => exact ⟨[], _, _, rfl, by simp⟩
  | work => exact ⟨[_], _, _, rfl, by simp [Method.kind]⟩
  | farewell => exact ⟨[_], _, _, rfl, by simp [Method.kind]⟩

/-- The last thing sent closes the connection, and nothing before it does. -/
def Closed (talk : List Exchange) : Prop :=
  ∃ front last, talk = front ++ [last] ∧ last.method.kind = .connectionClose ∧
    ∀ x ∈ front, x.method.kind ≠ .connectionClose

/-- The server did not end the connection before it was asked to. -/
def Stayed (talk : List Exchange) : Prop :=
  ∀ x ∈ talk, x.severs = true → x.method.kind = .connectionClose

theorem Link.tell_append (ms ns : List Method) (l : Link σ) :
    l.tell server (ms ++ ns) = (l.tell server ms).tell server ns :=
  List.foldl_append

theorem Link.tell_closing (server : Server σ) {phase : Phase} (started : phase ≠ .handshake)
    (l : Link σ) :
    ∃ ys, Spoke server l ys (l.tell server phase.closing) ∧ (∀ y ∈ ys, y.method.isClosing = true) ∧
      (l.isConnected = true → Stayed ys → Closed ys) := by
  obtain ⟨front, code, text, closing, kinds⟩ := Phase.closing_eq started
  obtain ⟨xs, spoke, sub⟩ := l.tell_spoke server front
  have about : ∀ x ∈ xs, x.method.kind = .channelClose := fun x h =>
    kinds _ (sub.subset (List.mem_map_of_mem h))
  have isClosing : ∀ x ∈ xs, x.method.isClosing = true := by
    intro x h
    have := about x h
    obtain ⟨m, reaction⟩ := x
    cases m <;> first | rfl | cases this
  have asked := request_asked server (.closeConnection code text) (l.tell server front)
  rw [closing, tell_append]
  change ∃ ys, Spoke server l ys
    ((l.tell server front).request server (.closeConnection code text)).2 ∧ _
  generalize (l.tell server front).request server (.closeConnection code text) = r at asked ⊢
  obtain ⟨w, l'⟩ := r
  cases asked with
  | unsent gone =>
    refine ⟨xs, spoke, isClosing, fun up stayed => ?_⟩
    have connected : (l.tell server front).isConnected = true := by
      rw [spoke.standing, up, Bool.true_and, List.all_eq_true]
      intro x h
      rw [Bool.not_eq_true', ← Bool.not_eq_true]
      intro severs
      cases (about x h).symm.trans (stayed x h severs)
    rcases gone with ⟨onChannel, -⟩ | gone
    · cases onChannel
    · cases connected.symm.trans gone
  | @sent x _ last up ends =>
    refine ⟨xs ++ [x], spoke.trans ends, ?_, fun up stayed => ⟨xs, x, rfl, ?_, ?_⟩⟩
    · refine List.forall_mem_append.2 ⟨isClosing, List.forall_mem_singleton.2 ?_⟩
      rw [last]
      rfl
    · rw [last]
      rfl
    · intro x h
      rw [about x h]
      decide

/-! ### Sessions -/

/-- The message of a notice, as it is published under these settings. -/
structure IsNotice (s : Settings) (p : Publication) : Prop where
  exchange : p.exchange = s.broker.exchange
  routingKey : p.routingKey = ""
  persistent : p.properties.deliveryMode = some 2
  contentType : p.properties.contentType = "application/json"

/-- The declaration of a durable fanout exchange. -/
def Declaration.durableFanout (exchange : String) : Declaration where
  exchange := exchange
  kind := .fanout
  passive := false
  durable := true
  autoDelete := false
  internal := false
  nowait := false

/-- What the order of requests means for everything that passes. -/
structure Conversation (s : Settings) (talk : List Exchange) : Prop where
  /-- There are requests, each sent once the one before was accepted, and nothing after them but
  closing methods. -/
  order : ∃ who p requests closings, talk = requests ++ closings ∧ IsNotice s p ∧
    InOrder (script s.broker.vhost who s.publishMode (.durableFanout s.broker.exchange) p)
    requests ∧
    ∀ x ∈ closings, x.method.isClosing = true
  declares : talk.countP (·.method.kind = .declare) ≤ 1
  publishes : talk.countP (·.method.kind = .publish) ≤ 1
  declared : ∀ x ∈ talk, x.method.kind = .publish → ∃ y ∈ talk, y.method.kind = .declare ∧
    y.isAccepted = true
  confirming : s.publishMode = .confirmed → ∀ x ∈ talk, x.method.kind = .publish →
    ∃ y ∈ talk, y.method.kind = .confirm ∧ y.isAccepted = true
  farewell : (∃ x ∈ talk, x.method.kind = .openConnection ∧ x.isAccepted = true) → Stayed talk →
    Closed talk

theorem kind_of_isClosing {m : Method} (h : m.isClosing = true) :
    m.kind = .channelClose ∨ m.kind = .connectionClose := by
  cases m <;> first | exact .inl rfl | exact .inr rfl | cases h

/-- A kind of request that a script has once is made once at most. -/
theorem InOrder.countP_le {wanted : List Method} {requests closings : List Exchange}
    (h : InOrder wanted requests) (closing : ∀ x ∈ closings, x.method.isClosing = true)
    {k : RequestKind} (notClosing : k ≠ .channelClose ∧ k ≠ .connectionClose) :
    (requests ++ closings).countP (fun x => x.method.kind = k) ≤ wanted.countP fun m =>
      m.kind = k := by
  have none : closings.countP (fun x => x.method.kind = k) = 0 := by
    rw [List.countP_eq_zero]
    intro x h
    rcases kind_of_isClosing (closing x h) with kind | kind <;>
      simp [kind, notClosing.1.symm, notClosing.2.symm]
  rw [List.countP_append, none, Nat.add_zero]
  have made : (requests.map (·.method)).countP (fun m => m.kind = k) ≤ _ :=
    h.order.sublist.countP_le
  rwa [List.countP_map] at made

section
variable {s : Settings} {who : Credentials} {p : Publication} {requests closings : List Exchange}
  {x : Exchange}

/-- What is published is a request, and whatever is wanted before any publish has been accepted by
then. -/
theorem accepted_of_publish {wanted front back : List Method} {m : Method}
    (inOrder : InOrder wanted requests) (closing : ∀ x ∈ closings, x.method.isClosing = true)
    (before : wanted = front ++ m :: back ∧ ∀ n ∈ front ++ [m], n.kind ≠ .publish)
    (made : x ∈ requests ++ closings) (publish : x.method.kind = .publish) :
    ∃ y ∈ requests ++ closings, y.method = m ∧ y.isAccepted = true := by
  obtain ⟨rfl, others⟩ := before
  rcases List.mem_append.1 made with made | made
  · obtain ⟨y, h, about, accepted⟩ := inOrder.accepted made fun early => others _ early publish
    exact ⟨y, List.mem_append_left _ h, about, accepted⟩
  · rcases kind_of_isClosing (closing x made) with kind | kind <;> cases kind.symm.trans publish

theorem conversation_of_order (notice : IsNotice s p)
    (inOrder : InOrder (script s.broker.vhost who s.publishMode (.durableFanout s.broker.exchange)
      p) requests)
    (closing : ∀ x ∈ closings, x.method.isClosing = true)
    (farewell : (∃ x ∈ requests ++ closings, x.method.kind = .openConnection ∧
      x.isAccepted = true) →
      Stayed (requests ++ closings) → Closed (requests ++ closings)) :
    Conversation s (requests ++ closings) where
  order := ⟨who, p, requests, closings, rfl, notice, inOrder, closing⟩
  declares := by
    refine Nat.le_trans (inOrder.countP_le closing (k := .declare) (by decide)) ?_
    cases s.publishMode <;> exact Nat.le_refl 1
  publishes := by
    refine Nat.le_trans (inOrder.countP_le closing (k := .publish) (by decide)) ?_
    cases s.publishMode <;> exact Nat.le_refl 1
  declared := fun x made publish => by
    obtain ⟨y, h, about, accepted⟩ :=
      accepted_of_publish inOrder closing (script_eq_declare ..) made publish
    exact ⟨y, h, by rw [about]; rfl, accepted⟩
  confirming := fun mode x made publish => by
    rw [mode] at inOrder
    obtain ⟨y, h, about, accepted⟩ :=
      accepted_of_publish inOrder closing (script_eq_confirm ..) made publish
    exact ⟨y, h, by rw [about]; rfl, accepted⟩
  farewell := farewell

theorem conversation_nil (s : Settings) : Conversation s [] := by
  let p : Publication :=
    ⟨s.broker.exchange, "", false, false, [], ⟨"application/json", "", 0, some 2⟩⟩
  have notice : IsNotice s p := ⟨rfl, rfl, rfl, rfl⟩
  have inOrder :
      InOrder (script s.broker.vhost ⟨"", ""⟩ s.publishMode (.durableFanout s.broker.exchange) p)
      [] :=
    ⟨by simp, by simp⟩
  have closing : ∀ x ∈ ([] : List Exchange), x.method.isClosing = true := by simp
  exact conversation_of_order notice inOrder closing (by simp)

end

open Delivery (forward prepare announcement report)

theorem notice_isNotice (s : Settings) (change : KeyChange) (id : MessageId) (now : Nat) :
    IsNotice s (.of (announcement s change id) now) :=
  ⟨rfl, rfl, rfl, rfl⟩

/-- A walk through the requests of a session, with the farewell that belongs to where it ends. -/
theorem conversation_of_walk {s : Settings} {server : Server σ} {who : Credentials}
    {p : Publication} {s₀ : σ}
    {stop : Option (Method × Snag)} {l : Link σ} (notice : IsNotice s p)
    (walk : (Client.reached s₀).walk server s.publishMode
      (script s.broker.vhost who s.publishMode (.durableFanout s.broker.exchange) p) = (stop, l))
    {phase : Phase} (early : phase = .handshake → ∃ m snag, stop = some (m, snag) ∧
      m.phase = .handshake) :
    Conversation s (server.transcript s₀ (l.tell server phase.closing).sent) := by
  obtain ⟨xs, spoke, ended⟩ := Link.walk_ended walk
  have inOrder := ended.inOrder
  have about : ∀ x ∈ xs, x.method.kind ≠ .connectionClose ∧
      (x.method.kind = .openConnection → x.method = .openConnection s.broker.vhost) :=
    fun x h => kind_of_mem_script _ _ _ _ _ (inOrder.order.subset (List.mem_map_of_mem h))
  by_cases started : phase = .handshake
  · obtain ⟨m, snag, rfl, handshake⟩ := early started
    have talk : server.transcript s₀ (l.tell server phase.closing).sent = xs ++ [] := by
      rw [started, List.append_nil]
      exact spoke.transcript rfl
    rw [talk]
    refine conversation_of_order notice inOrder (by simp) ?_
    rintro ⟨x, h, kind, accepted⟩
    rw [List.append_nil] at h
    cases accepted.symm.trans (ended.unopened handshake x h ((about x h).2 kind))
  · obtain ⟨ys, farewell, closing, closed⟩ := l.tell_closing server started
    rw [show s₀ = (Client.reached s₀).server from rfl, (spoke.trans farewell).transcript rfl]
    refine conversation_of_order notice inOrder closing fun _ stayed => ?_
    obtain ⟨stayedFirst, stayedLast⟩ := List.forall_mem_append.1 stayed
    have up : l.isConnected = true := by
      rw [spoke.standing, List.all_eq_true.2 fun x h => ?_]
      · rfl
      · rw [Bool.not_eq_true', ← Bool.not_eq_true]
        exact fun severs => (about x h).1 (stayedFirst x h severs)
    obtain ⟨front, last, rfl, kind, others⟩ := closed up stayedLast
    exact ⟨xs ++ front, last, by rw [List.append_assoc], kind,
      List.forall_mem_append.2 ⟨fun x h => (about x h).1, others⟩⟩

/-- Everything that passes in a session is a conversation. -/
theorem Client.Session.conversation {s : Settings} {server : Server σ} {who : Credentials}
    {change : KeyChange}
    {id : MessageId} {now : Nat} {s₀ : σ} {outcome : Except Failure Bool} {sent : List Method}
    (h : (Client.of s now).Session server who s.publishMode (announcement s change id) s₀
      outcome sent) :
    Conversation s (server.transcript s₀ sent) := by
  have notice := notice_isNotice s change id now
  cases h with
  | unreachable down => exact conversation_nil s
  | @halted last snag f l up walk reports =>
    exact conversation_of_walk notice walk fun phase => ⟨last, snag, rfl, phase⟩
  | delivered up walk => exact conversation_of_walk notice walk nofun

/-- Whatever the server does, everything that passes in a delivery is a conversation, and nothing is
sent where the preparation fails. -/
theorem forward_converses {ς : Type} (source : SecretSource ς) (server : Server σ) (s : Settings)
    (input : List UInt8) (id : MessageId) (secrets : ς) (s₀ : σ) (now : Nat) :
    let r := (forward s input id).run source ((Client.of s now).broker server) secrets
      { server := s₀ }
    Conversation s (server.transcript s₀ r.broker.sent) ∧
    ∀ f, prepare source s input secrets = .error f → r.broker.sent = [] := by
  intro r
  rcases forward_session source server s input id secrets s₀ now with
    ⟨f, prepared, _, sent⟩ | ⟨change, who, outcome, prepared, session, _⟩
  · rw [show r.broker.sent = _ from sent]
    exact ⟨conversation_nil s, fun _ _ => rfl⟩
  · refine ⟨session.conversation, ?_⟩
    rw [prepared]
    simp

end KeyRelay.Amqp
