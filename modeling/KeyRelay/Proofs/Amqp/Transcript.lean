import KeyRelay.Amqp.Client

/-!
What passes between a client and a server. A transcript pairs each method that was sent with the
server's reaction; a server is a machine, so what was sent determines it. A request that cannot be
sent changes nothing, and any other adds one exchange (`request_asked`). `Link.walk` makes requests
one after another up to the first that fails, and `walk_ended` says what has passed by then: all
that was asked for before is granted, in the order it was asked for.
-/

namespace KeyRelay.Amqp

/-- A method that the server got, and its reaction. -/
structure Exchange where
  method : Method
  reaction : Reaction
  deriving DecidableEq

/-- The connection is lost, and not just the channel. -/
def Loss.isOfConnection : Loss → Bool
  | .channel .. => false
  | _ => true

namespace Exchange

/-- The server gave its positive reply. -/
def isAccepted (x : Exchange) : Bool :=
  match x.reaction with
  | .accept _ => true
  | _ => false

/-- The server closed or dropped the connection. -/
def severs (x : Exchange) : Bool :=
  match x.reaction with
  | .accept (some loss) | .refuse loss => loss.isOfConnection
  | _ => false

/-- What comes of the request. -/
def reply (x : Exchange) : Wait Reply :=
  match x.reaction with
  | .accept _ => .later .ok
  | .nack =>
    match x.method with
    | .publish _ => .later .nack
    | _ => .never
  | .refuse loss => .later (.failed loss.fault)
  | .silent => .never

end Exchange

namespace Server

variable {σ : Type} (server : Server σ)

/-- The server after it got these methods. -/
def after (s : σ) (ms : List Method) : σ :=
  ms.foldl (fun s m => (server.react m s).2) s

def transcript (s : σ) : List Method → List Exchange
  | [] => []
  | m :: ms => ⟨m, (server.react m s).1⟩ :: transcript (server.react m s).2 ms

@[simp] theorem after_nil (s : σ) : server.after s [] = s := rfl

@[simp] theorem after_cons (s : σ) (m : Method) (ms : List Method) :
    server.after s (m :: ms) = server.after (server.react m s).2 ms := rfl

theorem after_append (s : σ) (ms ns : List Method) :
    server.after s (ms ++ ns) = server.after (server.after s ms) ns :=
  List.foldl_append

theorem transcript_append (s : σ) (ms ns : List Method) :
    server.transcript s (ms ++ ns) = server.transcript s ms ++
      server.transcript (server.after s ms) ns := by
  induction ms generalizing s with
  | nil => rfl
  | cons m ms ih => rw [List.cons_append, transcript, transcript, ih, List.cons_append, after_cons]

theorem length_transcript (s : σ) (ms : List Method) :
    (server.transcript s ms).length = ms.length := by
  induction ms generalizing s with
  | nil => rfl
  | cons m ms ih => rw [transcript, List.length_cons, ih, List.length_cons]

end Server

namespace Link

variable {σ : Type} {server : Server σ}

/-- These exchanges lead from one link to the other. -/
structure Spoke (server : Server σ) (l : Link σ) (xs : List Exchange) (l' : Link σ) : Prop where
  sent : l'.sent = l.sent ++ xs.map (·.method)
  heard : server.transcript l.server (xs.map (·.method)) = xs
  left : l'.server = server.after l.server (xs.map (·.method))
  standing : l'.isConnected = (l.isConnected && xs.all fun x => !x.severs)
  /-- A channel that was opened stays where nothing is lost. -/
  channel : (∀ x ∈ xs, x.reaction = .accept none) →
    l'.hasChannel = (l.hasChannel || xs.any fun x => x.method = .openChannel)

theorem Spoke.refl (server : Server σ) (l : Link σ) : Spoke server l [] l :=
  ⟨by simp, rfl, rfl, by simp, by simp⟩

theorem Spoke.trans {l l' l'' : Link σ} {xs ys : List Exchange} (h : Spoke server l xs l')
    (h' : Spoke server l' ys l'') : Spoke server l (xs ++ ys) l'' where
  sent := by rw [h'.sent, h.sent, List.map_append, List.append_assoc]
  heard := by rw [List.map_append, Server.transcript_append, h.heard, ← h.left, h'.heard]
  left := by rw [h'.left, h.left, List.map_append, Server.after_append]
  standing := by rw [h'.standing, h.standing, List.all_append, Bool.and_assoc]
  channel := fun kept => by
    obtain ⟨first, rest⟩ := List.forall_mem_append.1 kept
    rw [h'.channel rest, h.channel first, List.any_append, Bool.or_assoc]

/-- A link that had sent nothing has had these exchanges only. -/
theorem Spoke.transcript {l l' : Link σ} {xs : List Exchange} (h : Spoke server l xs l')
    (fresh : l.sent = []) :
    server.transcript l.server l'.sent = xs := by
  rw [h.sent, fresh, List.nil_append, h.heard]

/-! ### One request -/

/-- How a request goes: it cannot be sent, or there is one more exchange. -/
inductive Asked (server : Server σ) (m : Method) (l : Link σ) : Wait Reply → Link σ → Prop where
  | unsent {f : LinkFault} (gone : m.needsChannel = true ∧ l.hasChannel = false ∨
      l.isConnected = false) :
      Asked server m l (.now (.failed f)) l
  | sent {x : Exchange} {l' : Link σ} (about : x.method = m) (up : l.isConnected = true)
      (spoke : Spoke server l [x] l') : Asked server m l x.reply l'

theorem spoke_one {l l' : Link σ} {m : Method} {reaction : Reaction} {s : σ}
    (react : server.react m l.server = (reaction, s)) (sent : l'.sent = l.sent ++ [m])
    (left : l'.server = s)
    (standing : l'.isConnected = (l.isConnected && !Exchange.severs ⟨m, reaction⟩))
    (channel : reaction = .accept none →
      l'.hasChannel = (l.hasChannel || decide (m = .openChannel))) :
    Spoke server l [⟨m, reaction⟩] l' where
  sent := sent
  heard := by simp [Server.transcript, react]
  left := by simp [react, left]
  standing := by simp [standing]
  channel := fun kept => by simp [channel (kept _ List.mem_cons_self)]

theorem lose_fields (l : Link σ) (loss : Loss) :
    (l.lose loss).server = l.server ∧ (l.lose loss).sent = l.sent ∧
      (l.lose loss).isConnected = (l.isConnected && !loss.isOfConnection) := by
  cases loss <;> simp [lose, Loss.isOfConnection]

theorem granted_fields (m : Method) (l : Link σ) :
    (l.granted m).server = l.server ∧ (l.granted m).sent = l.sent ∧
      (l.granted m).isConnected = l.isConnected ∧
      (l.granted m).hasChannel = (l.hasChannel || decide (m = .openChannel)) := by
  cases m <;> simp [granted]

theorem request_asked (server : Server σ) (m : Method) (l : Link σ) :
    Asked server m l (l.request server m).1 (l.request server m).2 := by
  unfold request
  split
  · next gone => exact .unsent (.inl (by simpa using gone))
  · split
    · next gone => exact .unsent (.inr (by simpa using gone))
    · next up =>
      have up : l.isConnected = true := by simpa using up
      rcases react : server.react m l.server with ⟨reaction, s⟩
      let l₁ : Link σ := { l with server := s, sent := l.sent ++ [m] }
      obtain ⟨grantedServer, grantedSent, grantedConnected, grantedChannel⟩ := granted_fields m l₁
      rcases reaction with (_ | loss) | _ | loss | _
      · refine @Asked.sent _ _ _ _ ⟨m, .accept none⟩ _ rfl up
          (spoke_one react grantedSent grantedServer ?_ fun _ => grantedChannel)
        rw [grantedConnected]
        exact (Bool.and_true _).symm
      · obtain ⟨lostServer, lostSent, lostConnected⟩ := lose_fields (l₁.granted m) loss
        refine @Asked.sent _ _ _ _ ⟨m, .accept (some loss)⟩ _ rfl up
          (spoke_one react (lostSent.trans grantedSent) (lostServer.trans grantedServer) ?_ nofun)
        rw [lostConnected, grantedConnected]
        rfl
      · exact @Asked.sent _ _ _ _ ⟨m, .nack⟩ l₁ rfl up
          (spoke_one react rfl rfl (Bool.and_true _).symm nofun)
      · obtain ⟨lostServer, lostSent, lostConnected⟩ := lose_fields l₁ loss
        exact @Asked.sent _ _ _ _ ⟨m, .refuse loss⟩ _ rfl up
          (spoke_one react lostSent lostServer lostConnected nofun)
      · exact @Asked.sent _ _ _ _ ⟨m, .silent⟩ l₁ rfl up
          (spoke_one react rfl rfl (Bool.and_true _).symm nofun)

end Link

/-! ### Requests one after another -/

/-- What goes wrong with a request. -/
inductive Snag where
  /-- It cannot be sent. -/
  | unsent (f : LinkFault)
  /-- The server answers it with a loss. -/
  | refused (f : LinkFault)
  | nacked
  | unanswered
  deriving DecidableEq, Repr

/-- What goes wrong with a request, if anything does; one whose reply is not awaited only fails to
be sent. -/
def Wait.snag? (awaited : Bool) : Wait Reply → Option Snag
  | .now (.failed f) => some (.unsent f)
  | .later (.failed f) => if awaited then some (.refused f) else none
  | .now .nack | .later .nack => if awaited then some .nacked else none
  | .never => if awaited then some .unanswered else none
  | .now .ok | .later .ok => none

/-- The reply to a publish is awaited only where it is to be confirmed. -/
def Method.isAwaited (mode : PublishMode) : Method → Bool
  | .publish _ => mode.waitsForConfirm
  | _ => true

/-- A session goes on after this. -/
def Exchange.isEnough (mode : PublishMode) (x : Exchange) : Bool :=
  x.isAccepted || !x.method.isAwaited mode

theorem Exchange.snag?_eq_none (x : Exchange) (mode : PublishMode) :
    x.reply.snag? (x.method.isAwaited mode) = none ↔ x.isEnough mode = true := by
  obtain ⟨m, reaction⟩ := x
  cases awaited : m.isAwaited mode with
  | false => cases reaction <;> cases m <;> simp_all [reply, Wait.snag?, isEnough, isAccepted]
  | true => cases reaction <;> cases m <;> simp_all [reply, Wait.snag?, isEnough, isAccepted]

namespace Link

variable {σ : Type} {server : Server σ}

/-- Requests one after another up to the first with which something goes wrong. -/
def walk (server : Server σ) (mode : PublishMode) :
    List Method → Link σ → Option (Method × Snag) × Link σ
  | [], l => (none, l)
  | m :: ms, l =>
    match (l.request server m).1.snag? (m.isAwaited mode) with
    | some snag => (some (m, snag), (l.request server m).2)
    | none => walk server mode ms (l.request server m).2

theorem walk_append (server : Server σ) (mode : PublishMode) (ms ns : List Method) (l : Link σ) :
    l.walk server mode (ms ++ ns) =
      match l.walk server mode ms with
      | (some stop, l') => (some stop, l')
      | (none, l') => l'.walk server mode ns := by
  induction ms generalizing l with
  | nil => rfl
  | cons m ms ih =>
    rw [List.cons_append, walk, walk]
    split
    · rfl
    · exact ih _

/-- Why a walk stops at a request: it cannot be sent over this link, or something goes wrong with
the exchange that it comes to. -/
inductive Stops (mode : PublishMode) (l : Link σ) (m : Method) : Snag → List Exchange → Prop where
  | unsent {f : LinkFault} (gone : m.needsChannel = true ∧ l.hasChannel = false ∨
      l.isConnected = false) :
      Stops mode l m (.unsent f) []
  | wrong {y : Exchange} {snag : Snag} (about : y.method = m)
      (trouble : y.reply.snag? (m.isAwaited mode) = some snag) : Stops mode l m snag [y]

theorem walk_cons (server : Server σ) (mode : PublishMode) (m : Method) (ms : List Method)
    (l : Link σ) :
    (∃ ys snag l', l.walk server mode (m :: ms) = (some (m, snag), l') ∧ Spoke server l ys l' ∧
      Stops mode l' m snag ys) ∨
    ∃ x l', l.walk server mode (m :: ms) = l'.walk server mode ms ∧ Spoke server l [x] l' ∧
      x.method = m ∧ x.isEnough mode = true := by
  have asked := request_asked server m l
  rw [walk]
  generalize l.request server m = r at asked ⊢
  obtain ⟨w, l'⟩ := r
  dsimp only at asked ⊢
  cases asked with
  | unsent gone => exact .inl ⟨[], _, l, rfl, .refl server l, .unsent gone⟩
  | @sent x _ about up spoke =>
    cases wrong : x.reply.snag? (m.isAwaited mode) with
    | some snag => exact .inl ⟨[x], snag, l', rfl, spoke, .wrong about wrong⟩
    | none =>
      rw [← about] at wrong
      exact .inr ⟨x, l', rfl, spoke, about, (x.snag?_eq_none mode).1 wrong⟩

/-- What has passed when a walk is over: it goes all the way, or halts at a request after those that
were granted. -/
inductive Ended (mode : PublishMode) (ms : List Method) (l : Link σ) :
    Option (Method × Snag) → List Exchange → Prop where
  | through {xs : List Exchange} (whole : xs.map (·.method) = ms)
      (enough : ∀ x ∈ xs, x.isEnough mode = true) :
      Ended mode ms l none xs
  | halted {xs ys : List Exchange} {m : Method} {snag : Snag}
      (front : xs.map (·.method) ++ [m] <+: ms)
      (enough : ∀ x ∈ xs, x.isEnough mode = true) (stops : Stops mode l m snag ys) :
      Ended mode ms l (some (m, snag)) (xs ++ ys)

theorem walk_ended {mode : PublishMode} {ms : List Method} {l l' : Link σ}
    {stop : Option (Method × Snag)} (walk : l.walk server mode ms = (stop, l')) :
    ∃ xs, Spoke server l xs l' ∧ Ended mode ms l' stop xs := by
  induction ms generalizing l with
  | nil =>
    cases walk
    exact ⟨[], .refl server _, .through rfl (by simp)⟩
  | cons m ms ih =>
    rcases walk_cons server mode m ms l with ⟨ys, snag, l₁, halts, spoke, stops⟩ |
      ⟨x, l₁, goes, first, rfl, enough⟩
    · cases walk.symm.trans halts
      exact ⟨ys, spoke, @Ended.halted _ mode _ _ [] ys m snag ⟨ms, rfl⟩ (by simp) stops⟩
    · obtain ⟨xs, rest, ended⟩ := ih (goes.symm.trans walk)
      refine ⟨x :: xs, first.trans rest, ?_⟩
      cases ended with
      | through whole granted =>
        exact .through (by rw [List.map_cons, whole]) (List.forall_mem_cons.2 ⟨enough, granted⟩)
      | halted front granted stops =>
        rw [← List.cons_append]
        exact .halted (List.cons_prefix_cons.2 ⟨rfl, front⟩)
          (List.forall_mem_cons.2 ⟨enough, granted⟩) stops

/-! ### Farewells -/

/-- Sends methods one after another, whatever comes of each. -/
def tell (server : Server σ) (ms : List Method) (l : Link σ) : Link σ :=
  ms.foldl (fun l m => (l.request server m).2) l

theorem tell_spoke (server : Server σ) (ms : List Method) (l : Link σ) :
    ∃ xs, Spoke server l xs (l.tell server ms) ∧ (xs.map (·.method)).Sublist ms := by
  induction ms generalizing l with
  | nil => exact ⟨[], .refl server l, .slnil⟩
  | cons m ms ih =>
    have asked := request_asked server m l
    have rest : l.tell server (m :: ms) = (l.request server m).2.tell server ms := rfl
    rw [rest]
    obtain ⟨xs, spoke, sub⟩ := ih (l.request server m).2
    revert asked spoke
    rcases l.request server m with ⟨w, l'⟩
    intro asked spoke
    cases asked with
    | unsent gone => exact ⟨xs, spoke, sub.cons m⟩
    | @sent x _ about up first => exact ⟨x :: xs, first.trans spoke, about ▸ sub.cons_cons x.method⟩

/-! ### What comes first -/

theorem Spoke.head?_sent {l l' : Link σ} {xs : List Exchange} {m : Method}
    (h : Spoke server l xs l') (first : l.sent.head? = some m) : l'.sent.head? = some m := by
  rw [h.sent, List.head?_append, first]
  rfl

/-- Over a connection that is up, the first request that needs no channel goes out before anything
else. -/
theorem head?_sent_of_walk {mode : PublishMode} {m : Method} {ms : List Method} {l l' : Link σ}
    {stop : Option (Method × Snag)} (walk : l.walk server mode (m :: ms) = (stop, l'))
    (fresh : l.sent = []) (up : l.isConnected = true) (channel : m.needsChannel = false) :
    l'.sent.head? = some m := by
  rcases walk_cons server mode m ms l with ⟨ys, snag, l₁, halts, spoke, stops⟩ |
    ⟨x, l₁, goes, first, rfl, -⟩
  · cases walk.symm.trans halts
    cases stops with
    | unsent gone =>
      have still : l'.isConnected = true := by rw [spoke.standing, up]; rfl
      simp [still, channel] at gone
    | wrong about trouble => simp [spoke.sent, fresh, about]
  · obtain ⟨xs, rest, -⟩ := walk_ended (goes.symm.trans walk)
    refine rest.head?_sent ?_
    simp [first.sent, fresh]

/-! ### The part of a link that requests depend on -/

/-- The link without the limits armed on it, and without the mark that publishes are confirmed. -/
def wire (l : Link σ) : Link σ :=
  { l with armed := [], confirms := false }

@[simp] theorem wire_server (l : Link σ) : l.wire.server = l.server := rfl

@[simp] theorem wire_isConnected (l : Link σ) : l.wire.isConnected = l.isConnected := rfl

@[simp] theorem wire_hasChannel (l : Link σ) : l.wire.hasChannel = l.hasChannel := rfl

theorem wire_granted (m : Method) (l : Link σ) : (l.granted m).wire = l.wire.granted m := by
  cases m <;> rfl

theorem wire_lose (l : Link σ) (loss : Loss) : (l.lose loss).wire = l.wire.lose loss := by
  cases loss <;> rfl

theorem request_wire (server : Server σ) (m : Method) (l : Link σ) :
    l.wire.request server m = ((l.request server m).1, (l.request server m).2.wire) := by
  unfold request
  rw [wire_hasChannel, wire_isConnected, wire_server]
  by_cases noChannel : (m.needsChannel && !l.hasChannel) = true
  · rw [if_pos noChannel, if_pos noChannel]
  · rw [if_neg noChannel, if_neg noChannel]
    by_cases gone : (!l.isConnected) = true
    · rw [if_pos gone, if_pos gone]
    · rw [if_neg gone, if_neg gone]
      rcases server.react m l.server with ⟨(_ | loss) | _ | loss | _, s⟩
      · dsimp only
        rw [wire_granted]
        rfl
      · dsimp only
        rw [wire_lose, wire_granted]
        rfl
      · rfl
      · dsimp only
        rw [wire_lose]
        rfl
      · rfl

end Link

end KeyRelay.Amqp
