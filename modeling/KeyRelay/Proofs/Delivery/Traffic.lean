import Mathlib.Logic.Function.Basic
import KeyRelay.Proofs.Delivery.InMemory

/-!
Any number of deliveries at one broker in memory, in any order of their steps. A turn lets one
courier do the first thing its program asks for, so a call of the broker is one turn and nothing
comes between its parts. The invariant is that what a courier has done, followed by the rest of its
program run alone, is the whole program run alone: the others only ever declare durable fanout
exchanges, which leaves a broker that answers alike.
-/

namespace KeyRelay

/-- What a program does first, and how things stand then; nothing for one that is done. -/
def Program.step {α σ τ : Type} (source : SecretSource σ) (broker : Broker τ) :
    Program α → σ → τ → Option (List Event × Program α × σ × τ)
  | .done _, _, _ => none
  | .say line next, s, t => some ([.said line], next, s, t)
  | .ask (.lookup key) next, s, t =>
    let a := source.lookup key s
    some (a.lines.map .noted ++ [.asked (.lookup key) a.result], next a.result, a.state, t)
  | .ask (.call c) next, s, t =>
    let a := broker.answer c t
    some (a.lines.map .noted ++ [.asked (.call c) a.result], next a.result, s, a.state)

/-- A run starts with the first step. -/
theorem Program.run_of_step {α σ τ : Type} {source : SecretSource σ} {broker : Broker τ}
    {p p' : Program α} {s s' : σ} {t t' : τ} {events : List Event}
    (h : p.step source broker s t = some (events, p', s', t')) :
    p.run source broker s t = (p'.run source broker s' t').after events := by
  cases p with
  | done a => cases h
  | say line next => cases h; rfl
  | ask q next =>
    cases q with
    | lookup key => cases h; rfl
    | call c => cases h; rfl

/-- What a program ends in, once it has. -/
def Program.result? {α : Type} : Program α → Option α
  | .done a => some a
  | _ => none

theorem Program.eq_done_of_result? {α : Type} {p : Program α} {a : α} (h : p.result? = some a) :
    p = .done a := by
  cases p with
  | done a' => rw [Option.some.inj h]
  | say line next => cases h
  | ask q next => cases h

/-! ### Couriers -/

/-- The report of the same delivery under another identifier. -/
def DeliveryReport.withId (r : DeliveryReport) (id : MessageId) : DeliveryReport :=
  { r with messageId := id }

/-- What a delivery is given. -/
structure Errand (σ : Type) where
  settings : Settings
  input : List UInt8
  id : MessageId
  source : SecretSource σ
  secrets : σ

namespace Errand

variable {σ : Type} (e : Errand σ)

def program : Delivery.Step DeliveryReport :=
  Delivery.forward e.settings e.input e.id

def prepare : Except Failure (KeyChange × Credentials) :=
  Delivery.prepare e.source e.settings e.input e.secrets

/-- The delivery with the broker to itself. -/
def alone (b : MemoryBroker) :
    Ran (Except Failure DeliveryReport) σ (MemoryBroker × Option MemorySession) :=
  e.program.run e.source MemoryBroker.broker e.secrets (b, none)

/-- The identifier of the message has no part in the result but its own place in the report. -/
theorem result_withId (b : MemoryBroker) (id : MessageId) :
    ({ e with id }.alone b).result = (e.alone b).result.map (·.withId id) := by
  simp only [alone, program, Delivery.result_eq_verdict]
  cases Delivery.prepare e.source e.settings e.input e.secrets with
  | error f => rfl
  | ok ready =>
    obtain ⟨change, who⟩ := ready
    dsimp only
    cases b.verdict who e.settings.publishMode e.settings.broker.exchange <;> rfl

end Errand

/-- A delivery under way: what is left of it, its secrets and its session. -/
structure Courier (σ : Type) where
  program : Delivery.Step DeliveryReport
  secrets : σ
  session : Option MemorySession

/-- Deliveries at one broker, and what they have done so far. -/
structure Traffic (n : Nat) (σ : Type) where
  broker : MemoryBroker
  couriers : Fin n → Courier σ
  history : List (Fin n × Event)

namespace Traffic

variable {n : Nat} {σ : Type}

def start (errands : Fin n → Errand σ) (b : MemoryBroker) : Traffic n σ :=
  ⟨b, fun i => ⟨(errands i).program, (errands i).secrets, none⟩, []⟩

/-- A courier has done something, which changes it and the broker. -/
def moved (w : Traffic n σ) (i : Fin n) (events : List Event) (courier : Courier σ)
    (b : MemoryBroker) :
    Traffic n σ :=
  ⟨b, Function.update w.couriers i courier, w.history ++ events.map (i, ·)⟩

/-- One courier does what comes first in its program. -/
def turn (errands : Fin n → Errand σ) (w : Traffic n σ) (i : Fin n) : Traffic n σ :=
  match (w.couriers i).program.step (errands i).source MemoryBroker.broker (w.couriers i).secrets
      (w.broker, (w.couriers i).session) with
  | none => w
  | some (events, program, secrets, b, session) => w.moved i events ⟨program, secrets, session⟩ b

/-- Turns one after another, as a schedule has them. -/
def play (errands : Fin n → Errand σ) (b : MemoryBroker) (schedule : List (Fin n)) : Traffic n σ :=
  schedule.foldl (turn errands) (start errands b)

/-- What a courier has done so far. -/
def past (w : Traffic n σ) (i : Fin n) : List Event :=
  w.history.filterMap fun x => if x.1 = i then some x.2 else none

/-- The calls so far, of all couriers. -/
def turns (w : Traffic n σ) : List Turn :=
  w.history.filterMap fun x => x.2.turn?

theorem couriers_moved_self (w : Traffic n σ) (i : Fin n) (events : List Event) (c : Courier σ)
    (b : MemoryBroker) : (w.moved i events c b).couriers i = c :=
  Function.update_self ..

theorem couriers_moved_ne (w : Traffic n σ) {i j : Fin n} (h : j ≠ i) (events : List Event)
    (c : Courier σ) (b : MemoryBroker) : (w.moved i events c b).couriers j = w.couriers j :=
  Function.update_of_ne h ..

theorem filterMap_tagged {α : Type} (i : Fin n) (f : Fin n × Event → Option α)
    (events : List Event) :
    (events.map (i, ·)).filterMap f = events.filterMap fun e => f (i, e) :=
  List.filterMap_map

theorem past_moved_self (w : Traffic n σ) (i : Fin n) (events : List Event) (c : Courier σ)
    (b : MemoryBroker) :
    (w.moved i events c b).past i = w.past i ++ events := by
  rw [past, moved, List.filterMap_append, filterMap_tagged]
  simp [past]

theorem past_moved_ne (w : Traffic n σ) {i j : Fin n} (h : j ≠ i) (events : List Event)
    (c : Courier σ) (b : MemoryBroker) : (w.moved i events c b).past j = w.past j := by
  rw [past, moved, List.filterMap_append, filterMap_tagged]
  simp [past, h.symm]

theorem turns_moved (w : Traffic n σ) (i : Fin n) (events : List Event) (c : Courier σ)
    (b : MemoryBroker) :
    (w.moved i events c b).turns = w.turns ++ events.filterMap Event.turn? := by
  rw [turns, moved, List.filterMap_append, filterMap_tagged]
  rfl

end Traffic

/-! ### A courier keeps its course -/

/-- A courier keeps the course its errand takes alone from `b₀`, where `b` is the broker it shares
and `a` the one it would have to itself by now. -/
structure OnCourse {σ : Type} (e : Errand σ) (b₀ b : MemoryBroker) (past : List Event)
    (c : Courier σ) (a : MemoryBroker) : Prop where
  alone : (c.program.run e.source MemoryBroker.broker c.secrets (a, c.session)).after past =
    e.alone b₀
  alike : MemoryBroker.Alike a b
  declared : ∀ x ∈ past.filterMap Event.turn?, ∀ name, x.declared? = some name →
    (a.exchange? name).isSome ∧ (b.exchange? name).isSome
  fresh : past.filterMap Event.turn? = [] → c.session = none

namespace OnCourse

variable {σ : Type} {e : Errand σ} {b₀ b a : MemoryBroker} {past : List Event} {c : Courier σ}

theorem start (e : Errand σ) (b : MemoryBroker) :
    OnCourse e b b [] ⟨e.program, e.secrets, none⟩ b :=
  ⟨rfl, .refl b, by simp, fun _ => rfl⟩

/-- What others do to the shared broker does not matter. -/
theorem others {b' : MemoryBroker} (h : OnCourse e b₀ b past c a) (alike : MemoryBroker.Alike b b')
    (stays : ∀ name, (b.exchange? name).isSome → (b'.exchange? name).isSome) :
    OnCourse e b₀ b' past c a where
  alone := h.alone
  alike := h.alike.trans alike
  declared x hx name hname :=
    ⟨(h.declared x hx name hname).1, stays name (h.declared x hx name hname).2⟩
  fresh := h.fresh

/-- A step that calls no broker. -/
theorem quiet {events : List Event} {program : Delivery.Step DeliveryReport} {secrets : σ}
    (h : OnCourse e b₀ b past c a)
    (same : c.program.run e.source MemoryBroker.broker c.secrets (a, c.session) =
      (program.run e.source MemoryBroker.broker secrets (a, c.session)).after events)
    (calls : events.filterMap Event.turn? = []) :
    OnCourse e b₀ b (past ++ events) ⟨program, secrets, c.session⟩ a where
  alone := by rw [← h.alone, same, Ran.after_after]
  alike := h.alike
  declared := by
    rw [List.filterMap_append, calls, List.append_nil]
    exact h.declared
  fresh := by
    rw [List.filterMap_append, calls, List.append_nil]
    exact h.fresh

section
variable {q : Call} {next : Except Failure q.Answer → Delivery.Step DeliveryReport}

/-- A call that comes next is the next one of the errand alone. -/
theorem next_turn (h : OnCourse e b₀ b past c a) (ask : c.program = .ask (.call q) next) :
    ∃ reply later, (e.alone b₀).turns = past.filterMap Event.turn? ++ ⟨q, reply⟩ :: later := by
  let answer := MemoryBroker.broker.answer q (a, c.session)
  let rest := (next answer.result).run e.source MemoryBroker.broker c.secrets answer.state
  refine ⟨answer.result, rest.turns, ?_⟩
  rw [← h.alone, ask, Program.run_call, Ran.turns_after, Ran.turns_after, List.filterMap_append,
    filterMap_turn?_noted]
  rfl

/-- An exchange that is published to has been declared. -/
theorem known_of_did (h : OnCourse e b₀ b past c a) {later : List Turn} {name : String}
    (turns : (e.alone b₀).turns = past.filterMap Event.turn? ++ later)
    (name_eq : name = e.settings.broker.exchange)
    (did : Turn.did .declare (past.filterMap Event.turn?) = true) :
    (a.exchange? name).isSome ∧ (b.exchange? name).isSome := by
  obtain ⟨x, member, went⟩ := List.any_eq_true.1 did
  obtain ⟨kind, went⟩ := Bool.and_eq_true_iff.1 went
  obtain ⟨spec, call, declared⟩ := Turn.exists_declared? (of_decide_eq_true kind) went
  obtain ⟨before, after, split⟩ := List.append_of_mem member
  have placed :=
    (Delivery.forward_orderly e.source MemoryBroker.broker e.settings e.input e.id e.secrets
    (b₀, none)).in_place before x (after ++ later) (by
      rw [← List.cons_append, ← List.append_assoc, ← split]
      exact turns)
  rw [Turn.InPlace, call] at placed
  exact h.declared x member name (by rw [declared, placed.2, name_eq])

/-- A call of the shared broker: it answers as a broker of one's own would. -/
theorem call (h : OnCourse e b₀ b past c a) (ask : c.program = .ask (.call q) next) :
    ∃ reply a' b' session', MemoryBroker.Effect b c.session q reply b' session' ∧
      (q.kind = .connect → c.session = none) ∧
      OnCourse e b₀ b' (past ++ [.asked (.call q) reply]) ⟨next reply, c.secrets, session'⟩ a' := by
  obtain ⟨_, later, turns⟩ := h.next_turn ask
  have placed :=
    (Delivery.forward_orderly e.source MemoryBroker.broker e.settings e.input e.id e.secrets
    (b₀, none)).in_place _ _ _ turns
  have plain : MemoryBroker.IsPlain q := by
    cases q with
    | declare spec => rw [show spec = _ from placed.2]; rfl
    | _ => trivial
  have known : ∀ m, q = .publish m → (a.exchange? m.exchange).isSome ∧
      (b.exchange? m.exchange).isSome := by
    rintro m rfl
    exact h.known_of_did turns placed.2 placed.1
  obtain ⟨reply, a', session', own⟩ := MemoryBroker.exists_effect a c.session plain
  obtain ⟨b', shared⟩ := own.transfer h.alike known
  refine ⟨reply, a', b', session', shared, ?_, ?_⟩
  · intro connects
    cases q with
    | connect who mode => exact h.fresh placed
    | _ => cases connects
  have own_run : c.program.run e.source MemoryBroker.broker c.secrets (a, c.session) =
      ((next reply).run e.source MemoryBroker.broker c.secrets (a', session')).after
        [.asked (.call q) reply] := by
    rw [ask, Program.run_call, own.answer]
    rfl
  refine ⟨by rw [← h.alone, own_run, Ran.after_after], ?_, ?_, by simp⟩
  · exact own.alike.symm.trans (h.alike.trans shared.alike)
  · intro x member name declared
    rw [List.filterMap_append, List.mem_append] at member
    rcases member with old | new
    · obtain ⟨there, here⟩ := h.declared x old name declared
      exact ⟨own.isSome_exchange? there, shared.isSome_exchange? here⟩
    · rw [filterMap_turn?_call, List.filterMap_nil, List.mem_singleton] at new
      rw [new] at declared
      rw [own.exchange?, if_pos declared, shared.exchange?, if_pos declared]
      exact ⟨rfl, rfl⟩

end

/-- A courier that is done has done all that its errand does alone, and leaves no session open. -/
theorem finished (h : OnCourse e b₀ b past c a) {r : Except Failure DeliveryReport}
    (done : c.program.result? = some r) :
    (e.alone b₀).result = r ∧ (e.alone b₀).events = past ∧ c.session = none := by
  have closed := (Delivery.forward_service e.source e.settings e.input e.id e.secrets b₀).1
  have whole := h.alone
  rw [Program.eq_done_of_result? done] at whole
  refine ⟨by rw [← whole]; rfl, ?_, ?_⟩
  · rw [← whole, Ran.events_after]
    exact List.append_nil _
  · rw [← closed]
    exact congrArg (fun r => r.broker.2) whole

end OnCourse

end KeyRelay
