import Mathlib.Algebra.BigOperators.Fin
import Mathlib.Algebra.Order.BigOperators.Group.Finset
import KeyRelay.Proofs.Delivery.Traffic

/-!
What any number of deliveries come to at one broker in memory, in every order of their turns. Each
ends as it would alone; the broker has stored one message for each that succeeded, in the order in
which they published; its table, its sessions and its count of connections do not depend on the
order.
-/

namespace KeyRelay

namespace Traffic

open MemoryBroker (Effect)

variable {n : Nat} {σ : Type} {errands : Fin n → Errand σ} {b₀ : MemoryBroker}

/-- What every turn keeps: the couriers are on their courses, and the broker's record is the one
that the calls so far account for. -/
structure Kept (errands : Fin n → Errand σ) (b₀ : MemoryBroker) (w : Traffic n σ) : Prop where
  courses : ∀ i, ∃ a, OnCourse (errands i) b₀ w.broker (w.past i) (w.couriers i) a
  alike : MemoryBroker.Alike b₀ w.broker
  attempts : w.broker.attempts = b₀.attempts + Turn.count .connect w.turns
  published : w.broker.published = b₀.published ++ if b₀.nacking then []
    else w.turns.filterMap Turn.sent?
  exchanges : ∀ name, w.broker.exchange? name =
    if ∃ x ∈ w.turns, x.declared? = some name then some (.durableFanout name) else b₀.exchange? name
  sessions : w.broker.openSessions = b₀.openSessions + ∑ i, (w.couriers i).session.toList.length

theorem kept_start (errands : Fin n → Errand σ) (b : MemoryBroker) :
    Kept errands b (start errands b) where
  courses i := ⟨b, .start (errands i) b⟩
  alike := .refl b
  attempts := rfl
  published := by simp [start, turns]
  exchanges name := by simp [start, turns]
  sessions := by simp [start]

/-- A turn does nothing, or something that the broker does not notice, or one call of the broker. -/
theorem turn_cases {w : Traffic n σ} (h : Kept errands b₀ w) (i : Fin n) :
    turn errands w i = w ∨
    (∃ events courier a, events.filterMap Event.turn? = [] ∧
      courier.session = (w.couriers i).session ∧
      OnCourse (errands i) b₀ w.broker (w.past i ++ events) courier a ∧
      turn errands w i = w.moved i events courier w.broker) ∨
    (∃ c reply b courier a, Effect w.broker (w.couriers i).session c reply b courier.session ∧
      (c.kind = .connect → (w.couriers i).session = none) ∧
      OnCourse (errands i) b₀ b (w.past i ++ [.asked (.call c) reply]) courier a ∧
      turn errands w i = w.moved i [.asked (.call c) reply] courier b) := by
  obtain ⟨a, course⟩ := h.courses i
  cases program : (w.couriers i).program with
  | done r => exact .inl (by simp only [turn, program, Program.step])
  | say line next =>
    refine .inr (.inl ⟨[.said line], ⟨next, (w.couriers i).secrets, (w.couriers i).session⟩, a, rfl,
      rfl, ?_, ?_⟩)
    · exact course.quiet (Program.run_of_step (by rw [program]; rfl)) rfl
    · simp only [turn, program, Program.step]
  | ask q next =>
    cases q with
    | lookup key =>
      let answer := (errands i).source.lookup key (w.couriers i).secrets
      refine .inr (.inl ⟨answer.lines.map .noted ++ [.asked (.lookup key) answer.result],
        ⟨next answer.result, answer.state, (w.couriers i).session⟩, a, ?_, rfl, ?_, ?_⟩)
      · rw [List.filterMap_append, filterMap_turn?_noted]
        rfl
      · refine course.quiet (Program.run_of_step (by rw [program]; rfl)) ?_
        rw [List.filterMap_append, filterMap_turn?_noted]
        rfl
      · simp only [turn, program, Program.step]
        rfl
    | call c =>
      obtain ⟨reply, a', b, session, effect, fresh, course⟩ := course.call program
      refine .inr (.inr ⟨c, reply, b, ⟨next reply, (w.couriers i).secrets, session⟩, a', effect,
        fresh, course, ?_⟩)
      simp only [turn, program, Program.step, effect.answer]
      rfl

/-- The couriers are on their courses after one of them has moved. -/
theorem courses_moved {w : Traffic n σ} (h : Kept errands b₀ w) {i : Fin n} {events : List Event}
    {courier : Courier σ} {b a : MemoryBroker}
    (own : OnCourse (errands i) b₀ b (w.past i ++ events) courier a)
    (alike : MemoryBroker.Alike w.broker b)
    (stays : ∀ name, (w.broker.exchange? name).isSome → (b.exchange? name).isSome) (j : Fin n) :
    ∃ a, OnCourse (errands j) b₀ b ((w.moved i events courier b).past j)
      ((w.moved i events courier b).couriers j) a := by
  by_cases same : j = i
  · subst same
    refine ⟨a, ?_⟩
    rw [past_moved_self, couriers_moved_self]
    exact own
  · obtain ⟨a', course⟩ := h.courses j
    refine ⟨a', ?_⟩
    rw [past_moved_ne w same, couriers_moved_ne w same]
    exact course.others alike stays

/-- A sum over all couriers changes by what the one that moved contributes. -/
theorem sum_moved (w : Traffic n σ) (i : Fin n) (events : List Event) (courier : Courier σ)
    (b : MemoryBroker) (g : Courier σ → Nat) :
    ∑ j, g ((w.moved i events courier b).couriers j) + g (w.couriers i) = ∑ j, g (w.couriers j) +
      g courier := by
  have others : ∑ j ∈ Finset.univ.erase i, g ((w.moved i events courier b).couriers j) =
      ∑ j ∈ Finset.univ.erase i, g (w.couriers j) := by
    refine Finset.sum_congr rfl fun j hj => ?_
    rw [couriers_moved_ne w (Finset.ne_of_mem_erase hj)]
  rw [← Finset.add_sum_erase _ _ (Finset.mem_univ i), others, couriers_moved_self,
    ← Finset.add_sum_erase _ (fun j => g (w.couriers j)) (Finset.mem_univ i)]
  omega

theorem kept_turn {w : Traffic n σ} (h : Kept errands b₀ w) (i : Fin n) :
    Kept errands b₀ (turn errands w i) := by
  rcases turn_cases h i with
    same | ⟨events, courier, a, calls, session, course, moved⟩ |
      ⟨c, reply, b, courier, a, effect, fresh, course, moved⟩
  · rw [same]
    exact h
  · have turns : (w.moved i events courier w.broker).turns = w.turns := by
      rw [turns_moved, calls, List.append_nil]
    rw [moved]
    refine ⟨courses_moved h course (.refl _) fun _ known => known, h.alike, ?_, ?_, ?_, ?_⟩
    · rw [turns]
      exact h.attempts
    · rw [turns]
      exact h.published
    · rw [turns]
      exact h.exchanges
    · have sum := sum_moved w i events courier w.broker fun c => c.session.toList.length
      rw [session] at sum
      exact h.sessions.trans (congrArg _ (Nat.add_right_cancel sum).symm)
  · have turns : (w.moved i [.asked (.call c) reply] courier b).turns = w.turns ++ [⟨c, reply⟩] :=
      turns_moved ..
    rw [moved]
    refine ⟨courses_moved h course effect.alike fun _ =>
      effect.isSome_exchange?, h.alike.trans effect.alike, ?_, ?_, ?_, ?_⟩
    · have one : Turn.count .connect [⟨c, reply⟩] = if c.kind = .connect then 1 else 0 := by
        simp [Turn.count, List.countP_singleton]
      rw [turns, Turn.count_append, one, ← Nat.add_assoc, ← h.attempts]
      exact effect.attempts
    · have one : [(⟨c, reply⟩ : Turn)].filterMap Turn.sent? = (Turn.sent? ⟨c, reply⟩).toList := by
        cases sent : Turn.sent? ⟨c, reply⟩ <;> simp [sent]
      have published := effect.published
      rw [h.published, ← h.alike.nacking] at published
      rw [turns, List.filterMap_append, one]
      refine published.trans ?_
      cases b₀.nacking <;> simp
    · intro name
      refine (effect.exchange? name).trans ?_
      rw [turns, h.exchanges]
      by_cases new : Turn.declared? ⟨c, reply⟩ = some name
      · simp [new]
      · simp [new]
    · have sum := sum_moved w i [.asked (.call c) reply] courier b fun c => c.session.toList.length
      have counted : (w.couriers i).session.isSome → 0 < w.broker.openSessions := by
        intro isOpen
        have own : (w.couriers i).session.toList.length ≤ ∑ j,
            (w.couriers j).session.toList.length :=
          Finset.single_le_sum (f := fun j => (w.couriers j).session.toList.length) (fun _ _ =>
            Nat.zero_le _)
            (Finset.mem_univ i)
        rw [Option.length_toList, if_pos isOpen] at own
        rw [h.sessions]
        omega
      have opened := effect.openSessions fresh counted
      have before := h.sessions
      show b.openSessions = _
      omega

theorem kept_foldl {w : Traffic n σ} (h : Kept errands b₀ w) (schedule : List (Fin n)) :
    Kept errands b₀ (schedule.foldl (turn errands) w) := by
  induction schedule generalizing w with
  | nil => exact h
  | cons i schedule ih => exact ih (kept_turn h i)

theorem kept_play (errands : Fin n → Errand σ) (b : MemoryBroker) (schedule : List (Fin n)) :
    Kept errands b (play errands b schedule) :=
  kept_foldl (kept_start errands b) schedule

/-! ### Getting done -/

/-- What a courier's delivery came to, once it is done. -/
def result? (w : Traffic n σ) (i : Fin n) : Option (Except Failure DeliveryReport) :=
  (w.couriers i).program.result?

/-- Every courier is done. -/
def Done (w : Traffic n σ) : Prop :=
  ∀ i, ∃ r, w.result? i = some r

theorem couriers_turn_ne (w : Traffic n σ) {i j : Fin n} (h : j ≠ i) :
    (turn errands w i).couriers j = w.couriers j := by
  simp only [turn]
  split
  · rfl
  · exact couriers_moved_ne w h ..

/-- Who is done stays so. -/
theorem result?_turn {w : Traffic n σ} {j : Fin n} {r : Except Failure DeliveryReport}
    (h : w.result? j = some r) (i : Fin n) : (turn errands w i).result? j = some r := by
  by_cases same : j = i
  · subst same
    have idle : turn errands w j = w := by
      simp only [turn, Program.eq_done_of_result? h, Program.step]
    rw [idle, h]
  · rw [result?, couriers_turn_ne w same]
    exact h

theorem result?_foldl {w : Traffic n σ} {j : Fin n} {r : Except Failure DeliveryReport}
    (h : w.result? j = some r) (schedule : List (Fin n)) :
    (schedule.foldl (turn errands) w).result? j = some r := by
  induction schedule generalizing w with
  | nil => exact h
  | cons i schedule ih => exact ih (result?_turn h i)

/-- A courier that is given turn after turn gets done. -/
theorem exists_finish (errands : Fin n → Errand σ) (i : Fin n) (w : Traffic n σ) :
    ∃ (more : List (Fin n)) (r : Except Failure DeliveryReport),
      (more.foldl (turn errands) w).result? i = some r := by
  generalize program : (w.couriers i).program = p
  -- A turn leaves the courier with a part of the program it had.
  induction p generalizing w with
  | done r => exact ⟨[], r, by rw [List.foldl_nil, result?, program]; rfl⟩
  | say line next ih =>
    have left : ((turn errands w i).couriers i).program = next := by
      simp only [turn, program, Program.step, couriers_moved_self]
    obtain ⟨more, r, done⟩ := ih (turn errands w i) left
    exact ⟨i :: more, r, done⟩
  | ask q next ih =>
    have left : ∃ reply, ((turn errands w i).couriers i).program = next reply := by
      cases q with
      | lookup key =>
        simp only [turn, program, Program.step, couriers_moved_self]
        exact ⟨_, rfl⟩
      | call c =>
        simp only [turn, program, Program.step, couriers_moved_self]
        exact ⟨_, rfl⟩
    obtain ⟨reply, left⟩ := left
    obtain ⟨more, r, done⟩ := ih reply (turn errands w i) left
    exact ⟨i :: more, r, done⟩

/-- From wherever the deliveries are, some turns get them all done. -/
theorem exists_done (errands : Fin n → Errand σ) (w : Traffic n σ) :
    ∃ more : List (Fin n), (more.foldl (turn errands) w).Done := by
  have listed : ∀ (couriers : List (Fin n)) (w : Traffic n σ), ∃ more : List (Fin n),
      ∀ i ∈ couriers, ∃ r, (more.foldl (turn errands) w).result? i = some r := by
    intro couriers
    induction couriers with
    | nil => exact fun _ => ⟨[], by simp⟩
    | cons i couriers ih =>
      intro w
      obtain ⟨first, r, done⟩ := exists_finish errands i w
      obtain ⟨more, rest⟩ := ih (first.foldl (turn errands) w)
      refine ⟨first ++ more, ?_⟩
      rw [List.foldl_append]
      intro j hj
      rcases List.mem_cons.1 hj with rfl | hj
      · exact ⟨r, result?_foldl done more⟩
      · exact rest j hj
  obtain ⟨more, done⟩ := listed (List.finRange n) w
  exact ⟨more, fun i => done i (List.mem_finRange i)⟩

/-! ### Messages and calls by courier -/

theorem mem_turns {w : Traffic n σ} {x : Turn} :
    x ∈ w.turns ↔ ∃ i, x ∈ (w.past i).filterMap Event.turn? := by
  simp [turns, past]

/-- The messages that went out so far, each with the courier that sent it. -/
def sent (w : Traffic n σ) : List (Fin n × Message) :=
  w.history.filterMap fun x => (x.2.turn?.bind Turn.sent?).map (x.1, ·)

/-- The messages that a courier sent so far. -/
def sentBy (w : Traffic n σ) (i : Fin n) : List Message :=
  ((w.past i).filterMap Event.turn?).filterMap Turn.sent?

theorem map_snd_sent (w : Traffic n σ) : w.sent.map (·.2) = w.turns.filterMap Turn.sent? := by
  simp only [sent, turns, List.map_filterMap, List.filterMap_filterMap, Option.map_map]
  congr 1
  funext x
  cases x.2.turn?.bind Turn.sent? <;> rfl

theorem sentBy_eq (w : Traffic n σ) (i : Fin n) :
    w.sentBy i = w.sent.filterMap fun x => if x.1 = i then some x.2 else none := by
  simp only [sentBy, past, sent, List.filterMap_filterMap]
  congr 1
  funext x
  obtain ⟨j, e⟩ := x
  by_cases same : j = i
  · subst same
    cases message : e.turn?.bind Turn.sent? with
    | none => simpa using message
    | some m => simpa using message
  · cases e.turn?.bind Turn.sent? <;> simp [same]

theorem mem_sent {w : Traffic n σ} {i : Fin n} {m : Message} :
    (i, m) ∈ w.sent ↔ m ∈ w.sentBy i := by
  simp [sentBy_eq]

theorem count_sent (w : Traffic n σ) (i : Fin n) :
    (w.sent.map (·.1)).count i = (w.sentBy i).length := by
  rw [sentBy_eq, List.length_filterMap_eq_countP, List.count, List.countP_map]
  congr 1
  funext x
  by_cases same : x.1 = i <;> simp [same]

/-- What is counted over all couriers is counted over each. -/
theorem sum_countP_tagged {α : Type} (p : α → Bool) (xs : List (Fin n × α)) :
    ∑ i, (xs.filterMap fun x => if x.1 = i then some x.2 else none).countP p = xs.countP fun x =>
      p x.2 := by
  induction xs with
  | nil => simp
  | cons x xs ih =>
    have one : ∀ i, ((x :: xs).filterMap fun x => if x.1 = i then some x.2 else none).countP p =
        (xs.filterMap fun x => if x.1 = i then some x.2 else none).countP p +
          if x.1 = i then (if p x.2 then 1 else 0) else 0 := by
      intro i
      by_cases own : x.1 = i <;> simp [own, List.countP_cons]
    simp only [one, Finset.sum_add_distrib, ih, Finset.sum_ite_eq, Finset.mem_univ, if_true,
      List.countP_cons]

/-- The calls of a kind are those of each courier together. -/
theorem count_turns (w : Traffic n σ) (k : CallKind) :
    Turn.count k w.turns = ∑ i, Turn.count k ((w.past i).filterMap Event.turn?) := by
  simp only [Turn.count, turns, past,
    List.countP_filterMap (p := fun x : Turn => decide (x.call.kind = k))]
  rw [sum_countP_tagged fun e : Event => (e.turn?.map fun x => decide (x.call.kind = k)).getD false]

/-! ### Once all are done -/

theorem Kept.finished {w : Traffic n σ} (h : Kept errands b₀ w) {i : Fin n}
    {r : Except Failure DeliveryReport} (done : w.result? i = some r) :
    ((errands i).alone b₀).result = r ∧ ((errands i).alone b₀).events = w.past i ∧
    (w.couriers i).session = none := by
  obtain ⟨a, course⟩ := h.courses i
  exact course.finished done

/-- What a courier that is done has sent is the message of its report. -/
theorem Kept.sentBy {w : Traffic n σ} (h : Kept errands b₀ w) {i : Fin n}
    {r : Except Failure DeliveryReport} (done : w.result? i = some r) :
    w.sentBy i = DeliveryReport.messages r := by
  obtain ⟨result, events, _⟩ := h.finished done
  have alone := Delivery.forward_sent (errands i).source MemoryBroker.broker (errands i).settings
    (errands i).input
    (errands i).id (errands i).secrets (b₀, none)
  rw [Traffic.sentBy, ← events, ← result]
  exact alone

/-- An exchange has been declared where one of the deliveries alone declares it. -/
theorem Kept.exists_declared {w : Traffic n σ} (h : Kept errands b₀ w) (done : w.Done)
    (name : String) :
    (∃ x ∈ w.turns, x.declared? = some name) ↔
      ∃ i, ∃ x ∈ ((errands i).alone b₀).turns, x.declared? = some name := by
  have own : ∀ i, ((errands i).alone b₀).turns = (w.past i).filterMap Event.turn? := by
    intro i
    obtain ⟨r, finished⟩ := done i
    rw [Ran.turns, (h.finished finished).2.1]
  simp only [own, mem_turns]
  constructor
  · rintro ⟨x, ⟨i, member⟩, declared⟩
    exact ⟨i, x, member, declared⟩
  · rintro ⟨i, x, member, declared⟩
    exact ⟨x, ⟨i, member⟩, declared⟩

/-- How things stand once all deliveries are done. -/
structure Settled (errands : Fin n → Errand σ) (b : MemoryBroker) (w : Traffic n σ) : Prop where
  /-- Each came to what it comes to alone, under whatever identifier. -/
  results : ∀ i, ∃ r, w.result? i = some r ∧ ∀ id, ({ errands i with id }.alone b).result =
    r.map (·.withId id)
  /-- The broker has the messages that went out, in the order of their publishes, and nothing else
  is new. -/
  published : w.broker.published = b.published ++ if b.nacking then [] else w.sent.map (·.2)
  once : (w.sent.map (·.1)).Nodup
  /-- The messages that went out are those of the deliveries that succeeded. -/
  sent : ∀ i m, (i, m) ∈ w.sent ↔ ∃ report, w.result? i = some (.ok report) ∧ m = report.message
  /-- The table of exchanges is the same after every other order of turns. -/
  exchanges : ∀ schedule, (play errands b schedule).Done →
    ∀ name, (play errands b schedule).broker.exchange? name = w.broker.exchange? name
  sessions : w.broker.openSessions = b.openSessions
  /-- The deliveries whose preparation succeeds have connected, once each. -/
  attempts : w.broker.attempts = b.attempts + (Finset.univ.filter fun i =>
    (errands i).prepare.isOk).card

/-- Deliveries that share a broker in memory can always be got done, wherever they are; and in
whatever order their turns come, once they are done each of them ends as it would alone and the
broker has recorded just that. -/
theorem play_settles (errands : Fin n → Errand σ) (b : MemoryBroker) (schedule : List (Fin n)) :
    (∃ more, (play errands b (schedule ++ more)).Done) ∧
    ((play errands b schedule).Done → Settled errands b (play errands b schedule)) := by
  have kept := kept_play errands b schedule
  refine ⟨?_, fun done => ⟨?_, ?_, ?_, ?_, ?_, ?_, ?_⟩⟩
  · obtain ⟨more, done⟩ := exists_done errands (play errands b schedule)
    refine ⟨more, ?_⟩
    rw [play, List.foldl_append]
    exact done
  · intro i
    obtain ⟨r, finished⟩ := done i
    refine ⟨r, finished, fun id => ?_⟩
    rw [← (kept.finished finished).1]
    exact (errands i).result_withId b id
  · rw [map_snd_sent]
    exact kept.published
  · rw [List.nodup_iff_count_le_one]
    intro i
    obtain ⟨r, finished⟩ := done i
    rw [count_sent, kept.sentBy finished]
    cases r <;> simp [DeliveryReport.messages]
  · intro i m
    obtain ⟨r, finished⟩ := done i
    rw [mem_sent, kept.sentBy finished, finished]
    cases r <;> simp [DeliveryReport.messages]
  · intro other otherDone name
    have same := (kept_play errands b other).exists_declared otherDone name
    rw [← kept.exists_declared done name] at same
    rw [kept.exchanges, (kept_play errands b other).exchanges]
    exact if_congr same rfl rfl
  · rw [kept.sessions]
    have closed : ∀ i, ((play errands b schedule).couriers i).session.toList.length = 0 := by
      intro i
      obtain ⟨r, finished⟩ := done i
      rw [(kept.finished finished).2.2]
      rfl
    simp [closed]
  · rw [kept.attempts, count_turns, Finset.card_filter]
    congr 1
    refine Finset.sum_congr rfl fun i _ => ?_
    obtain ⟨r, finished⟩ := done i
    have connects :=
      Delivery.forward_connects (errands i).source MemoryBroker.broker (errands i).settings
      (errands i).input (errands i).id (errands i).secrets (b, none)
    rw [← (kept.finished finished).2.1]
    exact connects

end Traffic

end KeyRelay
