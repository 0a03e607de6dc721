import KeyRelay.Delivery.Input
import KeyRelay.Handler

/-!
What a reader makes of a stream. It gets the bytes of the stream, however they are cut into chunks
and whatever room each read has (`readOn_eq`), so nothing that comes of an input depends on either;
of a stream that breaks off nothing is used.
-/

namespace KeyRelay

namespace InputStream

/-- A read fails at the end of a stream that breaks off. -/
theorem error_of_read {s : InputStream} {room : Nat} {e : String} (h : s.read room = .error e) :
    s.error? = some e := by
  rw [read] at h
  split at h
  · split at h
    · next e' broken =>
      cases h
      exact broken
    · cases h
  · cases h

/-- A read that gets something leaves the way a stream ends as it is. -/
theorem error_of_read_ok {s rest : InputStream} {room : Nat} {got : List UInt8}
    (h : s.read room = .ok (got, rest)) :
    rest.error? = s.error? := by
  rw [read] at h
  split at h
  · split at h
    · cases h
    · next whole =>
      cases h
      exact whole.symm
  · cases h
    rfl

/-- A read that has room gets something unless the stream is at its end. -/
theorem ended_of_read {s rest : InputStream} {room : Nat} (pos : 0 < room)
    (h : s.read room = .ok ([], rest)) :
    s.bytes = [] ∧ s.error? = none := by
  rw [bytes, ← flatten_dropWhile_isEmpty]
  rw [read] at h
  split at h
  · next front =>
    rw [front]
    split at h
    · cases h
    · next whole => exact ⟨rfl, whole⟩
  · next chunk later front =>
    have some : chunk ≠ [] := by
      have head := List.head?_dropWhile_not List.isEmpty s.chunks
      rw [front] at head
      rintro rfl
      cases head
    have none : chunk.take room = [] := congrArg Prod.fst (Except.ok.inj h)
    rcases List.take_eq_nil_iff.1 none with zero | empty
    · omega
    · exact absurd empty some

/-- What reading on comes to: the bytes that are still to come, after those there are, or the
error. -/
theorem readOn_eq (b : Buffering) (s : InputStream) (taken : List UInt8) :
    s.readOn b taken = match s.error? with
      | some e => .error e
      | none => .ok (taken ++ s.bytes) := by
  -- each read moves bytes from those to come to those taken, and the end is reached where a read
  -- gets none
  fun_induction readOn b s taken with
  | case1 s taken e failed => rw [error_of_read failed]
  | case2 s taken rest ended =>
    obtain ⟨empty, whole⟩ := ended_of_read (b.room_pos _) ended
    rw [empty, whole, List.append_nil]
  | case3 s taken x got rest step _ ih =>
    rw [ih, error_of_read_ok step, bytes_of_read step, List.append_assoc]

theorem readWith_eq (b : Buffering) (s : InputStream) :
    s.readWith b = match s.error? with
      | some e => .error (.input ("cannot read input: " ++ e))
      | none => .ok s.bytes := by
  rw [readWith, readOn_eq]
  cases s.error? <;> rfl

theorem readAll_eq (s : InputStream) :
    s.readAll = match s.error? with
      | some e => .error (.input ("cannot read input: " ++ e))
      | none => .ok s.bytes :=
  readWith_eq .doubling s

theorem bytes_of_readAll {s : InputStream} {input : List UInt8} (h : s.readAll = .ok input) :
    input = s.bytes := by
  rw [readAll_eq] at h
  split at h
  · cases h
  · exact (Except.ok.inj h).symm

theorem input_of_readAll {s : InputStream} {f : Failure} (h : s.readAll = .error f) :
    ∃ reason, f = .input reason := by
  rw [readAll_eq] at h
  split at h
  · exact ⟨_, (Except.error.inj h).symm⟩
  · cases h

theorem readAll_ended (chunks : List (List UInt8)) : readAll ⟨chunks, none⟩ = .ok chunks.flatten :=
  readAll_eq ⟨chunks, none⟩

theorem readAll_broken (chunks : List (List UInt8)) (e : String) :
    readAll ⟨chunks, some e⟩ = .error (.input ("cannot read input: " ++ e)) :=
  readAll_eq ⟨chunks, some e⟩

end InputStream

namespace Handler

variable {σ τ : Type}

/-- A run depends on an input that ends by its bytes alone. -/
theorem run_ended (s : Settings) (chunks : List (List UInt8)) (id : MessageId)
    (source : SecretSource σ) (broker : Broker τ) (secrets : σ) (state : τ) :
    run s ⟨chunks, none⟩ id source broker secrets state =
      let r := (Delivery.forward s chunks.flatten id).run source broker secrets state
      { r with
        result := r.result.mapError fun f =>
        (Trouble.ofFailure f).within "forwarding key change" } := by
  rw [run, InputStream.readAll_ended]

/-- A run whose input breaks off does nothing. -/
theorem run_broken (s : Settings) (chunks : List (List UInt8)) (e : String) (id : MessageId)
    (source : SecretSource σ) (broker : Broker τ) (secrets : σ) (state : τ) :
    run s ⟨chunks, some e⟩ id source broker secrets state =
      ⟨.error ((Trouble.ofFailure (.input ("cannot read input: " ++ e))).within
        "reading watch payload"), [], secrets, state⟩ := by
  rw [run, InputStream.readAll_broken]

/-- Reading does not depend on how a stream is cut. Of one that ends, the input is its bytes,
whatever room the reads have, so two cuttings of the same bytes come to the same run, log and states
included. One that breaks off is refused with the error of the system, whatever was read before: the
run looks nothing up and calls no broker. -/
theorem run_reads_whole :
    (∀ (b : Buffering) (chunks : List (List UInt8)), InputStream.readWith b ⟨chunks, none⟩ =
      .ok chunks.flatten) ∧
    (∀ (chunks chunks' : List (List UInt8)), chunks.flatten = chunks'.flatten →
      ∀ (σ τ : Type) (s : Settings) (id : MessageId) (source : SecretSource σ) (broker : Broker τ)
        (secrets : σ) (state : τ),
        run s ⟨chunks, none⟩ id source broker secrets state =
          run s ⟨chunks', none⟩ id source broker secrets state) ∧
    ∀ (chunks : List (List UInt8)) (e : String),
      (∀ b : Buffering, InputStream.readWith b ⟨chunks, some e⟩ =
        .error (.input ("cannot read input: " ++ e))) ∧
      ∀ (σ τ : Type) (s : Settings) (id : MessageId) (source : SecretSource σ) (broker : Broker τ)
        (secrets : σ) (state : τ),
        let r := run s ⟨chunks, some e⟩ id source broker secrets state
        r.result = .error ((Trouble.ofFailure (.input ("cannot read input: " ++ e))).within
          "reading watch payload") ∧
        r.keys = [] ∧ r.calls = [] ∧ r.lines = [] ∧ r.secrets = secrets ∧ r.broker = state := by
  refine ⟨fun b chunks => InputStream.readWith_eq b ⟨chunks, none⟩, ?_, fun chunks e =>
    ⟨fun b => ?_, ?_⟩⟩
  · intro chunks chunks' same σ τ s id source broker secrets state
    rw [run_ended, run_ended, same]
  · exact InputStream.readWith_eq b ⟨chunks, some e⟩
  · intro σ τ s id source broker secrets state
    rw [run_broken]
    exact ⟨rfl, rfl, rfl, rfl, rfl, rfl⟩

end Handler

end KeyRelay
