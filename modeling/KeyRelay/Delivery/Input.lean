import KeyRelay.Failure

/-!
Reading an input that comes in chunks and may break off with an error of the system. Each read gets
what the buffer has room for, and the input is all that was read by the one that gets nothing.
-/

namespace KeyRelay

/-- What an input stream yields: chunks, then its end or an error. -/
structure InputStream where
  chunks : List (List UInt8)
  error? : Option String := none
  deriving DecidableEq, Repr

/-- The room that a read has, by the number of bytes read before it. -/
structure Buffering where
  room : Nat → Nat
  room_pos : ∀ count, 0 < room count

/-- Room for 32 bytes at least, and for as many as there are already. -/
def Buffering.doubling : Buffering where
  room count := max 32 count
  room_pos count := by omega

namespace InputStream

/-- The bytes that are still to come. -/
def bytes (s : InputStream) : List UInt8 :=
  s.chunks.flatten

/-- One read: what it gets, which is nothing at the end, and the stream after it. No read gets more
than one chunk or more than it has room for; what is left of the chunk is for the next. -/
def read (s : InputStream) (room : Nat) : Except String (List UInt8 × InputStream) :=
  match s.chunks.dropWhile List.isEmpty with
  | [] =>
    match s.error? with
    | some e => .error e
    | none => .ok ([], ⟨[], none⟩)
  | chunk :: later => .ok (chunk.take room, ⟨chunk.drop room :: later, s.error?⟩)

theorem flatten_dropWhile_isEmpty (chunks : List (List UInt8)) :
    (chunks.dropWhile List.isEmpty).flatten = chunks.flatten := by
  induction chunks with
  | nil => rfl
  | cons chunk later ih =>
    cases chunk with
    | nil => exact ih
    | cons b bs => rfl

/-- What a read gets and what is left after it are what there was. -/
theorem bytes_of_read {s rest : InputStream} {room : Nat} {got : List UInt8}
    (h : s.read room = .ok (got, rest)) :
    s.bytes = got ++ rest.bytes := by
  rw [read] at h
  rw [bytes, ← flatten_dropWhile_isEmpty]
  split at h
  · next front =>
    rw [front]
    split at h
    · cases h
    · cases h
      rfl
  · next chunk later front =>
    rw [front]
    cases h
    rw [bytes, List.flatten_cons, List.flatten_cons, ← List.append_assoc, List.take_append_drop]

/-- Reads on until there is nothing more; `taken` is what was read before. -/
def readOn (b : Buffering) (s : InputStream) (taken : List UInt8) : Except String (List UInt8) :=
  match h : s.read (b.room taken.length) with
  | .error e => .error e
  | .ok ([], _) => .ok taken
  | .ok (x :: got, rest) =>
    have : rest.bytes.length < s.bytes.length := by
      rw [bytes_of_read h, List.length_append, List.length_cons]
      omega
    rest.readOn b (taken ++ x :: got)
  termination_by s.bytes.length

/-- The whole input. Nothing is used of one that breaks off. -/
def readWith (b : Buffering) (s : InputStream) : Except Failure (List UInt8) :=
  (s.readOn b []).mapError fun e => .input ("cannot read input: " ++ e)

def readAll (s : InputStream) : Except Failure (List UInt8) :=
  s.readWith .doubling

end InputStream

end KeyRelay
