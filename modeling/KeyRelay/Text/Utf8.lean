/-!
Text as bytes. `pieces` cuts any byte sequence into characters and maximal broken sequences with a
machine that holds at most one started sequence; strict reading (`decode`) refuses the first broken
sequence, lenient reading (`lossy`) puts a replacement character for each. `bytes` is the written
form.
-/

namespace KeyRelay.Utf8

/-- The bytes of a text. -/
def bytes (s : String) : List UInt8 :=
  s.toList.flatMap String.utf8EncodeChar

/-- A started sequence: how many bytes it still needs, the range the next one has to lie in, the
value read so far and the number of bytes taken. -/
structure Pending where
  need : Nat
  lo : Nat
  hi : Nat
  value : Nat
  taken : Nat
  deriving DecidableEq, Repr

/-- What a byte sequence is cut into. -/
inductive Piece where
  | char (c : Char)
  /-- A maximal broken sequence of this many bytes. -/
  | broken (size : Nat)
  /-- The input ends inside a sequence that is so far valid. -/
  | cut
  deriving DecidableEq, Repr

/-- What a byte does where a character has to start. -/
inductive Lead where
  | ascii (c : Char)
  | opens (p : Pending)
  | stray
  deriving DecidableEq, Repr

/-- The ranges exclude overlong forms, surrogates and values above U+10FFFF by the second byte. -/
def lead (b : UInt8) : Lead :=
  let n := b.toNat
  if n < 0x80 then .ascii (Char.ofNat n)
  else if n < 0xC2 then .stray
  else if n < 0xE0 then .opens ⟨1, 0x80, 0xBF, n % 32, 1⟩
  else if n = 0xE0 then .opens ⟨2, 0xA0, 0xBF, 0, 1⟩
  else if n = 0xED then .opens ⟨2, 0x80, 0x9F, 13, 1⟩
  else if n < 0xF0 then .opens ⟨2, 0x80, 0xBF, n % 16, 1⟩
  else if n = 0xF0 then .opens ⟨3, 0x90, 0xBF, 0, 1⟩
  else if n < 0xF4 then .opens ⟨3, 0x80, 0xBF, n % 8, 1⟩
  else if n = 0xF4 then .opens ⟨3, 0x80, 0x8F, 4, 1⟩
  else .stray

/-- The pieces cut so far, newest first, and the started sequence if there is one. -/
structure Scan where
  pieces : List Piece
  pending : Option Pending
  deriving DecidableEq, Repr

/-- A byte where a character has to start. -/
def Scan.start (pieces : List Piece) (b : UInt8) : Scan :=
  match lead b with
  | .ascii c => ⟨.char c :: pieces, none⟩
  | .opens p => ⟨pieces, some p⟩
  | .stray => ⟨.broken 1 :: pieces, none⟩

/-- One byte: it completes or continues the started sequence, or breaks it and starts anew. -/
def Scan.step (s : Scan) (b : UInt8) : Scan :=
  match s.pending with
  | none => Scan.start s.pieces b
  | some p =>
    if p.lo ≤ b.toNat ∧ b.toNat ≤ p.hi then
      let value := p.value * 64 + b.toNat % 64
      if p.need = 1 then ⟨.char (Char.ofNat value) :: s.pieces, none⟩
      else ⟨s.pieces, some ⟨p.need - 1, 0x80, 0xBF, value, p.taken + 1⟩⟩
    else Scan.start (.broken p.taken :: s.pieces) b

/-- The pieces of a byte sequence, in order. -/
def pieces (bs : List UInt8) : List Piece :=
  let s := bs.foldl Scan.step ⟨[], none⟩
  match s.pending with
  | none => s.pieces.reverse
  | some _ => (.cut :: s.pieces).reverse

/-- Where a byte sequence stops being text: the length of its valid part, and the length of the
broken sequence there (none where the input just ends too early). -/
structure Fault where
  validUpTo : Nat
  brokenLength : Option Nat
  deriving DecidableEq, Repr

def Fault.message (f : Fault) : String :=
  match f.brokenLength with
  | some n =>
    "invalid utf-8 sequence of " ++ toString n ++ " bytes from index " ++ toString f.validUpTo
  | none => "incomplete utf-8 byte sequence from index " ++ toString f.validUpTo

/-- Collects characters up to the first piece that is none. -/
def gather (size : Nat) (read : List Char) : List Piece → Except Fault (List Char)
  | [] => .ok read.reverse
  | .char c :: rest => gather (size + c.utf8Size) (c :: read) rest
  | .broken n :: _ => .error ⟨size, some n⟩
  | .cut :: _ => .error ⟨size, none⟩

/-- Reads a byte sequence that has to be text throughout. -/
def decode (bs : List UInt8) : Except Fault String :=
  (gather 0 [] (pieces bs)).map String.ofList

/-- The character that stands for a piece in lenient reading. -/
def Piece.shown : Piece → Char
  | .char c => c
  | _ => Char.ofNat 0xFFFD

/-- Reads any byte sequence, with U+FFFD for each maximal broken sequence. -/
def lossy (bs : List UInt8) : String :=
  String.ofList ((pieces bs).map Piece.shown)

end KeyRelay.Utf8
