import KeyRelay.Proofs.Base64
import KeyRelay.Proofs.Text.Utf8
import KeyRelay.Text.Blank

/-!
The canonical Base64 of a byte sequence, told apart from the functions that write and read it: which
characters stand for which bits, how a short last group is padded, and that bits no byte uses are
zero. Every byte sequence has one canonical text, the one that is written.
-/

namespace KeyRelay.Base64

/-- The standard alphabet. The place of a character is what it stands for. -/
def alphabet : List Char :=
  "ABCDEFGHIJKLMNOPQRSTUVWXYZabcdefghijklmnopqrstuvwxyz0123456789+/".toList

/-- A text in groups of four characters, each for six bits, and the bytes these bits come to. -/
inductive Canonical : List Char → List UInt8 → Prop where
  | nil : Canonical [] []
  | one {x y : Char} {v w : Nat} (hx : alphabet[v]? = some x) (hy : alphabet[w]? = some y)
      (unused : w % 16 = 0) :
      Canonical [x, y, '=', '='] [UInt8.ofNat (v * 4 + w / 16)]
  | two {x y z : Char} {v w u : Nat} (hx : alphabet[v]? = some x) (hy : alphabet[w]? = some y)
      (hz : alphabet[u]? = some z) (unused : u % 4 = 0) :
      Canonical [x, y, z, '='] [UInt8.ofNat (v * 4 + w / 16), UInt8.ofNat (w % 16 * 16 + u / 4)]
  | three {x y z t : Char} {v w u l : Nat} {text : List Char} {bytes : List UInt8}
      (hx : alphabet[v]? = some x)
      (hy : alphabet[w]? = some y) (hz : alphabet[u]? = some z) (ht : alphabet[l]? = some t)
      (rest : Canonical text bytes) :
      Canonical (x :: y :: z :: t :: text)
        (UInt8.ofNat (v * 4 + w / 16) :: UInt8.ofNat (w % 16 * 16 + u / 4) ::
          UInt8.ofNat (u % 4 * 64 + l) :: bytes)

theorem alphabet_symbol {v : Nat} (h : v < 64) :
    alphabet[v]? = some (Char.ofNat (symbol v).toNat) := by
  have all : ∀ v, v < 64 → alphabet[v]? = some (Char.ofNat (symbol v).toNat) := by decide
  exact all v h

theorem lt_of_alphabet {v : Nat} {x : Char} (h : alphabet[v]? = some x) : v < 64 :=
  (List.getElem?_eq_some_iff.1 h).1

/-- A character of the alphabet is written as its symbol. -/
theorem encode_of_alphabet {v : Nat} {x : Char} (h : alphabet[v]? = some x) :
    String.utf8EncodeChar x = [symbol v] := by
  have small := lt_of_alphabet h
  have ascii : (symbol v).toNat < 0x80 := by
    have all : ∀ v, v < 64 → (symbol v).toNat < 0x80 := by decide
    exact all v small
  rw [alphabet_symbol small] at h
  rw [← Option.some.inj h, Utf8.encode_ascii ascii, UInt8.ofNat_toNat]

theorem encode_pad : String.utf8EncodeChar '=' = [pad] := by decide

/-- The characters of a canonical text are those of the alphabet and the padding, and none of these
is blank. -/
theorem Canonical.solid {text : List Char} {bytes : List UInt8} (h : Canonical text bytes) :
    ∀ c ∈ text, Blank.isBlank c = false := by
  have padding : Blank.isBlank '=' = false := by decide
  have letter : ∀ {v : Nat} {x : Char}, alphabet[v]? = some x → Blank.isBlank x = false := by
    intro v x h
    have all : (alphabet.all fun x => !Blank.isBlank x) = true := by decide
    simpa using List.all_eq_true.1 all x (List.mem_of_getElem? h)
  induction h with
  | nil => simp
  | one hx hy unused => simp [letter hx, letter hy, padding]
  | two hx hy hz unused => simp [letter hx, letter hy, letter hz, padding]
  | three hx hy hz ht rest ih => simpa [letter hx, letter hy, letter hz, letter ht] using ih

/-- A canonical text is what its bytes are written as. -/
theorem Canonical.eq_encode {text : List Char} {bytes : List UInt8} (h : Canonical text bytes) :
    text.flatMap String.utf8EncodeChar = encode bytes := by
  induction h with
  | nil => rfl
  | one hx hy unused =>
    rw [encode_one (lt_of_alphabet hx) (lt_of_alphabet hy) unused]
    simp [encode_of_alphabet hx, encode_of_alphabet hy, encode_pad]
  | two hx hy hz unused =>
    rw [encode_two (lt_of_alphabet hx) (lt_of_alphabet hy) (lt_of_alphabet hz) unused]
    simp [encode_of_alphabet hx, encode_of_alphabet hy, encode_of_alphabet hz, encode_pad]
  | three hx hy hz ht rest ih =>
    rw [encode_three (lt_of_alphabet hx) (lt_of_alphabet hy) (lt_of_alphabet hz)
      (lt_of_alphabet ht), ← ih]
    simp [encode_of_alphabet hx, encode_of_alphabet hy, encode_of_alphabet hz,
      encode_of_alphabet ht]

/-- Every byte sequence has a canonical text. -/
theorem exists_canonical : ∀ bytes : List UInt8, ∃ text, Canonical text bytes
  | [] => ⟨[], .nil⟩
  | [a] => by
    obtain ⟨v, w, hv, hw, unused, rfl⟩ := exists_one a
    exact ⟨_, .one (alphabet_symbol hv) (alphabet_symbol hw) unused⟩
  | [a, b] => by
    obtain ⟨v, w, u, hv, hw, hu, unused, rfl, rfl⟩ := exists_two a b
    exact ⟨_, .two (alphabet_symbol hv) (alphabet_symbol hw) (alphabet_symbol hu) unused⟩
  | a :: b :: c :: rest => by
    obtain ⟨v, w, u, l, hv, hw, hu, hl, rfl, rfl, rfl⟩ := exists_three a b c
    obtain ⟨text, canonical⟩ := exists_canonical rest
    exact ⟨_, .three (alphabet_symbol hv) (alphabet_symbol hw) (alphabet_symbol hu)
      (alphabet_symbol hl) canonical⟩

/-- The canonical text of a byte sequence is what is written for it, and nothing else. -/
theorem canonical_iff {text : String} {bytes : List UInt8} :
    Canonical text.toList bytes ↔ Utf8.bytes text = encode bytes := by
  refine ⟨Canonical.eq_encode, fun written => ?_⟩
  obtain ⟨cs, canonical⟩ := exists_canonical bytes
  have same : Utf8.bytes (String.ofList cs) = Utf8.bytes text := by
    rw [Utf8.bytes_ofList, canonical.eq_encode, written]
  rw [← Utf8.bytes_injective same, String.toList_ofList]
  exact canonical

end KeyRelay.Base64
