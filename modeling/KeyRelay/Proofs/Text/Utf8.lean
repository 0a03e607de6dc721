import KeyRelay.Text.Utf8

/-!
Strict reading and writing of text as bytes are inverse to each other. The machine is held to the
written form by what a started sequence owes: `Pending.Begins` says that the bytes taken so far,
with any bytes in range after them, are the written form of the character those come to.
-/

namespace KeyRelay.Utf8

theorem bytes_append (s t : String) : bytes (s ++ t) = bytes s ++ bytes t := by
  simp [bytes]

theorem bytes_ofList (cs : List Char) :
    bytes (String.ofList cs) = cs.flatMap String.utf8EncodeChar := by
  rw [bytes, String.toList_ofList]

/-! ### The written form of a character -/

theorem toNat_charOfNat {n : Nat} (h : n.isValidChar) : (Char.ofNat n).toNat = n := by
  rw [Char.ofNat, dif_pos h]
  rfl

theorem encode_ascii {n : Nat} (h : n < 0x80) :
    String.utf8EncodeChar (Char.ofNat n) = [UInt8.ofNat n] := by
  have value : (Char.ofNat n).val.toNat = n := toNat_charOfNat (.inl (by omega))
  rw [String.utf8EncodeChar, value, if_pos (by omega)]

theorem encode_two {n : Nat} (low : 0x80 ≤ n) (high : n < 0x800) :
    String.utf8EncodeChar (Char.ofNat n) =
      [UInt8.ofNat (n / 64 + 0xC0), UInt8.ofNat (n % 64 + 0x80)] := by
  have value : (Char.ofNat n).val.toNat = n := toNat_charOfNat (.inl (by omega))
  have lead : n / 64 % 0x20 = n / 64 := by omega
  rw [String.utf8EncodeChar, value, if_neg (by omega), if_pos (by omega), lead]

theorem encode_three {n : Nat} (low : 0x800 ≤ n) (high : n < 0x10000) (valid : n.isValidChar) :
    String.utf8EncodeChar (Char.ofNat n) =
      [UInt8.ofNat (n / 4096 + 0xE0), UInt8.ofNat (n / 64 % 64 + 0x80),
        UInt8.ofNat (n % 64 + 0x80)] := by
  have value : (Char.ofNat n).val.toNat = n := toNat_charOfNat valid
  have lead : n / 4096 % 0x10 = n / 4096 := by omega
  rw [String.utf8EncodeChar, value, if_neg (by omega), if_neg (by omega), if_pos (by omega), lead]

theorem encode_four {n : Nat} (low : 0x10000 ≤ n) (high : n < 0x110000) :
    String.utf8EncodeChar (Char.ofNat n) =
      [UInt8.ofNat (n / 262144 + 0xF0), UInt8.ofNat (n / 4096 % 64 + 0x80),
        UInt8.ofNat (n / 64 % 64 + 0x80),
        UInt8.ofNat (n % 64 + 0x80)] := by
  have value : (Char.ofNat n).val.toNat = n := toNat_charOfNat (.inr ⟨by omega, high⟩)
  have lead : n / 262144 % 0x08 = n / 262144 := by omega
  rw [String.utf8EncodeChar, value, if_neg (by omega), if_neg (by omega), if_neg (by omega), lead]

/-- A character is written as one byte below 0x80 or as bytes from there on. -/
theorem encode_cases (c : Char) :
    (c.toNat < 0x80 ∧ String.utf8EncodeChar c = [UInt8.ofNat c.toNat]) ∨
    (0x80 ≤ c.toNat ∧ ∀ b ∈ String.utf8EncodeChar c, 0x80 ≤ b.toNat) := by
  by_cases ascii : c.toNat < 0x80
  · have written := encode_ascii ascii
    rw [Char.ofNat_toNat] at written
    exact .inl ⟨ascii, written⟩
  · refine .inr ⟨by omega, ?_⟩
    have small : ¬c.val.toNat ≤ 0x7F := fun h => ascii (Nat.lt_succ_of_le h)
    rw [String.utf8EncodeChar, if_neg small]
    split
    · simp only [List.mem_cons, List.not_mem_nil, or_false, forall_eq_or_imp, forall_eq,
        UInt8.toNat_ofNat']
      omega
    · split
      all_goals
        simp only [List.mem_cons, List.not_mem_nil, or_false, forall_eq_or_imp, forall_eq,
          UInt8.toNat_ofNat']
        omega

/-! ### Started sequences -/

/-- Bytes that a started sequence takes in turn. -/
def Pending.Takes (p : Pending) : List UInt8 → Prop
  | [] => False
  | b :: rest => p.lo ≤ b.toNat ∧ b.toNat ≤ p.hi ∧ rest.length + 1 = p.need ∧
      ∀ x ∈ rest, 0x80 ≤ x.toNat ∧ x.toNat ≤ 0xBF

/-- The number that a started sequence comes to with these bytes. -/
def Pending.total (p : Pending) (tail : List UInt8) : Nat :=
  tail.foldl (fun value b => value * 64 + b.toNat % 64) p.value

/-- These bytes start the sequence: with whatever it takes they are a written character. -/
def Pending.Begins (p : Pending) (front : List UInt8) : Prop :=
  ∀ tail, p.Takes tail → String.utf8EncodeChar (Char.ofNat (p.total tail)) = front ++ tail

theorem eq_ofNat_of_toNat {b : UInt8} {n : Nat} (h : n = b.toNat) : UInt8.ofNat n = b := by
  rw [h, UInt8.ofNat_toNat]

theorem begins_two {b : UInt8} (low : 0xC2 ≤ b.toNat) (high : b.toNat < 0xE0) :
    Pending.Begins ⟨1, 0x80, 0xBF, b.toNat % 32, 1⟩ [b] := by
  rintro (_ | ⟨x, _ | ⟨y, rest⟩⟩) takes
  · exact takes.elim
  · obtain ⟨lo, hi, -, -⟩ := takes
    simp only [Pending.total, List.foldl_cons, List.foldl_nil, List.cons_append,
      List.nil_append] at lo hi ⊢
    rw [encode_two (by omega) (by omega), eq_ofNat_of_toNat (b := b) (by omega),
      eq_ofNat_of_toNat (b := x) (by omega)]
  · obtain ⟨-, -, length, -⟩ := takes
    simp at length

theorem begins_three {b : UInt8} {lo hi value : Nat} (lead : value + 0xE0 = b.toNat)
    (high : value < 0x10) (low : 0x80 ≤ lo) (top : hi ≤ 0xBF) (long : value = 0 → 0xA0 ≤ lo)
    (plain : value = 13 → hi < 0xA0) :
    Pending.Begins ⟨2, lo, hi, value, 1⟩ [b] := by
  rintro (_ | ⟨x, _ | ⟨y, _ | ⟨z, rest⟩⟩⟩) takes
  · exact takes.elim
  · obtain ⟨-, -, length, -⟩ := takes
    simp at length
  · obtain ⟨above, below, -, last⟩ := takes
    have second := last y (by simp)
    simp only [Pending.total, List.foldl_cons, List.foldl_nil, List.cons_append,
      List.nil_append] at above below ⊢
    rw [encode_three (by omega) (by omega) (by rw [Nat.isValidChar]; omega),
      eq_ofNat_of_toNat (b := b) (by omega), eq_ofNat_of_toNat (b := x) (by omega),
      eq_ofNat_of_toNat (b := y) (by omega)]
  · obtain ⟨-, -, length, -⟩ := takes
    simp at length

theorem begins_four {b : UInt8} {lo hi value : Nat} (lead : value + 0xF0 = b.toNat)
    (high : value ≤ 4) (low : 0x80 ≤ lo) (top : hi ≤ 0xBF) (long : value = 0 → 0x90 ≤ lo)
    (last : value = 4 → hi < 0x90) :
    Pending.Begins ⟨3, lo, hi, value, 1⟩ [b] := by
  rintro (_ | ⟨x, _ | ⟨y, _ | ⟨z, _ | ⟨t, rest⟩⟩⟩⟩) takes
  · exact takes.elim
  · obtain ⟨-, -, length, -⟩ := takes
    simp at length
  · obtain ⟨-, -, length, -⟩ := takes
    simp at length
  · obtain ⟨above, below, -, later⟩ := takes
    have second := later y (by simp)
    have third := later z (by simp)
    simp only [Pending.total, List.foldl_cons, List.foldl_nil, List.cons_append,
      List.nil_append] at above below ⊢
    rw [encode_four (by omega) (by omega), eq_ofNat_of_toNat (b := b) (by omega),
      eq_ofNat_of_toNat (b := x) (by omega), eq_ofNat_of_toNat (b := y) (by omega),
      eq_ofNat_of_toNat (b := z) (by omega)]
  · obtain ⟨-, -, length, -⟩ := takes
    simp at length

/-- A first byte that opens a sequence starts it. -/
theorem begins_of_lead {b : UInt8} {p : Pending} (h : lead b = .opens p) : p.Begins [b] := by
  simp only [lead] at h
  split at h
  · cases h
  split at h
  · cases h
  split at h
  · cases h
    exact begins_two (by omega) (by omega)
  split at h
  · cases h
    exact begins_three (by omega) (by omega) (by omega) (by omega) (by omega) (by omega)
  split at h
  · cases h
    exact begins_three (by omega) (by omega) (by omega) (by omega) (by omega) (by omega)
  split at h
  · cases h
    exact begins_three (by omega) (by omega) (by omega) (by omega) (by omega) (by omega)
  split at h
  · cases h
    exact begins_four (by omega) (by omega) (by omega) (by omega) (by omega) (by omega)
  split at h
  · cases h
    exact begins_four (by omega) (by omega) (by omega) (by omega) (by omega) (by omega)
  split at h
  · cases h
    exact begins_four (by omega) (by omega) (by omega) (by omega) (by omega) (by omega)
  · cases h

theorem lead_ascii {b : UInt8} {c : Char} (h : lead b = .ascii c) :
    String.utf8EncodeChar c = [b] := by
  simp only [lead] at h
  split at h
  · next small =>
    cases h
    rw [encode_ascii small, UInt8.ofNat_toNat]
  · repeat' split at h
    all_goals cases h

/-! ### Reading what is written -/

theorem lead_of_ascii {b : UInt8} (h : b.toNat < 0x80) : lead b = .ascii (Char.ofNat b.toNat) := by
  simp only [lead, if_pos h]

theorem lead_of_two {b : UInt8} (low : 0xC2 ≤ b.toNat) (high : b.toNat < 0xE0) :
    lead b = .opens ⟨1, 0x80, 0xBF, b.toNat % 32, 1⟩ := by
  simp only [lead]
  rw [if_neg (by omega), if_neg (by omega), if_pos high]

theorem lead_of_three {b : UInt8} {k : Nat} (h : b.toNat = k + 0xE0) (high : k < 0x10) :
    lead b = .opens ⟨2, if k = 0 then 0xA0 else 0x80, if k = 13 then 0x9F else 0xBF, k, 1⟩ := by
  simp only [lead, h]
  rw [if_neg (by omega), if_neg (by omega), if_neg (by omega)]
  by_cases zero : k = 0
  · simp [zero]
  by_cases surrogates : k = 13
  · simp [surrogates]
  have value : (k + 0xE0) % 16 = k := by omega
  rw [if_neg (by omega), if_neg (by omega), if_pos (by omega), if_neg zero,
    if_neg surrogates, value]

theorem lead_of_four {b : UInt8} {k : Nat} (h : b.toNat = k + 0xF0) (high : k ≤ 4) :
    lead b = .opens ⟨3, if k = 0 then 0x90 else 0x80, if k = 4 then 0x8F else 0xBF, k, 1⟩ := by
  simp only [lead, h]
  rw [if_neg (by omega), if_neg (by omega), if_neg (by omega), if_neg (by omega), if_neg (by omega),
    if_neg (by omega)]
  by_cases zero : k = 0
  · simp [zero]
  by_cases last : k = 4
  · simp [last]
  have value : (k + 0xF0) % 8 = k := by omega
  rw [if_neg (by omega), if_pos (by omega), if_neg zero, if_neg last, value]

/-- A written character is an ASCII byte, or a first byte with what its sequence takes. -/
theorem encode_starts (c : Char) :
    (∃ b, String.utf8EncodeChar c = [b] ∧ lead b = .ascii c) ∨
    (∃ b p tail, String.utf8EncodeChar c = b :: tail ∧ lead b = .opens p ∧ p.Takes tail ∧
      p.total tail = c.toNat) := by
  have valid : c.toNat.isValidChar := c.valid
  rw [← Char.ofNat_toNat c]
  generalize c.toNat = n at valid
  rw [toNat_charOfNat valid]
  rw [Nat.isValidChar] at valid
  by_cases one : n < 0x80
  · have byte : (UInt8.ofNat n).toNat = n := by rw [UInt8.toNat_ofNat']; omega
    refine .inl ⟨_, encode_ascii one, ?_⟩
    rw [lead_of_ascii (by omega), byte]
  refine .inr ?_
  by_cases two : n < 0x800
  · refine ⟨_, _, _, encode_two (by omega) two, lead_of_two ?_ ?_, ⟨?_, ?_, rfl, by simp⟩, ?_⟩
    all_goals simp only [Pending.total, List.foldl_cons, List.foldl_nil, UInt8.toNat_ofNat']
    all_goals omega
  by_cases three : n < 0x10000
  · have lead : (UInt8.ofNat (n / 4096 + 0xE0)).toNat = n / 4096 + 0xE0 := by
      rw [UInt8.toNat_ofNat']; omega
    refine ⟨_, _, _, encode_three (by omega) three valid, lead_of_three lead (by omega),
      ⟨?_, ?_, rfl, ?_⟩, ?_⟩
    all_goals simp only [Pending.total, List.foldl_cons, List.foldl_nil, UInt8.toNat_ofNat',
      List.mem_singleton, forall_eq]
    · split <;> omega
    · split <;> omega
    · omega
    · omega
  · have lead : (UInt8.ofNat (n / 262144 + 0xF0)).toNat = n / 262144 + 0xF0 := by
      rw [UInt8.toNat_ofNat']; omega
    refine ⟨_, _, _, encode_four (by omega) (by omega), lead_of_four lead (by omega),
      ⟨?_, ?_, rfl, ?_⟩, ?_⟩
    all_goals simp only [Pending.total, List.foldl_cons, List.foldl_nil, UInt8.toNat_ofNat',
      List.mem_cons, List.not_mem_nil, or_false, forall_eq_or_imp, forall_eq]
    · split <;> omega
    · split <;> omega
    · omega
    · omega

/-- The machine takes what a started sequence takes, and is back at the start with the character. -/
theorem foldl_step_takes {tail : List UInt8} (ps : List Piece) {p : Pending} (h : p.Takes tail) :
    tail.foldl Scan.step ⟨ps, some p⟩ = ⟨.char (Char.ofNat (p.total tail)) :: ps, none⟩ := by
  induction tail generalizing p with
  | nil => exact h.elim
  | cons b tail ih =>
    obtain ⟨lo, hi, length, later⟩ := h
    cases tail with
    | nil =>
      have last : p.need = 1 := by simpa using length.symm
      simp only [List.foldl_cons, List.foldl_nil, Scan.step, if_pos (And.intro lo hi), if_pos last]
      rfl
    | cons x tail =>
      have more : p.need ≠ 1 := by simp at length; omega
      have rest : Pending.Takes ⟨p.need - 1, 0x80, 0xBF, p.value * 64 + b.toNat % 64, p.taken + 1⟩
          (x :: tail) :=
        ⟨(later x (by simp)).1, (later x (by simp)).2, by simp at length ⊢; omega,
          fun y hy => later y (List.mem_cons_of_mem _ hy)⟩
      rw [List.foldl_cons]
      simp only [Scan.step, if_pos (And.intro lo hi), if_neg more]
      exact ih rest

theorem foldl_step_encode (ps : List Piece) (c : Char) :
    (String.utf8EncodeChar c).foldl Scan.step ⟨ps, none⟩ = ⟨.char c :: ps, none⟩ := by
  rcases encode_starts c with ⟨b, written, ascii⟩ | ⟨b, p, tail, written, opens, takes, total⟩
  · simp only [written, List.foldl_cons, List.foldl_nil, Scan.step, Scan.start, ascii]
  · simp only [written, List.foldl_cons, Scan.step, Scan.start, opens]
    rw [foldl_step_takes ps takes, total, Char.ofNat_toNat]

theorem foldl_step_flatMap (ps : List Piece) (cs : List Char) :
    (cs.flatMap String.utf8EncodeChar).foldl Scan.step ⟨ps, none⟩ =
      ⟨(cs.map .char).reverse ++ ps, none⟩ := by
  induction cs generalizing ps with
  | nil => rfl
  | cons c cs ih => simp [List.flatMap_cons, List.foldl_append, foldl_step_encode, ih]

theorem pieces_bytes (s : String) : pieces (bytes s) = s.toList.map .char := by
  simp [pieces, bytes, foldl_step_flatMap]

theorem gather_eq_ok {size : Nat} {read cs : List Char} {ps : List Piece} :
    gather size read ps = .ok cs ↔ ∃ later, ps = later.map .char ∧ cs = read.reverse ++ later := by
  induction ps generalizing size read with
  | nil => simp [gather, eq_comm]
  | cons p ps ih =>
    cases p with
    | char c =>
      simp only [gather, ih]
      constructor
      · rintro ⟨later, rfl, rfl⟩
        exact ⟨c :: later, rfl, by simp⟩
      · rintro ⟨_ | ⟨d, later⟩, same, rfl⟩
        · cases same
        · obtain ⟨rfl, rfl⟩ : c = d ∧ ps = later.map .char := by simpa using same
          exact ⟨later, rfl, by simp⟩
    | broken n =>
      simp only [gather, reduceCtorEq, false_iff]
      rintro ⟨_ | ⟨d, later⟩, same, -⟩ <;> cases same
    | cut =>
      simp only [gather, reduceCtorEq, false_iff]
      rintro ⟨_ | ⟨d, later⟩, same, -⟩ <;> cases same

/-- What is written reads back. -/
theorem decode_bytes (s : String) : decode (bytes s) = .ok s := by
  have gathered : gather 0 [] (pieces (bytes s)) = .ok s.toList :=
    gather_eq_ok.2 ⟨s.toList, pieces_bytes s, rfl⟩
  rw [decode, gathered]
  exact congrArg Except.ok s.ofList_toList

/-! ### Writing what is read -/

/-- What the machine has taken, where it has found nothing broken: the characters so far and the
front of one that is started. -/
def Scan.Accounts (s : Scan) (taken : List UInt8) : Prop :=
  ∀ cs : List Char, s.pieces = (cs.map Piece.char).reverse →
    match s.pending with
    | none => taken = cs.flatMap String.utf8EncodeChar
    | some p => ∃ front, p.Begins front ∧ taken = cs.flatMap String.utf8EncodeChar ++ front

theorem exists_append_of_cons {c : Char} {ps : List Piece} {cs : List Char}
    (h : Piece.char c :: ps = (cs.map .char).reverse) :
    ∃ front, cs = front ++ [c] ∧ ps = (front.map .char).reverse := by
  have turned : cs.map Piece.char = ps.reverse ++ [.char c] := by
    rw [← List.reverse_reverse (cs.map Piece.char), ← h, List.reverse_cons]
  obtain ⟨front, last, rfl, rest, one⟩ := List.map_eq_append_iff.1 turned
  obtain ⟨d, rfl, same⟩ := List.map_eq_singleton_iff.1 one
  exact ⟨front, by rw [Piece.char.inj same], by rw [rest, List.reverse_reverse]⟩

/-- Nothing that is broken is among characters. -/
theorem broken_cons_ne {n : Nat} {ps : List Piece} {cs : List Char} :
    Piece.broken n :: ps ≠ (cs.map .char).reverse := by
  intro h
  have member : Piece.broken n ∈ (cs.map Piece.char).reverse := h ▸ List.mem_cons_self
  simp at member

theorem accounts_start {ps : List Piece} {taken : List UInt8}
    (h : ∀ cs : List Char, ps = (cs.map Piece.char).reverse →
      taken = cs.flatMap String.utf8EncodeChar) (b : UInt8) :
    (Scan.start ps b).Accounts (taken ++ [b]) := by
  rw [Scan.start]
  split
  · next c ascii =>
    intro cs same
    obtain ⟨front, rfl, rest⟩ := exists_append_of_cons same
    simp [h front rest, lead_ascii ascii]
  · next p opens =>
    intro cs same
    exact ⟨[b], begins_of_lead opens, by rw [h cs same]⟩
  · intro cs same
    exact absurd same broken_cons_ne

theorem accounts_step {s : Scan} {taken : List UInt8} (h : s.Accounts taken) (b : UInt8) :
    (s.step b).Accounts (taken ++ [b]) := by
  obtain ⟨ps, pending⟩ := s
  cases pending with
  | none => exact accounts_start h b
  | some p =>
    simp only [Scan.step]
    split
    · next inside =>
      split
      · next last =>
        intro cs same
        obtain ⟨before, rfl, rest⟩ := exists_append_of_cons same
        obtain ⟨front, begins, rfl⟩ := h before rest
        have whole := begins [b] ⟨inside.1, inside.2, by simp [last], by simp⟩
        simp only [Pending.total, List.foldl_cons, List.foldl_nil] at whole
        simp [List.flatMap_append, whole]
      · next more =>
        intro cs same
        obtain ⟨front, begins, rfl⟩ := h cs same
        refine ⟨front ++ [b], ?_, by simp⟩
        intro tail takes
        cases tail with
        | nil => exact takes.elim
        | cons x tail =>
          obtain ⟨lo, hi, length, later⟩ := takes
          have whole := begins (b :: x :: tail) ⟨inside.1, inside.2, by simp at length ⊢; omega, by
            rintro y (_ | ⟨_, hy⟩)
            · exact ⟨lo, hi⟩
            · exact later y hy⟩
          rw [List.append_assoc]
          exact whole
    · exact accounts_start (fun cs same => absurd same broken_cons_ne) b

theorem accounts_foldl {s : Scan} {taken : List UInt8} (h : s.Accounts taken) (bs : List UInt8) :
    (bs.foldl Scan.step s).Accounts (taken ++ bs) := by
  induction bs generalizing s taken with
  | nil => simpa using h
  | cons b bs ih =>
    have rest := ih (accounts_step h b)
    rw [List.append_assoc] at rest
    exact rest

theorem eq_of_pieces {bs : List UInt8} {cs : List Char} (h : pieces bs = cs.map .char) :
    bs = cs.flatMap String.utf8EncodeChar := by
  have start : Scan.Accounts ⟨[], none⟩ [] := by
    intro cs same
    have : cs = [] := by simpa using same.symm
    rw [this]
    rfl
  have whole := accounts_foldl start bs
  rw [List.nil_append] at whole
  simp only [pieces] at h
  split at h
  · next ended =>
    have rest := whole cs (by rw [← h, List.reverse_reverse])
    rwa [ended] at rest
  · have member : Piece.cut ∈ cs.map Piece.char := by rw [← h]; simp
    simp at member

/-- Strict reading is the inverse of writing. -/
theorem decode_eq_ok {bs : List UInt8} {s : String} : decode bs = .ok s ↔ bs = bytes s := by
  constructor
  · intro h
    rw [decode] at h
    cases gathered : gather 0 [] (pieces bs) with
    | error f => simp [gathered, Except.map] at h
    | ok cs =>
      obtain ⟨later, same, all⟩ := gather_eq_ok.1 gathered
      rw [gathered] at h
      rw [← Except.ok.inj h, bytes, String.toList_ofList, all]
      exact eq_of_pieces same
  · rintro rfl
    exact decode_bytes s

/-- Different texts are written differently. -/
theorem bytes_injective : Function.Injective bytes := by
  intro s t same
  have read := decode_bytes s
  rw [same, decode_bytes] at read
  exact (Except.ok.inj read).symm

end KeyRelay.Utf8
