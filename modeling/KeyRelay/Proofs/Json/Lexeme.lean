import KeyRelay.Proofs.Json.Token

/-!
What the readers of tokens take. Where such a reader accepts, the bytes it took are a token as the
grammar writes it, and they stand right before the bytes it left. Inside a string `Spot.Front` says
which bytes of an escape are taken already: each turn adds one byte to them or completes a piece of
the string.
-/

namespace KeyRelay.Json

/-! ### Blanks and words -/

/-- What is skipped before the next byte is blank. -/
theorem exists_gap {rest front : List UInt8} (next : skipBlanks rest = front) :
    ∃ gap, Blanks gap ∧ rest = gap ++ front := by
  refine ⟨rest.takeWhile isBlank, fun b hb =>
    isBlank_eq_true.1 (List.all_eq_true.1 List.all_takeWhile b hb), ?_⟩
  rw [← next]
  exact List.takeWhile_append_dropWhile.symm

theorem word_eq_ok {es rest after : List UInt8} (h : word es rest = .ok after) :
    rest = es ++ after := by
  induction es generalizing rest with
  | nil => exact Except.ok.inj h
  | cons e es ih =>
    cases rest with
    | nil => cases h
    | cons b rest =>
      rw [word] at h
      split at h
      · next same => rw [same, ih h, List.cons_append]
      · cases h

/-! ### Numerals -/

theorem digits_split (rest : List UInt8) :
    rest = (digits rest).1 ++ (digits rest).2 ∧ ∀ d ∈ (digits rest).1, 0x30 ≤ d.toNat ∧
    d.toNat ≤ 0x39 :=
  ⟨List.takeWhile_append_dropWhile.symm, fun d hd =>
    isDigit_eq_true.1 (List.all_eq_true.1 List.all_takeWhile d hd)⟩

theorem someDigits_eq_ok {atEnd : Reason} {rest ds after : List UInt8}
    (h : someDigits atEnd rest = .ok (ds, after)) :
    SomeDigits ds ∧ rest = ds ++ after := by
  cases rest with
  | nil => cases h
  | cons b rest =>
    rw [someDigits] at h
    split at h
    · next first =>
      cases h
      obtain ⟨whole, all⟩ := digits_split rest
      refine ⟨⟨by simp, ?_⟩, congrArg (b :: ·) whole⟩
      rintro d (_ | ⟨_, hd⟩)
      · exact isDigit_eq_true.1 first
      · exact all d hd
    · cases h

theorem wholePart_eq_ok {atEnd : Reason} {rest ds after : List UInt8}
    (h : wholePart atEnd rest = .ok (ds, after)) :
    SomeDigits ds ∧ (ds.head? = some 0x30 → ds = [0x30]) ∧ rest = ds ++ after := by
  have zero : SomeDigits [0x30] := ⟨by simp, by simp⟩
  cases rest with
  | nil => cases h
  | cons b rest =>
    simp only [wholePart] at h
    split at h
    · next first =>
      subst first
      split at h
      · cases h
        exact ⟨zero, fun _ => rfl, rfl⟩
      · split at h
        · cases h
        · cases h
          exact ⟨zero, fun _ => rfl, rfl⟩
    · next first =>
      obtain ⟨some, same⟩ := someDigits_eq_ok h
      refine ⟨some, fun head => ?_, same⟩
      cases ds with
      | nil => cases head
      | cons d ds => exact absurd ((List.cons.inj same).1.trans (Option.some.inj head)) first

theorem fractionPart_eq_ok {atEnd : Reason} {rest after : List UInt8} {f : Option (List UInt8)}
    (h : fractionPart atEnd rest = .ok (f, after)) :
    ∃ w, WrittenFraction f w ∧ rest = w ++ after := by
  cases rest with
  | nil =>
    cases h
    exact ⟨[], .none, rfl⟩
  | cons b rest =>
    simp only [fractionPart] at h
    split at h
    · next point =>
      subst point
      split at h
      · cases h
      · next d more =>
        split at h
        · next first =>
          -- One digit is there, so the digits up to the next other byte are some.
          have read : someDigits atEnd (d :: more) =
              .ok ((digits (d :: more)).1, (digits (d :: more)).2) := by
            simp [someDigits, first, digits]
          cases h
          obtain ⟨some, same⟩ := someDigits_eq_ok read
          exact ⟨_, .some some, congrArg (0x2E :: ·) same⟩
        · cases h
    · cases h
      exact ⟨[], .none, rfl⟩

/-- The digits of an exponent after its letter and its sign. -/
theorem exponent_digits {atEnd : Reason} {letter : UInt8} {down : Bool}
    {sign left after : List UInt8}
    {e : Option (Bool × List UInt8)} (mark : letter = 0x65 ∨ letter = 0x45)
    (signed : WrittenSign down sign)
    (h : (match someDigits atEnd left with
      | .error f => .error f
      | .ok (ds, after) => .ok (some (down, ds), after)) = Except.ok (e, after)) :
    ∃ w, WrittenExponent e w ∧ letter :: (sign ++ left) = w ++ after := by
  split at h
  · cases h
  · next ds left' read =>
    cases h
    obtain ⟨some, rfl⟩ := someDigits_eq_ok read
    exact ⟨_, .some mark signed some, by simp⟩

theorem exponentPart_eq_ok {atEnd : Reason} {rest after : List UInt8}
    {e : Option (Bool × List UInt8)} (h : exponentPart atEnd rest = .ok (e, after)) :
    ∃ w, WrittenExponent e w ∧ rest = w ++ after := by
  cases rest with
  | nil =>
    cases h
    exact ⟨[], .none, rfl⟩
  | cons letter rest =>
    simp only [exponentPart] at h
    split at h
    · next mark =>
      cases rest with
      | nil => exact exponent_digits mark .none h
      | cons s more =>
        by_cases plus : s = 0x2B
        · subst plus
          exact exponent_digits mark .plus h
        by_cases minus : s = minusSign
        · subst minus
          exact exponent_digits mark .minus h
        · simp only [if_neg plus, if_neg minus] at h
          exact exponent_digits mark .none h
    · cases h
      exact ⟨[], .none, rfl⟩

theorem unsigned_eq_ok {atEnd : Reason} {negative : Bool} {rest after : List UInt8} {n : Numeral}
    (h : unsigned atEnd negative rest = .ok (n, after)) :
    ∃ w, WrittenNumeral n ((if negative then [minusSign] else []) ++ w) ∧ rest = w ++ after := by
  rw [unsigned] at h
  split at h
  · cases h
  next whole rest₁ read =>
  split at h
  · cases h
  next fraction rest₂ read' =>
  split at h
  · cases h
  next exponent rest₃ read'' =>
  cases h
  obtain ⟨some, zero, rfl⟩ := wholePart_eq_ok read
  obtain ⟨f, point, rfl⟩ := fractionPart_eq_ok read'
  obtain ⟨e, power, rfl⟩ := exponentPart_eq_ok read''
  exact ⟨whole ++ (f ++ e),
    @WrittenNumeral.intro ⟨negative, whole, fraction, exponent⟩ f e some zero point power, by simp⟩

/-- What is read as a numeral is written as one. -/
theorem numeral_eq_ok {atEnd : Reason} {rest after : List UInt8} {n : Numeral}
    (h : numeral atEnd rest = .ok (n, after)) : ∃ w, WrittenNumeral n w ∧ rest = w ++ after := by
  cases rest with
  | nil => cases h
  | cons b rest =>
    rw [numeral] at h
    split at h
    · next minus =>
      subst minus
      obtain ⟨w, written, rfl⟩ := unsigned_eq_ok h
      exact ⟨_, written, rfl⟩
    · obtain ⟨w, written, same⟩ := unsigned_eq_ok h
      exact ⟨w, written, same⟩

/-! ### Escapes -/

theorem hexDigit_of_hexValue? {b : UInt8} {n : Nat} (h : hexValue? b = some n) : HexDigit n b := by
  simp only [hexValue?] at h
  split at h
  · cases h
    exact .digit (by omega) (by omega)
  split at h
  · cases h
    exact .lower (by omega) (by omega) (by omega)
  split at h
  · cases h
    exact .upper (by omega) (by omega) (by omega)
  · cases h

theorem HexDigit.lt {n : Nat} {b : UInt8} (h : HexDigit n b) : n < 16 := by
  cases h <;> omega

theorem FourHex.lt {n : Nat} {digits : List UInt8} (h : FourHex n digits) : n < 0x10000 := by
  obtain ⟨first, -, -, -⟩ := h
  have := first.lt
  omega

/-- Four bytes that are read as a number are its hexadecimal digits. -/
theorem fourHex_of_hexNumber? {digits : List UInt8} {n : Nat} (four : digits.length = 4)
    (h : hexNumber? digits = some n) : FourHex n digits := by
  obtain ⟨x, y, z, t, rfl⟩ : ∃ x y z t, digits = [x, y, z, t] := by
    match digits, four with
    | [x, y, z, t], _ => exact ⟨x, y, z, t, rfl⟩
  simp only [hexNumber?, List.foldlM_cons, List.foldlM_nil, Option.bind_eq_bind,
    Option.bind_eq_some_iff, Option.map_eq_some_iff, Option.pure_def, Option.some.injEq] at h
  obtain ⟨_, ⟨a, first, rfl⟩, _, ⟨b, second, rfl⟩, _, ⟨c, third, rfl⟩, _, ⟨d, fourth, rfl⟩,
    value⟩ := h
  have first := hexDigit_of_hexValue? first
  have second := hexDigit_of_hexValue? second
  have third := hexDigit_of_hexValue? third
  have fourth := hexDigit_of_hexValue? fourth
  have bounds : a < 16 ∧ b < 16 ∧ c < 16 ∧ d < 16 := ⟨first.lt, second.lt, third.lt, fourth.lt⟩
  rw [← show n / 0x1000 = a by omega] at first
  rw [← show n / 0x100 % 0x10 = b by omega] at second
  rw [← show n / 0x10 % 0x10 = c by omega] at third
  rw [← show n % 0x10 = d by omega] at fourth
  exact ⟨first, second, third, fourth⟩

/-- A known letter is that of a short escape. -/
theorem short_of_escaped? {b x : UInt8} (h : escaped? b = some x) :
    ∃ letter c, (letter, c) ∈ shortEscapes ∧ b = UInt8.ofNat letter.toNat ∧
    String.utf8EncodeChar c = [x] := by
  simp only [escaped?] at h
  split at h
  · exact ⟨'"', '"', by decide, by assumption, by cases h; decide⟩
  split at h
  · exact ⟨'\\', '\\', by decide, by assumption, by cases h; decide⟩
  split at h
  · exact ⟨'/', '/', by decide, by assumption, by cases h; decide⟩
  split at h
  · exact ⟨'b', '\x08', by decide, by assumption, by cases h; decide⟩
  split at h
  · exact ⟨'f', '\x0C', by decide, by assumption, by cases h; decide⟩
  split at h
  · exact ⟨'n', '\n', by decide, by assumption, by cases h; decide⟩
  split at h
  · exact ⟨'r', '\r', by decide, by assumption, by cases h; decide⟩
  split at h
  · exact ⟨'t', '\t', by decide, by assumption, by cases h; decide⟩
  · cases h

/-- The bytes of an escape, for the character it stands for. -/
inductive Escape (c : Char) : List UInt8 → Prop where
  | short {letter : Char} (known : (letter, c) ∈ shortEscapes) :
      Escape c [backslash, UInt8.ofNat letter.toNat]
  | numeric {digits : List UInt8} (number : FourHex c.toNat digits) :
      Escape c (backslash :: unicodeMark :: digits)
  | pair {high low : Nat} {digits digits' : List UInt8}
      (number : c.toNat = 0x10000 + high * 0x400 + low)
      (fits : low < 0x400) (first : FourHex (0xD800 + high) digits)
      (second : FourHex (0xDC00 + low) digits') :
      Escape c (backslash :: unicodeMark :: (digits ++ backslash :: unicodeMark :: digits'))

theorem Escape.spelled {c : Char} {cs : List Char} {w body : List UInt8} (h : Escape c w)
    (rest : Spelled cs body) :
    Spelled (c :: cs) (w ++ body) := by
  cases h with
  | short known => exact .short known rest
  | numeric number => exact .numeric number rest
  | pair number fits first second => simpa using Spelled.pair number fits first second rest

/-! ### The pieces of a string -/

/-- A byte that stands for itself, or an escape; with the bytes denoted. -/
inductive Piece : List UInt8 → List UInt8 → Prop where
  | raw {b : UInt8} (plain : PlainBytes [b]) : Piece [b] [b]
  | escape {c : Char} {w : List UInt8} (escape : Escape c w) : Piece w (String.utf8EncodeChar c)

/-- What the bytes between quotation marks denote, piece by piece, whether or not it is text. -/
inductive Denotes : List UInt8 → List UInt8 → Prop where
  | done : Denotes [] []
  | cons {w bytes body out : List UInt8} (piece : Piece w bytes) (rest : Denotes body out) :
      Denotes (w ++ body) (bytes ++ out)

/-- The digits of the first half of a pair. -/
structure FirstHalf (high : Nat) (digits : List UInt8) : Prop where
  fits : high < 0x400
  number : FourHex (0xD800 + high) digits

/-- The bytes taken of the piece that is being read. -/
inductive Spot.Front : Spot → List UInt8 → Prop where
  | plain : Front .plain []
  | escape : Front .escape [backslash]
  | digits {taken : List UInt8} (few : taken.length < 4) :
      Front (.digits none taken) (backslash :: unicodeMark :: taken)
  | pair {high : Nat} {w : List UInt8} (half : FirstHalf high w) :
      Front (.pair (0xD800 + high)) (backslash :: unicodeMark :: w)
  | pairMark {high : Nat} {w : List UInt8} (half : FirstHalf high w) :
      Front (.pairMark (0xD800 + high)) (backslash :: unicodeMark :: (w ++ [backslash]))
  | second {high : Nat} {w taken : List UInt8} (half : FirstHalf high w) (few : taken.length < 4) :
      Front (.digits (some (0xD800 + high)) taken)
        (backslash :: unicodeMark :: (w ++ backslash :: unicodeMark :: taken))

/-- A turn of the reader adds a byte to the piece, or completes it. -/
inductive Turn (front : List UInt8) : List UInt8 → Spot → Prop where
  | more {next : Spot} (taken : next.Front front) : Turn front [] next
  | whole {bytes : List UInt8} (piece : Piece front bytes) : Turn front bytes .plain

section
variable {taken bytes : List UInt8} {next : Spot}

/-- Four digits on their own are a character, or the first half of a pair. -/
theorem turn_unicodeMove_none (four : taken.length = 4)
    (h : unicodeMove none taken = .push bytes next) :
    Turn (backslash :: unicodeMark :: taken) bytes next := by
  simp only [unicodeMove] at h
  split at h
  · cases h
  next n number =>
  have hex := fourHex_of_hexNumber? four number
  split at h
  · cases h
  next notLow =>
  split at h
  · next isHigh =>
    cases h
    obtain ⟨high, rfl⟩ := Nat.exists_eq_add_of_le isHigh.1
    exact .more (.pair ⟨by omega, hex⟩)
  · next notHigh =>
    cases h
    have scalar : n.isValidChar := by
      simp only [Bool.and_eq_true, decide_eq_true_eq] at notLow
      have := hex.lt
      rw [Nat.isValidChar]
      omega
    rw [← Utf8.toNat_charOfNat scalar] at hex
    exact .whole (.escape (.numeric hex))

/-- Four digits after the first half of a pair are its second half. -/
theorem turn_unicodeMove_some {high : Nat} {w : List UInt8} (half : FirstHalf high w)
    (four : taken.length = 4) (h : unicodeMove (some (0xD800 + high)) taken = .push bytes next) :
    Turn (backslash :: unicodeMark :: (w ++ backslash :: unicodeMark :: taken)) bytes next := by
  simp only [unicodeMove] at h
  split at h
  · cases h
  next n number =>
  have hex := fourHex_of_hexNumber? four number
  split at h
  · next isLow =>
    simp only [Bool.and_eq_true, decide_eq_true_eq] at isLow
    obtain ⟨low, rfl⟩ := Nat.exists_eq_add_of_le isLow.1
    have fits := half.fits
    have scalar : (0x10000 + high * 0x400 + low).isValidChar := by
      rw [Nat.isValidChar]
      omega
    have value : (0xD800 + high - 0xD800) * 0x400 + (0xDC00 + low - 0xDC00) + 0x10000 =
        0x10000 + high * 0x400 + low := by omega
    rw [value] at h
    obtain ⟨rfl, rfl⟩ := Move.push.inj h
    exact .whole (.escape (.pair (Utf8.toNat_charOfNat scalar) (by omega) half.number hex))
  · cases h

/-- What a byte does that goes on with a string. -/
theorem turn_of_move {spot : Spot} {front : List UInt8} {b : UInt8} (h : spot.Front front)
    (move : spot.move b = .push bytes next) : Turn (front ++ [b]) bytes next := by
  cases h with
  | plain =>
    simp only [Spot.move] at move
    split at move
    · cases move
    next quote =>
    split at move
    · next slash =>
      subst slash
      cases move
      exact .more .escape
    next slash =>
    split at move
    · cases move
    next control =>
    cases move
    exact .whole (.raw (List.forall_mem_singleton.2 ⟨quote, slash, control⟩))
  | escape =>
    simp only [Spot.move] at move
    split at move
    · next x known =>
      cases move
      obtain ⟨letter, c, short, rfl, written⟩ := short_of_escaped? known
      exact written ▸ .whole (.escape (.short short))
    · split at move
      · next mark =>
        subst mark
        cases move
        exact .more (.digits (by decide))
      · cases move
  | digits few =>
    simp only [Spot.move] at move
    split at move
    · cases move
      exact .more (.digits (by simp; omega))
    · exact turn_unicodeMove_none (by simp; omega) move
  | pair half =>
    simp only [Spot.move] at move
    split at move
    · next slash =>
      subst slash
      cases move
      exact .more (.pairMark half)
    · cases move
  | pairMark half =>
    simp only [Spot.move] at move
    split at move
    · next mark =>
      subst mark
      cases move
      simpa using Turn.more (.second half (show [].length < 4 by decide))
    · cases move
  | @second high w taken half few =>
    simp only [Spot.move] at move
    split at move
    · cases move
      simpa using Turn.more (.second half (show (taken ++ [b]).length < 4 by simp; omega))
    · simpa using turn_unicodeMove_some half (by simp; omega) move

end

/-- A string is closed by a quotation mark that stands for itself. -/
theorem close_of_move {spot : Spot} {b : UInt8} (h : spot.move b = .close) :
    spot = .plain ∧ b = quoteMark := by
  have stays (high : Option Nat) (taken : List UInt8) : unicodeMove high taken ≠ .close := by
    intro h
    simp only [unicodeMove] at h
    repeat' split at h
    all_goals cases h
  cases spot with
  | plain =>
    simp only [Spot.move] at h
    split at h
    · next quote => exact ⟨rfl, quote⟩
    · repeat' split at h
      all_goals cases h
  | digits high taken =>
    simp only [Spot.move] at h
    split at h
    · cases h
    · exact absurd h (stays _ _)
  | _ =>
    simp only [Spot.move] at h
    repeat' split at h
    all_goals cases h

/-- What is read of a string, from within a piece on, denotes the bytes that come out. -/
theorem textBytes_eq_ok {rest after bytes read front : List UInt8} {spot : Spot}
    (h : spot.Front front) (run : textBytes spot read rest = .ok (bytes, after)) :
    ∃ body out, Denotes (front ++ body) out ∧ rest = body ++ quoteMark :: after ∧
    bytes = read.reverse ++ out := by
  induction rest generalizing spot read front with
  | nil => cases run
  | cons b rest ih =>
    rw [textBytes] at run
    split at run
    · next pushed next move =>
      cases turn_of_move h move with
      | more taken =>
        obtain ⟨body, out, denotes, rfl, rfl⟩ := ih taken run
        exact ⟨b :: body, out, by simpa using denotes, rfl, rfl⟩
      | whole piece =>
        obtain ⟨body, out, denotes, rfl, rfl⟩ := ih .plain run
        exact ⟨b :: body, pushed ++ out, by simpa using Denotes.cons piece denotes, rfl, by simp⟩
    · next move =>
      cases run
      obtain ⟨rfl, rfl⟩ := close_of_move move
      cases h
      exact ⟨[], [], .done, rfl, (List.append_nil _).symm⟩
    · cases run

/-! ### Texts -/

/-- The first character of a text and the rest of it are known from its bytes. -/
theorem encode_append_inj {c d : Char} {x y : List UInt8}
    (h : String.utf8EncodeChar c ++ x = String.utf8EncodeChar d ++ y) : c = d ∧ x = y := by
  have first := @ByteArray.utf8DecodeChar?_utf8EncodeChar_append x.toByteArray c
  have second := @ByteArray.utf8DecodeChar?_utf8EncodeChar_append y.toByteArray d
  rw [← List.toByteArray_append, h, List.toByteArray_append, second] at first
  obtain rfl := Option.some.inj first
  exact ⟨rfl, List.append_cancel_left h⟩

/-- The bytes of a character after its first one start no character. -/
theorem encode_tail {c : Char} {b : UInt8} {tail : List UInt8}
    (h : String.utf8EncodeChar c = b :: tail) :
    ∀ x ∈ tail, ¬x.IsUTF8FirstByte := by
  intro x hx first
  obtain ⟨i, hi, rfl⟩ := List.getElem_of_mem hx
  have inside : i + 1 < (String.utf8EncodeChar c).length := by
    rw [h]
    exact Nat.succ_lt_succ hi
  have starts : (String.utf8EncodeChar c)[i + 1].IsUTF8FirstByte := by
    simpa only [h, List.getElem_cons_succ] using first
  exact absurd (UInt8.isUTF8FirstByte_getElem_utf8EncodeChar.1 starts) (by omega)

/-- The first byte denoted stands for itself, or is that of the character of an escape. -/
theorem Denotes.cases_cons {b : UInt8} {body out : List UInt8} (h : Denotes body (b :: out)) :
    (PlainBytes [b] ∧ ∃ later, body = b :: later ∧ Denotes later out) ∨
    ∃ c w later out', Escape c w ∧ body = w ++ later ∧ b :: out = String.utf8EncodeChar c ++ out' ∧
      Denotes later out' := by
  generalize whole : b :: out = bytes at h
  cases h with
  | done => cases whole
  | cons piece rest =>
    cases piece with
    | raw plain =>
      cases whole
      exact .inl ⟨plain, _, rfl, rest⟩
    | escape escape => exact .inr ⟨_, _, _, _, escape, rfl, rfl, rest⟩

theorem exists_encode_cons (c : Char) : ∃ b tail, String.utf8EncodeChar c = b :: tail :=
  List.exists_cons_of_ne_nil String.utf8EncodeChar_ne_nil

theorem Denotes.eq_nil {body : List UInt8} (h : Denotes body []) : body = [] := by
  generalize none : ([] : List UInt8) = bytes at h
  cases h with
  | done => rfl
  | cons piece rest =>
    cases piece with
    | raw plain => cases none
    | @escape c w escape =>
      obtain ⟨b, tail, written⟩ := exists_encode_cons c
      rw [written] at none
      cases none

/-- Bytes that start no character stand for themselves. -/
theorem Denotes.raw_tail {tail body out : List UInt8} (inner : ∀ x ∈ tail, ¬x.IsUTF8FirstByte)
    (h : Denotes body (tail ++ out)) : ∃ later, body = tail ++ later ∧ Denotes later out := by
  induction tail generalizing body with
  | nil => exact ⟨body, rfl, h⟩
  | cons b tail ih =>
    rcases h.cases_cons with ⟨-, more, rfl, rest⟩ | ⟨c, w, more, out', -, -, same, -⟩
    · obtain ⟨later, rfl, further⟩ := ih (fun x hx => inner x (List.mem_cons_of_mem _ hx)) rest
      exact ⟨later, rfl, further⟩
    · obtain ⟨first, others, written⟩ := exists_encode_cons c
      rw [written] at same
      obtain rfl := (List.cons.inj same).1
      have starts := @UInt8.isUTF8FirstByte_getElem_zero_utf8EncodeChar c
      simp only [written, List.getElem_cons_zero] at starts
      exact absurd starts (inner b (by simp))

/-- A character whose first byte stands for itself may stand for itself. -/
theorem plain_of_first {c : Char} {b : UInt8} {tail : List UInt8}
    (written : String.utf8EncodeChar c = b :: tail) (plain : PlainBytes [b]) :
    0x20 ≤ c.toNat ∧ c ≠ '"' ∧ c ≠ '\\' := by
  obtain ⟨quote, slash, control⟩ := plain b (by simp)
  refine ⟨?_, ?_, ?_⟩
  · rcases Utf8.encode_cases c with ⟨ascii, one⟩ | ⟨high, -⟩
    · rw [one] at written
      rw [← (List.cons.inj written).1, UInt8.lt_iff_toNat_lt, UInt8.toNat_ofNat'] at control
      simp at control
      omega
    · omega
  · rintro rfl
    exact quote (List.cons.inj written).1.symm
  · rintro rfl
    exact slash (List.cons.inj written).1.symm

/-- Where a string denotes the bytes of a text, it is a spelling of that text. -/
theorem Denotes.spelled {cs : List Char} {body : List UInt8}
    (h : Denotes body (cs.flatMap String.utf8EncodeChar)) :
    Spelled cs body := by
  induction cs generalizing body with
  | nil =>
    obtain rfl := h.eq_nil
    exact .done
  | cons c cs ih =>
    obtain ⟨b, tail, written⟩ := exists_encode_cons c
    rw [List.flatMap_cons, written, List.cons_append] at h
    rcases h.cases_cons with ⟨plain, more, rfl, rest⟩ | ⟨d, w, later, out, escape, rfl, same, rest⟩
    · obtain ⟨later, rfl, further⟩ := rest.raw_tail (encode_tail written)
      have spelled := Spelled.raw (plain_of_first written plain) (ih further)
      rwa [written] at spelled
    · rw [← List.cons_append, ← written] at same
      obtain ⟨rfl, rfl⟩ := encode_append_inj same
      exact escape.spelled (ih rest)

/-- What is read as a text is a spelling of it up to a quotation mark. -/
theorem text_eq_ok {rest after : List UInt8} {s : String} (h : text rest = .ok (s, after)) :
    ∃ body, Spelled s.toList body ∧ rest = body ++ quoteMark :: after := by
  rw [text] at h
  split at h
  · cases h
  · next bytes left read =>
    obtain ⟨body, out, denotes, same, denoted⟩ := textBytes_eq_ok .plain read
    split at h
    · next decoded =>
      cases h
      have text : bytes = s.toList.flatMap String.utf8EncodeChar := Utf8.decode_eq_ok.1 decoded
      rw [denoted, List.reverse_nil, List.nil_append] at text
      rw [text] at denotes
      exact ⟨body, denotes.spelled, same⟩
    · cases h

end KeyRelay.Json
