import KeyRelay.Json.Skip
import KeyRelay.Proofs.Json.Grammar
import KeyRelay.Proofs.Text.Utf8

/-!
Tokens that are written as the grammar says are read whole, and reading stops right after them:
blanks, strings and numerals.
-/

namespace KeyRelay.Json

/-! ### Blanks -/

theorem isBlank_eq_true {b : UInt8} :
    isBlank b = true ↔ b = 0x20 ∨ b = 0x09 ∨ b = 0x0A ∨ b = 0x0D := by
  simp [isBlank, or_assoc]

theorem skipBlanks_cons {b : UInt8} (h : isBlank b = false) (rest : List UInt8) :
    skipBlanks (b :: rest) = b :: rest := by
  simp [skipBlanks, h]

theorem skipBlanks_append {gap : List UInt8} (blank : Blanks gap) (rest : List UInt8) :
    skipBlanks (gap ++ rest) = skipBlanks rest := by
  induction gap with
  | nil => rfl
  | cons b gap ih =>
    have first : isBlank b = true := isBlank_eq_true.2 (blank b (by simp))
    rw [List.cons_append, skipBlanks, List.dropWhile_cons_of_pos first]
    exact ih fun x hx => blank x (List.mem_cons_of_mem _ hx)

theorem skipBlanks_idem (rest : List UInt8) : skipBlanks (skipBlanks rest) = skipBlanks rest := by
  induction rest with
  | nil => rfl
  | cons b rest ih =>
    cases first : isBlank b with
    | true =>
      have dropped : skipBlanks (b :: rest) = skipBlanks rest := List.dropWhile_cons_of_pos first
      rw [dropped, ih]
    | false => rw [skipBlanks_cons first, skipBlanks_cons first]

theorem blanks_nil : Blanks [] := by
  intro b h
  cases h

theorem Blanks.append {a b : List UInt8} (ha : Blanks a) (hb : Blanks b) : Blanks (a ++ b) := by
  intro x h
  rcases List.mem_append.1 h with h | h
  · exact ha x h
  · exact hb x h

theorem skipBlanks_close {gap : List UInt8} (blank : Blanks gap) {b : UInt8}
    (other : isBlank b = false) (rest : List UInt8) :
    skipBlanks (gap ++ b :: rest) = b :: rest := by
  rw [skipBlanks_append blank, skipBlanks_cons other]

theorem bracketed (b e : UInt8) (w rest : List UInt8) :
    b :: (w ++ [e]) ++ rest = b :: (w ++ e :: rest) := by
  rw [List.cons_append, List.append_assoc, List.singleton_append]

/-! ### Strings -/

theorem hexValue?_of_hexDigit {n : Nat} {b : UInt8} (h : HexDigit n b) : hexValue? b = some n := by
  simp only [hexValue?]
  cases h with
  | digit value byte =>
    rw [if_pos (by omega), byte]
    exact congrArg some (by omega)
  | lower low high byte =>
    rw [if_neg (by omega), if_pos (by omega), byte]
    exact congrArg some (by omega)
  | upper low high byte =>
    rw [if_neg (by omega), if_neg (by omega), if_pos (by omega), byte]
    exact congrArg some (by omega)

theorem hexNumber?_of_fourHex {n : Nat} {digits : List UInt8} (h : FourHex n digits) :
    hexNumber? digits = some n := by
  obtain ⟨first, second, third, fourth⟩ := h
  simp only [hexNumber?, List.foldlM_cons, List.foldlM_nil, hexValue?_of_hexDigit first,
    hexValue?_of_hexDigit second, hexValue?_of_hexDigit third, hexValue?_of_hexDigit fourth,
    Option.map_some, Option.bind_eq_bind, Option.bind_some]
  exact congrArg some (by omega)

theorem escaped?_of_short {letter c : Char} (h : (letter, c) ∈ shortEscapes) :
    ∃ x, escaped? (UInt8.ofNat letter.toNat) = some x ∧ String.utf8EncodeChar c = [x] := by
  simp only [shortEscapes, List.mem_cons, List.not_mem_nil, or_false, Prod.mk.injEq] at h
  rcases h with ⟨rfl, rfl⟩ | ⟨rfl, rfl⟩ | ⟨rfl, rfl⟩ | ⟨rfl, rfl⟩ | ⟨rfl, rfl⟩ | ⟨rfl, rfl⟩ |
    ⟨rfl, rfl⟩ | ⟨rfl, rfl⟩
  all_goals exact ⟨_, rfl, by decide⟩

/-- Bytes of a string that stand for themselves. -/
def PlainBytes (bs : List UInt8) : Prop :=
  ∀ b ∈ bs, b ≠ quoteMark ∧ b ≠ backslash ∧ ¬b < 0x20

theorem plainBytes_encode {c : Char} (h : 0x20 ≤ c.toNat ∧ c ≠ '"' ∧ c ≠ '\\') :
    PlainBytes (String.utf8EncodeChar c) := by
  obtain ⟨low, quote, slash⟩ := h
  rcases Utf8.encode_cases c with ⟨ascii, written⟩ | ⟨-, high⟩
  · rw [written]
    intro b hb
    obtain rfl := List.mem_singleton.1 hb
    have byte : (UInt8.ofNat c.toNat).toNat = c.toNat := by rw [UInt8.toNat_ofNat']; omega
    refine ⟨fun same => quote ?_, fun same => slash ?_, fun below => ?_⟩
    · rw [← Char.toNat_inj, ← byte, same]; rfl
    · rw [← Char.toNat_inj, ← byte, same]; rfl
    · rw [UInt8.lt_iff_toNat_lt, byte] at below
      exact absurd below (Nat.not_lt.2 low)
  · intro b hb
    have big := high b hb
    refine ⟨?_, ?_, fun below => ?_⟩
    · rintro rfl
      exact absurd big (by decide)
    · rintro rfl
      exact absurd big (by decide)
    · rw [UInt8.lt_iff_toNat_lt] at below
      exact absurd (Nat.lt_of_le_of_lt big below) (by decide)

theorem textBytes_push {b : UInt8} {spot next : Spot} {bytes : List UInt8}
    (move : spot.move b = .push bytes next) (read rest : List UInt8) :
    textBytes spot read (b :: rest) = textBytes next (bytes.reverse ++ read) rest := by
  rw [textBytes, move]

theorem textBytes_plain {bs : List UInt8} (plain : PlainBytes bs) (read rest : List UInt8) :
    textBytes .plain read (bs ++ rest) = textBytes .plain (bs.reverse ++ read) rest := by
  induction bs generalizing read with
  | nil => rfl
  | cons b bs ih =>
    obtain ⟨quote, slash, low⟩ := plain b (by simp)
    have move : Spot.move b .plain = .push [b] .plain := by
      simp only [Spot.move, if_neg quote, if_neg slash, if_neg low]
    rw [List.cons_append, textBytes_push move, ih fun x hx => plain x (List.mem_cons_of_mem _ hx)]
    simp

/-- Four digits are one numeric escape. -/
theorem textBytes_digits {high : Option Nat} {digits bytes : List UInt8} {next : Spot} {n : Nat}
    (number : FourHex n digits) (move : unicodeMove high digits = .push bytes next)
    (read rest : List UInt8) :
    textBytes (.digits high []) read (digits ++ rest) =
      textBytes next (bytes.reverse ++ read) rest := by
  obtain @⟨x, y, z, t, -, -, -, -⟩ := number
  have last : Spot.move t (.digits high [x, y, z]) = .push bytes next := move
  exact (textBytes_push rfl ..).trans
    ((textBytes_push rfl ..).trans ((textBytes_push rfl ..).trans (textBytes_push last ..)))

theorem unicodeMove_scalar {c : Char} {digits : List UInt8} (number : FourHex c.toNat digits) :
    unicodeMove none digits = .push (String.utf8EncodeChar c) .plain := by
  have valid : c.toNat.isValidChar := c.valid
  rw [Nat.isValidChar] at valid
  rw [unicodeMove, hexNumber?_of_fourHex number]
  have notLow : (0xDC00 ≤ c.toNat && c.toNat ≤ 0xDFFF) = false := by
    simp only [Bool.and_eq_false_iff, decide_eq_false_iff_not]
    omega
  simp only [notLow, Bool.false_eq_true, if_false]
  rw [if_neg (by omega), Char.ofNat_toNat]

theorem unicodeMove_high {high : Nat} {digits : List UInt8}
    (number : FourHex (0xD800 + high) digits) (fits : high < 0x400) :
    unicodeMove none digits = .push [] (.pair (0xD800 + high)) := by
  rw [unicodeMove, hexNumber?_of_fourHex number]
  have notLow : (0xDC00 ≤ 0xD800 + high && 0xD800 + high ≤ 0xDFFF) = false := by
    simp only [Bool.and_eq_false_iff, decide_eq_false_iff_not]
    omega
  simp only [notLow, Bool.false_eq_true, if_false]
  rw [if_pos (by omega)]

theorem unicodeMove_low {c : Char} {high low : Nat} {digits : List UInt8}
    (number : FourHex (0xDC00 + low) digits) (whole : c.toNat = 0x10000 + high * 0x400 + low)
    (fits : low < 0x400) :
    unicodeMove (some (0xD800 + high)) digits = .push (String.utf8EncodeChar c) .plain := by
  rw [unicodeMove, hexNumber?_of_fourHex number]
  have isLow : (0xDC00 ≤ 0xDC00 + low && 0xDC00 + low ≤ 0xDFFF) = true := by
    simp only [Bool.and_eq_true, decide_eq_true_eq]
    omega
  have value : (0xD800 + high - 0xD800) * 0x400 + (0xDC00 + low - 0xDC00) + 0x10000 =
    c.toNat := by omega
  simp only [isLow, if_true, value, Char.ofNat_toNat]

theorem textBytes_spelled {cs : List Char} {body : List UInt8} (h : Spelled cs body)
    (read rest : List UInt8) :
    textBytes .plain read (body ++ quoteMark :: rest) =
      .ok (read.reverse ++ cs.flatMap String.utf8EncodeChar, rest) := by
  induction h generalizing read with
  | done =>
    have move : Spot.move quoteMark .plain = .close := rfl
    simp only [List.nil_append, textBytes, move, List.flatMap_nil, List.append_nil]
  | @raw c cs body plain _ ih =>
    rw [List.append_assoc, textBytes_plain (plainBytes_encode plain), ih]
    simp
  | @short letter c cs body escape _ ih =>
    obtain ⟨x, known, written⟩ := escaped?_of_short escape
    have move : Spot.move (UInt8.ofNat letter.toNat) .escape = .push [x] .plain := by
      rw [Spot.move, known]
    rw [List.cons_append, textBytes_push rfl, List.cons_append, textBytes_push move, ih]
    simp [written]
  | @numeric c cs digits body number _ ih =>
    rw [List.cons_append, textBytes_push rfl, List.cons_append, textBytes_push rfl,
      List.append_assoc, textBytes_digits number (unicodeMove_scalar number), ih]
    simp
  | @pair c cs high low digits digits' body whole fits first second _ ih =>
    have bound : high < 0x400 := by
      have valid : c.toNat.isValidChar := c.valid
      rw [Nat.isValidChar] at valid
      omega
    rw [List.cons_append, textBytes_push rfl, List.cons_append, textBytes_push rfl,
      List.append_assoc, textBytes_digits first (unicodeMove_high first bound), List.cons_append,
      textBytes_push rfl, List.cons_append, textBytes_push rfl, List.append_assoc,
      textBytes_digits second (unicodeMove_low second whole fits), ih]
    simp

/-- A string is read to the text it denotes. -/
theorem text_spelled {s : String} {body : List UInt8} (h : Spelled s.toList body)
    (rest : List UInt8) :
    text (body ++ quoteMark :: rest) = .ok (s, rest) := by
  rw [text, textBytes_spelled h]
  have read : Utf8.decode ([].reverse ++ s.toList.flatMap String.utf8EncodeChar) = .ok s :=
    Utf8.decode_bytes s
  simp only [read]

/-! ### Numerals -/

/-- The next byte, if there is one, is like that. -/
def Front (p : UInt8 → Prop) : List UInt8 → Prop
  | [] => True
  | b :: _ => p b

theorem Front.mono {p q : UInt8 → Prop} (h : ∀ b, p b → q b) :
    ∀ {rest : List UInt8}, Front p rest → Front q rest
  | [], _ => trivial
  | _ :: _, front => h _ front

/-- No numeral goes on here. -/
def Stops : List UInt8 → Prop :=
  Front fun b => isDigit b = false ∧ b ≠ 0x2E ∧ b ≠ 0x65 ∧ b ≠ 0x45

theorem isDigit_eq_true {b : UInt8} : isDigit b = true ↔ 0x30 ≤ b.toNat ∧ b.toNat ≤ 0x39 := by
  simp [isDigit, UInt8.le_iff_toNat_le]

theorem SomeDigits.isDigit {ds : List UInt8} (h : SomeDigits ds) : ∀ d ∈ ds, isDigit d = true :=
  fun d hd => isDigit_eq_true.2 (h.digits d hd)

theorem digits_append {ds rest : List UInt8} (all : ∀ d ∈ ds, isDigit d = true)
    (stop : Front (fun b => isDigit b = false) rest) : digits (ds ++ rest) = (ds, rest) := by
  have ended : digits rest = ([], rest) := by
    cases rest with
    | nil => rfl
    | cons b rest =>
      have none : isDigit b = false := stop
      simp [digits, none]
  induction ds with
  | nil => exact ended
  | cons d ds ih =>
    have first := all d (by simp)
    have rest' := ih fun x hx => all x (List.mem_cons_of_mem _ hx)
    simp only [digits, Prod.mk.injEq] at rest'
    simp only [digits, List.cons_append, List.takeWhile_cons_of_pos first,
      List.dropWhile_cons_of_pos first, rest'.1, rest'.2]

theorem someDigits_append {ds rest : List UInt8} (h : SomeDigits ds) (atEnd : Reason)
    (stop : Front (fun b => isDigit b = false) rest) :
    someDigits atEnd (ds ++ rest) = .ok (ds, rest) := by
  cases ds with
  | nil => exact absurd rfl h.nonempty
  | cons d ds =>
    have later := digits_append (fun x hx => h.isDigit x (List.mem_cons_of_mem _ hx)) stop
    rw [List.cons_append, someDigits, if_pos (h.isDigit d (by simp)), later]

theorem wholePart_append {ds rest : List UInt8} (h : SomeDigits ds)
    (zero : ds.head? = some 0x30 → ds = [0x30]) (atEnd : Reason)
    (stop : Front (fun b => isDigit b = false) rest) :
    wholePart atEnd (ds ++ rest) = .ok (ds, rest) := by
  cases ds with
  | nil => exact absurd rfl h.nonempty
  | cons d ds =>
    by_cases first : d = 0x30
    · subst first
      obtain rfl : ds = [] := by simpa using zero rfl
      cases rest with
      | nil => rfl
      | cons b rest =>
        have none : isDigit b = false := stop
        simp [wholePart, none]
    · have later := someDigits_append h atEnd stop
      rw [List.cons_append] at later ⊢
      simp only [wholePart, if_neg first, later]

theorem fractionPart_append {f : Option (List UInt8)} {w rest : List UInt8}
    (h : WrittenFraction f w) (atEnd : Reason)
    (stop : Front (fun b => isDigit b = false ∧ b ≠ 0x2E) rest) :
    fractionPart atEnd (w ++ rest) = .ok (f, rest) := by
  cases h with
  | none =>
    cases rest with
    | nil => rfl
    | cons b rest =>
      have other : b ≠ 0x2E := stop.2
      simp only [List.nil_append, fractionPart, if_neg other]
  | @some ds digits' =>
    have all := digits_append digits'.isDigit (stop.mono fun _ h => h.1)
    cases ds with
    | nil => exact absurd rfl digits'.nonempty
    | cons d ds =>
      rw [List.cons_append] at all
      rw [List.cons_append, List.cons_append, fractionPart, if_pos rfl]
      simp only [if_pos (digits'.isDigit d (by simp)), all]

theorem exponentPart_append {e : Option (Bool × List UInt8)} {w rest : List UInt8}
    (h : WrittenExponent e w) (atEnd : Reason) (stop : Stops rest) :
    exponentPart atEnd (w ++ rest) = .ok (e, rest) := by
  cases h with
  | none =>
    cases rest with
    | nil => rfl
    | cons b rest =>
      have other : ¬(b = 0x65 ∨ b = 0x45) := fun h => h.elim stop.2.2.1 stop.2.2.2
      simp only [List.nil_append, exponentPart, if_neg other]
  | @some letter down sign ds mark signed digits' =>
    have later := someDigits_append digits' atEnd (stop.mono fun _ h => h.1)
    simp only [List.cons_append, exponentPart, if_pos mark]
    cases signed with
    | none =>
      cases ds with
      | nil => exact absurd rfl digits'.nonempty
      | cons d ds =>
        have digit := digits'.digits d (by simp)
        have noPlus : d ≠ 0x2B := by rintro rfl; exact absurd digit.1 (by decide)
        have noMinus : d ≠ minusSign := by rintro rfl; exact absurd digit.1 (by decide)
        simp only [List.nil_append, List.cons_append, if_neg noPlus, if_neg noMinus] at later ⊢
        simp only [later]
    | plus =>
      simp only [List.cons_append, List.nil_append, if_true, later]
    | minus =>
      have noPlus : minusSign ≠ 0x2B := by decide
      simp only [List.cons_append, List.nil_append, if_neg noPlus, if_true, later]

theorem front_fraction {p : UInt8 → Prop} {f : Option (List UInt8)} {w rest : List UInt8}
    (h : WrittenFraction f w) (point : p 0x2E) (front : Front p rest) : Front p (w ++ rest) := by
  cases h with
  | none => exact front
  | some _ => exact point

theorem front_exponent {p : UInt8 → Prop} {e : Option (Bool × List UInt8)} {w rest : List UInt8}
    (h : WrittenExponent e w) (small : p 0x65) (capital : p 0x45) (front : Front p rest) :
    Front p (w ++ rest) := by
  cases h with
  | none => exact front
  | some mark _ _ =>
    rcases mark with rfl | rfl
    · exact small
    · exact capital

theorem numeral_written {n : Numeral} {w rest : List UInt8} (h : WrittenNumeral n w)
    (atEnd : Reason) (stop : Stops rest) : numeral atEnd (w ++ rest) = .ok (n, rest) := by
  obtain @⟨fraction, exponent, whole, zero, point, power⟩ := h
  have afterFraction : Front (fun b => isDigit b = false ∧ b ≠ 0x2E) (exponent ++ rest) :=
    front_exponent power (by decide) (by decide) (stop.mono fun _ h => ⟨h.1, h.2.1⟩)
  have afterWhole : Front (fun b => isDigit b = false) (fraction ++ (exponent ++ rest)) :=
    front_fraction point (by decide) (afterFraction.mono fun _ h => h.1)
  have read : unsigned atEnd n.negative (n.whole ++ (fraction ++ (exponent ++ rest))) =
      .ok (n, rest) := by
    simp only [unsigned, wholePart_append whole zero atEnd afterWhole,
      fractionPart_append point atEnd afterFraction, exponentPart_append power atEnd stop]
  simp only [List.append_assoc]
  cases negative : n.negative with
  | true =>
    rw [negative] at read
    simp only [if_true, List.cons_append, List.nil_append]
    exact read
  | false =>
    rw [negative] at read
    simp only [Bool.false_eq_true, if_false, List.nil_append]
    cases digits : n.whole with
    | nil => exact absurd digits whole.nonempty
    | cons d ds =>
      have first := whole.digits d (by rw [digits]; simp)
      have noMinus : d ≠ minusSign := by rintro rfl; exact absurd first.1 (by decide)
      rw [digits] at read
      rw [List.cons_append, numeral, if_neg noMinus]
      exact read

end KeyRelay.Json
