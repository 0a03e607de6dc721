import KeyRelay.Json.Fault
import KeyRelay.Text.Utf8

/-!
The tokens of a JSON document: blanks, words, strings and numerals. A reader takes the bytes that
are left and returns what it read with the bytes after it; every reader but `skipBlanks` takes at
least one byte (`text_lt`, `numeral_lt`, `word_le`), which is what bounds the readers built on them.
-/

namespace KeyRelay.Json

/-- What a reader gives: a value and the bytes after it, or a refusal. -/
abbrev Result (α : Type) := Except Fault (α × List UInt8)

/-! ### Bytes that mean something -/

def quoteMark : UInt8 := 0x22
def comma : UInt8 := 0x2C
def colon : UInt8 := 0x3A
def backslash : UInt8 := 0x5C
def openList : UInt8 := 0x5B
def closeList : UInt8 := 0x5D
def openObject : UInt8 := 0x7B
def closeObject : UInt8 := 0x7D
def minusSign : UInt8 := 0x2D

/-- Space, tab, line feed and carriage return. -/
def isBlank (b : UInt8) : Bool :=
  b = 0x20 || b = 0x09 || b = 0x0A || b = 0x0D

def skipBlanks (rest : List UInt8) : List UInt8 :=
  rest.dropWhile isBlank

def isDigit (b : UInt8) : Bool :=
  0x30 ≤ b && b ≤ 0x39

/-- The bytes of a word of ASCII letters. -/
def letters (s : String) : List UInt8 :=
  s.toList.map fun c => UInt8.ofNat c.toNat

/-- Takes exactly these bytes. -/
def word : List UInt8 → List UInt8 → Except Fault (List UInt8)
  | [], rest => .ok rest
  | _ :: _, [] => refuse .endInValue []
  | e :: es, b :: rest => if b = e then word es rest else refuse .notAWord rest

/-! ### Strings -/

/-- The value of a hexadecimal digit. -/
def hexValue? (b : UInt8) : Option Nat :=
  let n := b.toNat
  if 48 ≤ n ∧ n ≤ 57 then some (n - 48)
  else if 97 ≤ n ∧ n ≤ 102 then some (n - 87)
  else if 65 ≤ n ∧ n ≤ 70 then some (n - 55)
  else none

/-- The number that hexadecimal digits denote. -/
def hexNumber? (digits : List UInt8) : Option Nat :=
  digits.foldlM (fun n b => (hexValue? b).map (n * 16 + ·)) 0

/-- The byte that a one-letter escape stands for. -/
def escaped? (b : UInt8) : Option UInt8 :=
  if b = 0x22 then some 0x22
  else if b = 0x5C then some 0x5C
  else if b = 0x2F then some 0x2F
  else if b = 0x62 then some 0x08
  else if b = 0x66 then some 0x0C
  else if b = 0x6E then some 0x0A
  else if b = 0x72 then some 0x0D
  else if b = 0x74 then some 0x09
  else none

/-- The letter that opens a numeric escape. -/
def unicodeMark : UInt8 := 0x75

/-- Where a reader stands inside a string. -/
inductive Spot where
  | plain
  | escape
  /-- Inside a numeric escape, with the digits taken so far; `high` is the first half of a pair. -/
  | digits (high : Option Nat) (taken : List UInt8)
  /-- After the first half of a pair, where a second numeric escape has to follow. -/
  | pair (high : Nat)
  | pairMark (high : Nat)
  deriving DecidableEq, Repr

/-- What a byte does to a reader inside a string. -/
inductive Move where
  | push (bytes : List UInt8) (next : Spot)
  | close
  | fail (why : Reason)

/-- Four digits of a numeric escape: a character, or the first or second half of a pair. -/
def unicodeMove (high : Option Nat) (taken : List UInt8) : Move :=
  match hexNumber? taken with
  | none => .fail .badEscape
  | some n =>
    let low := 0xDC00 ≤ n && n ≤ 0xDFFF
    match high with
    | none =>
      if low then .fail .loneSurrogate
      else if 0xD800 ≤ n ∧ n ≤ 0xDBFF then .push [] (.pair n)
      else .push (String.utf8EncodeChar (Char.ofNat n)) .plain
    | some h =>
      if low then
        .push (String.utf8EncodeChar (Char.ofNat ((h - 0xD800) * 0x400 + (n - 0xDC00) + 0x10000)))
          .plain
      else .fail .loneSurrogate

def Spot.move (b : UInt8) : Spot → Move
  | .plain =>
    if b = quoteMark then .close
    else if b = backslash then .push [] .escape
    else if b < 0x20 then .fail .controlCharacter
    else .push [b] .plain
  | .escape =>
    match escaped? b with
    | some x => .push [x] .plain
    | none => if b = unicodeMark then .push [] (.digits none []) else .fail .badEscape
  | .digits high taken =>
    if taken.length < 3 then .push [] (.digits high (taken ++ [b]))
      else unicodeMove high (taken ++ [b])
  | .pair high => if b = backslash then .push [] (.pairMark high) else .fail .cutEscape
  | .pairMark high => if b = unicodeMark then .push [] (.digits (some high) [])
    else .fail .cutEscape

/-- The bytes that a string denotes, read up to its closing quote; `read` is reversed. -/
def textBytes (spot : Spot) (read : List UInt8) : List UInt8 → Result (List UInt8)
  | [] => refuse .endInText []
  | b :: rest =>
    match spot.move b with
    | .push bytes next => textBytes next (bytes.reverse ++ read) rest
    | .close => .ok (read.reverse, rest)
    | .fail why => refuse why rest

/-- A string after its opening quote. Broken bytes are placed by how far they stand from the end of
what the string denotes. -/
def text (rest : List UInt8) : Result String :=
  match textBytes .plain [] rest with
  | .error f => .error f
  | .ok (bytes, after) =>
    match Utf8.decode bytes with
    | .ok s => .ok (s, after)
    | .error f => .error ⟨.notUtf8, after.length + (bytes.length - f.validUpTo)⟩

/-! ### Numerals -/

/-- A numeral as it is written: digits before the point, after it, and the exponent with its
sign. -/
structure Numeral where
  negative : Bool
  whole : List UInt8
  fraction : Option (List UInt8)
  /-- `true` marks a negative exponent. -/
  exponent : Option (Bool × List UInt8)
  deriving DecidableEq, Repr

/-- Digits up to the first byte that is none. -/
def digits (rest : List UInt8) : List UInt8 × List UInt8 :=
  (rest.takeWhile isDigit, rest.dropWhile isDigit)

/-- At least one digit; `atEnd` is the reason where the input ends instead. -/
def someDigits (atEnd : Reason) : List UInt8 → Result (List UInt8)
  | [] => refuse atEnd []
  | b :: rest =>
    if isDigit b then .ok (b :: (digits rest).1, (digits rest).2) else refuse .badNumber rest

/-- Digits before the point: a zero stands alone. -/
def wholePart (atEnd : Reason) : List UInt8 → Result (List UInt8)
  | [] => refuse atEnd []
  | b :: rest =>
    if b = 0x30 then
      match rest with
      | [] => .ok ([b], [])
      | d :: more => if isDigit d then refuseNext .badNumber (d :: more) else .ok ([b], d :: more)
    else someDigits atEnd (b :: rest)

/-- A point and the digits after it, if there is a point. -/
def fractionPart (atEnd : Reason) : List UInt8 → Result (Option (List UInt8))
  | [] => .ok (none, [])
  | b :: rest =>
    if b = 0x2E then
      match rest with
      | [] => refuse atEnd []
      | d :: more =>
        if isDigit d then .ok (some (digits (d :: more)).1, (digits (d :: more)).2)
        else refuseNext .badNumber (d :: more)
    else .ok (none, b :: rest)

/-- An exponent, if there is one. -/
def exponentPart (atEnd : Reason) : List UInt8 → Result (Option (Bool × List UInt8))
  | [] => .ok (none, [])
  | b :: rest =>
    if b = 0x65 ∨ b = 0x45 then
      let signed := match rest with
        | s :: more =>
          if s = 0x2B then (false, more) else if s = minusSign then (true, more) else (false, rest)
        | [] => (false, rest)
      match someDigits atEnd signed.2 with
      | .error f => .error f
      | .ok (ds, after) => .ok (some (signed.1, ds), after)
    else .ok (none, b :: rest)

/-- A numeral after its sign. -/
def unsigned (atEnd : Reason) (negative : Bool) (rest : List UInt8) : Result Numeral :=
  match wholePart atEnd rest with
  | .error f => .error f
  | .ok (whole, rest) =>
    match fractionPart atEnd rest with
    | .error f => .error f
    | .ok (fraction, rest) =>
      match exponentPart atEnd rest with
      | .error f => .error f
      | .ok (exponent, rest) => .ok (⟨negative, whole, fraction, exponent⟩, rest)

/-- A numeral, with or without a minus sign. -/
def numeral (atEnd : Reason) : List UInt8 → Result Numeral
  | [] => refuse atEnd []
  | b :: rest => if b = minusSign then unsigned atEnd true rest
    else unsigned atEnd false (b :: rest)

/-! ### Readers take bytes -/

theorem skipBlanks_le (rest : List UInt8) : (skipBlanks rest).length ≤ rest.length :=
  (List.dropWhile_sublist isBlank).length_le

theorem word_le {es rest after : List UInt8} (h : word es rest = .ok after) :
    after.length ≤ rest.length := by
  induction es generalizing rest with
  | nil => simp [word] at h; simp [h]
  | cons e es ih =>
    cases rest with
    | nil => simp [word, refuse] at h
    | cons b rest =>
      simp only [word] at h
      split at h
      · have := ih h
        simp; omega
      · simp [refuse] at h

theorem textBytes_lt {spot : Spot} {read rest bytes after : List UInt8}
    (h : textBytes spot read rest = .ok (bytes, after)) : after.length < rest.length := by
  induction rest generalizing spot read with
  | nil => simp [textBytes, refuse] at h
  | cons b rest ih =>
    simp only [textBytes] at h
    split at h
    · have := ih h
      simp; omega
    · simp at h
      simp [h.2]
    · simp [refuse] at h

theorem text_lt {rest after : List UInt8} {s : String} (h : text rest = .ok (s, after)) :
    after.length < rest.length := by
  simp only [text] at h
  split at h
  · simp at h
  · next e =>
    have := textBytes_lt e
    split at h
    · simp at h; simpa [h.2] using this
    · simp at h

theorem digits_le (rest : List UInt8) : (digits rest).2.length ≤ rest.length :=
  (List.dropWhile_sublist isDigit).length_le

theorem someDigits_lt {atEnd : Reason} {rest ds after : List UInt8}
    (h : someDigits atEnd rest = .ok (ds, after)) : after.length < rest.length := by
  cases rest with
  | nil => simp [someDigits, refuse] at h
  | cons b rest =>
    simp only [someDigits] at h
    split at h
    · have := digits_le rest
      simp at h
      simp [← h.2]; omega
    · simp [refuse] at h

theorem wholePart_lt {atEnd : Reason} {rest ds after : List UInt8}
    (h : wholePart atEnd rest = .ok (ds, after)) : after.length < rest.length := by
  cases rest with
  | nil => simp [wholePart, refuse] at h
  | cons b rest =>
    simp only [wholePart] at h
    split at h
    · split at h
      · simp at h; simp [h.2]
      · split at h
        · simp [refuseNext] at h
        · simp at h; simp [← h.2]
    · exact someDigits_lt h

theorem fractionPart_le {atEnd : Reason} {rest after : List UInt8} {ds : Option (List UInt8)}
    (h : fractionPart atEnd rest = .ok (ds, after)) : after.length ≤ rest.length := by
  cases rest with
  | nil => simp [fractionPart] at h; simp [h.2]
  | cons b rest =>
    simp only [fractionPart] at h
    split at h
    · split at h
      · simp [refuse] at h
      · next d more =>
        split at h
        · have := digits_le (d :: more)
          simp at h this
          simp [← h.2]; omega
        · simp [refuseNext] at h
    · simp at h; simp [← h.2]

theorem exponentPart_le {atEnd : Reason} {rest after : List UInt8} {e : Option (Bool × List UInt8)}
    (h : exponentPart atEnd rest = .ok (e, after)) : after.length ≤ rest.length := by
  cases rest with
  | nil => simp [exponentPart] at h; simp [h.2]
  | cons b rest =>
    simp only [exponentPart] at h
    split at h
    · split at h
      · simp at h
      · next e =>
        have lt := someDigits_lt e
        simp at h
        rw [← h.2]
        refine Nat.le_of_lt (Nat.lt_of_lt_of_le lt ?_)
        split
        · split
          · simp; omega
          · split <;> simp
            omega
        · simp
    · simp at h; simp [← h.2]

theorem unsigned_lt {atEnd : Reason} {negative : Bool} {rest after : List UInt8} {n : Numeral}
    (h : unsigned atEnd negative rest = .ok (n, after)) : after.length < rest.length := by
  simp only [unsigned] at h
  split at h
  · simp at h
  · next e₁ =>
    split at h
    · simp at h
    · next e₂ =>
      split at h
      · simp at h
      · next e₃ =>
        have := wholePart_lt e₁
        have := fractionPart_le e₂
        have := exponentPart_le e₃
        simp at h
        rw [← h.2]; omega

theorem numeral_lt {atEnd : Reason} {rest after : List UInt8} {n : Numeral}
    (h : numeral atEnd rest = .ok (n, after)) : after.length < rest.length := by
  cases rest with
  | nil => simp [numeral, refuse] at h
  | cons b rest =>
    simp only [numeral] at h
    split at h
    · have := unsigned_lt h
      simp; omega
    · exact unsigned_lt h

end KeyRelay.Json
