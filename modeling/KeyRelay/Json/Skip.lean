import KeyRelay.Json.Token

/-!
Skipping a value nobody asked for. Values may nest to any depth: the open brackets are a stack.
Strings need not denote text, but their escapes have to be known; numerals may have any size.
-/

namespace KeyRelay.Json

/-- Where the reader stands inside a string that is skipped. -/
inductive SkipSpot where
  | plain
  | escape
  | digits (taken : List UInt8)
  deriving DecidableEq, Repr

/-- A string after its opening quote. -/
def skipText (spot : SkipSpot) : List UInt8 → Except Fault (List UInt8)
  | [] => refuse .endInText []
  | b :: rest =>
    match spot with
    | .plain =>
      if b = quoteMark then .ok rest
      else if b = backslash then skipText .escape rest
      else if b < 0x20 then refuse .controlCharacter (b :: rest)
      else skipText .plain rest
    | .escape =>
      if (escaped? b).isSome then skipText .plain rest
      else if b = unicodeMark then skipText (.digits []) rest
      else refuse .badEscape rest
    | .digits taken =>
      if taken.length < 3 then skipText (.digits (taken ++ [b])) rest
      else if (hexNumber? (taken ++ [b])).isSome then skipText .plain rest
      else refuse .badEscape rest

/-- A numeral, whatever its size. -/
def skipNumeral (rest : List UInt8) : Except Fault (List UInt8) :=
  (numeral .badNumber rest).map (·.2)

inductive Bracket where
  | list
  | object
  deriving DecidableEq, Repr

def Bracket.closing : Bracket → UInt8
  | .list => closeList
  | .object => closeObject

/-- The reason where the input ends between the brackets. -/
def Bracket.atEnd : Bracket → Reason
  | .list => .endInList
  | .object => .endInObject

/-- The reason where a value is followed by neither comma nor closing bracket. -/
def Bracket.noSeparator : Bracket → Reason
  | .list => .noListSeparator
  | .object => .noObjectSeparator

/-- The name of a member and its colon; a list has none. -/
def skipName : Bracket → List UInt8 → Except Fault (List UInt8)
  | .list, rest => .ok rest
  | .object, rest =>
    match skipBlanks rest with
    | [] => refuse .endInObject []
    | b :: rest =>
      if b = quoteMark then
        match skipText .plain rest with
        | .error f => .error f
        | .ok rest =>
          match skipBlanks rest with
          | [] => refuse .endInObject []
          | c :: rest => if c = colon then .ok rest else refuseNext .noColon (c :: rest)
      else refuseNext .notAKey (b :: rest)

/-- What stands at the front of a value: a scalar, which is taken whole, or an opening bracket. -/
def skipFront : List UInt8 → Except Fault (Option Bracket × List UInt8)
  | [] => refuse .endInValue []
  | b :: rest =>
    if b = 0x6E then (word (letters "ull") rest).map (none, ·)
    else if b = 0x74 then (word (letters "rue") rest).map (none, ·)
    else if b = 0x66 then (word (letters "alse") rest).map (none, ·)
    else if b = minusSign ∨ isDigit b then (skipNumeral (b :: rest)).map (none, ·)
    else if b = quoteMark then (skipText .plain rest).map (none, ·)
    else if b = openList then .ok (some .list, rest)
    else if b = openObject then .ok (some .object, rest)
    else refuseNext .notAValue (b :: rest)

theorem skipText_lt {spot : SkipSpot} {rest after : List UInt8}
    (h : skipText spot rest = .ok after) :
    after.length < rest.length := by
  induction rest generalizing spot with
  | nil => simp [skipText, refuse] at h
  | cons b rest ih =>
    have step {next : SkipSpot} (h : skipText next rest = .ok after) :
        after.length < (b :: rest).length :=
      Nat.lt_succ_of_lt (ih h)
    cases spot with
    | plain =>
      simp only [skipText] at h
      repeat' split at h
      · simp at h; simp [h]
      · exact step h
      · simp [refuse] at h
      · exact step h
    | escape =>
      simp only [skipText] at h
      repeat' split at h
      · exact step h
      · exact step h
      · simp [refuse] at h
    | digits taken =>
      simp only [skipText] at h
      repeat' split at h
      · exact step h
      · exact step h
      · simp [refuse] at h

theorem skipName_le {bracket : Bracket} {rest after : List UInt8}
    (h : skipName bracket rest = .ok after) :
    after.length ≤ rest.length := by
  cases bracket with
  | list => simp [skipName] at h; simp [h]
  | object =>
    have le := skipBlanks_le rest
    simp only [skipName] at h
    split at h
    · simp [refuse] at h
    · next b more e =>
      rw [e] at le
      split at h
      · split at h
        · simp at h
        · next rest₂ e₂ =>
          have lt := skipText_lt e₂
          have le₂ := skipBlanks_le rest₂
          split at h
          · simp [refuse] at h
          · next c last e₃ =>
            rw [e₃] at le₂
            split at h
            · simp at h
              simp at le le₂
              rw [← h]; omega
            · simp [refuseNext] at h
      · simp [refuseNext] at h

theorem skipFront_lt {rest after : List UInt8} {open? : Option Bracket}
    (h : skipFront rest = .ok (open?, after)) : after.length < rest.length := by
  have taken {α : Type} {r : Except Fault α} {a : Option Bracket × List UInt8}
      {f : α → Option Bracket × List UInt8}
      (h : r.map f = .ok a) : ∃ x, r = .ok x ∧ f x = a := by
    cases r with
    | error e => simp [Except.map] at h
    | ok x => exact ⟨x, rfl, by simpa [Except.map] using h⟩
  cases rest with
  | nil => simp [skipFront, refuse] at h
  | cons b rest =>
    have cons {r : List UInt8} (h : r.length ≤ rest.length) : r.length < (b :: rest).length :=
      Nat.lt_succ_of_le h
    simp only [skipFront] at h
    repeat' split at h
    · obtain ⟨x, e, hx⟩ := taken h
      simp at hx; rw [← hx.2]; exact cons (word_le e)
    · obtain ⟨x, e, hx⟩ := taken h
      simp at hx; rw [← hx.2]; exact cons (word_le e)
    · obtain ⟨x, e, hx⟩ := taken h
      simp at hx; rw [← hx.2]; exact cons (word_le e)
    · obtain ⟨x, e, hx⟩ := taken h
      simp at hx
      simp only [skipNumeral] at e
      cases n : numeral .badNumber (b :: rest) with
      | error f => simp [n, Except.map] at e
      | ok y =>
        obtain ⟨written, left⟩ := y
        simp [n, Except.map] at e
        have := numeral_lt n
        rw [← hx.2, ← e]; exact this
    · obtain ⟨x, e, hx⟩ := taken h
      simp at hx; rw [← hx.2]; exact cons (Nat.le_of_lt (skipText_lt e))
    · simp at h; rw [← h.2]; simp
    · simp at h; rw [← h.2]; simp
    · simp [refuseNext] at h

/-- What is expected next: a value, or what follows an opening bracket (`fresh`) or a value. -/
inductive Expect where
  | value
  | inside (fresh : Bool)
  deriving DecidableEq, Repr

/-- A rank that falls on a turn which takes no byte. -/
def Expect.rank : Expect → Nat
  | .value => 0
  | .inside _ => 1

/-- Skips until every open bracket, the innermost first, and the awaited value are closed. -/
def skip (stack : List Bracket) (expect : Expect) (rest : List UInt8) : Except Fault (List UInt8) :=
  match expect with
  | .value =>
    match h : skipFront (skipBlanks rest) with
    | .error f => .error f
    | .ok (none, after) =>
      have := skipFront_lt h
      have := skipBlanks_le rest
      skip stack (.inside false) after
    | .ok (some bracket, after) =>
      have := skipFront_lt h
      have := skipBlanks_le rest
      skip (bracket :: stack) (.inside true) after
  | .inside fresh =>
    match stack with
    | [] => .ok rest
    | bracket :: outer =>
      match h : skipBlanks rest with
      | [] => refuse bracket.atEnd []
      | b :: more =>
        have le := skipBlanks_le rest
        have lt : more.length < rest.length := by rw [h] at le; exact le
        if b = bracket.closing then skip outer (.inside false) more
        else if fresh then
          match h' : skipName bracket (b :: more) with
          | .error f => .error f
          | .ok after =>
            have := skipName_le h'
            have : (b :: more).length ≤ rest.length := by rw [h] at le; exact le
            skip (bracket :: outer) .value after
        else if b = comma then
          match h' : skipName bracket more with
          | .error f => .error f
          | .ok after =>
            have := skipName_le h'
            skip (bracket :: outer) .value after
        else refuseNext bracket.noSeparator (b :: more)
  termination_by (rest.length, expect.rank)
  decreasing_by
    all_goals simp only [Prod.lex_def, Expect.rank]
    all_goals omega

/-- Skips one value. -/
def skipValue (rest : List UInt8) : Except Fault (List UInt8) :=
  skip [] .value rest

/-- Skipping leaves no more than there was; of a value it takes something. -/
theorem skip_le {stack : List Bracket} {expect : Expect} {rest after : List UInt8}
    (h : skip stack expect rest = .ok after) :
    after.length ≤ rest.length ∧ (expect = .value → after.length < rest.length) := by
  fun_induction skip stack expect rest
  case case1 => simp at h
  case case2 ih => have := ih h; simp at this ⊢; omega
  case case3 ih => have := ih h; simp at this ⊢; omega
  case case4 => simp at h; simp [h]
  case case5 => simp [refuse] at h
  case case6 ih => have := ih h; simp at this ⊢; omega
  case case7 => simp at h
  case case8 le₁ le₂ ih => have := ih h; simp at this le₁ le₂ ⊢; omega
  case case9 => simp at h
  case case10 ih => have := ih h; simp at this ⊢; omega
  case case11 => simp [refuseNext] at h

theorem skipValue_lt {rest after : List UInt8} (h : skipValue rest = .ok after) :
    after.length < rest.length :=
  (skip_le h).2 rfl

end KeyRelay.Json
