import KeyRelay.Json.Number
import KeyRelay.Json.Skip

/-!
Readers for values of a known kind: strings, optional values, unsigned integers, variants and
records. A `Reader` carries the fact that it takes at least one byte. A record is read from an
object, where members may stand in any order and unknown ones are skipped, or from a list that holds
the fields in order.
-/

namespace KeyRelay.Json

/-- A function from the bytes that are left to a value and fewer bytes. -/
structure Reader (α : Type) where
  run : List UInt8 → Result α
  run_lt : ∀ {rest a after}, run rest = .ok (a, after) → after.length < rest.length

/-! ### Values of another kind -/

/-- What stands at the front of `rest`, which starts with no blank; a scalar is taken whole, so that
its own faults come first. -/
def found : List UInt8 → Result Found
  | [] => refuse .endInValue []
  | b :: rest =>
    if b = 0x6E then (word (letters "ull") rest).map (.null, ·)
    else if b = 0x74 then (word (letters "rue") rest).map (.boolean true, ·)
    else if b = 0x66 then (word (letters "alse") rest).map (.boolean false, ·)
    else if b = minusSign ∨ isDigit b then
      match numeral .endInValue (b :: rest) with
      | .error f => .error f
      | .ok (n, after) =>
        match n.number after with
        | .error f => .error f
        | .ok (.integer i) => .ok (.integer i, after)
        | .ok (.float x) => .ok (.float x, after)
    else if b = quoteMark then (text rest).map fun (s, after) => (.text s, after)
    else if b = openList then .ok (.list, b :: rest)
    else if b = openObject then .ok (.object, b :: rest)
    else refuseNext .notAValue (b :: rest)

/-- Refuses a value for being of another kind than the one wanted. -/
def refuseKind {α : Type} (wanted : String) (rest : List UInt8) : Except Fault α :=
  match found rest with
  | .error f => .error f
  | .ok (other, after) => refuse (.wrongKind other wanted) after

theorem refuseKind_ne_ok {α : Type} {wanted : String} {rest : List UInt8} {a : α} :
    refuseKind wanted rest ≠ .ok a := by
  intro h
  simp only [refuseKind] at h
  split at h <;> simp [refuse] at h

/-! ### Scalars -/

def readText (wanted : String) (rest : List UInt8) : Result String :=
  match skipBlanks rest with
  | [] => refuse .endInValue []
  | b :: more => if b = quoteMark then text more else refuseKind wanted (b :: more)

theorem readText_lt {wanted : String} {rest after : List UInt8} {s : String}
    (h : readText wanted rest = .ok (s, after)) : after.length < rest.length := by
  have le := skipBlanks_le rest
  simp only [readText] at h
  split at h
  · simp [refuse] at h
  · next b more e =>
    rw [e] at le
    split at h
    · have := text_lt h
      simp at le; omega
    · exact absurd h refuseKind_ne_ok

/-- A string; `wanted` names it where something else stands. -/
def aText (wanted : String) : Reader String :=
  ⟨readText wanted, readText_lt⟩

/-- The words for an unsigned integer of so many bits. -/
def unsignedName (bits : Nat) : String :=
  "u" ++ toString bits

def readUnsigned (bits : Nat) (rest : List UInt8) : Result Nat :=
  match skipBlanks rest with
  | [] => refuse .endInValue []
  | b :: more =>
    if b = minusSign ∨ isDigit b then
      match numeral .endInValue (b :: more) with
      | .error f => .error f
      | .ok (n, after) =>
        match n.number after with
        | .error f => .error f
        | .ok (.float x) => refuse (.wrongKind (.float x) (unsignedName bits)) after
        | .ok (.integer i) =>
          if 0 ≤ i ∧ i < Nat.pow 2 bits then .ok (i.toNat, after)
          else refuse (.outOfRange i (unsignedName bits)) after
    else refuseKind (unsignedName bits) (b :: more)

theorem readUnsigned_lt {bits n : Nat} {rest after : List UInt8}
    (h : readUnsigned bits rest = .ok (n, after)) : after.length < rest.length := by
  have le := skipBlanks_le rest
  simp only [readUnsigned] at h
  split at h
  · simp [refuse] at h
  · next b more e =>
    rw [e] at le
    split at h
    · split at h
      · simp at h
      · next e₂ =>
        have lt := numeral_lt e₂
        split at h
        · simp at h
        · simp [refuse] at h
        · split at h
          · simp at h
            rw [← h.2]; omega
          · simp [refuse] at h
    · exact absurd h refuseKind_ne_ok

/-- An integer from zero up to but not including `2 ^ bits`. -/
def anUnsigned (bits : Nat) : Reader Nat :=
  ⟨readUnsigned bits, readUnsigned_lt⟩

/-- `null` for nothing, else a value. -/
def readOption {α : Type} (value : Reader α) (rest : List UInt8) : Result (Option α) :=
  match skipBlanks rest with
  | [] => (value.run []).map fun (a, after) => (some a, after)
  | b :: more =>
    if b = 0x6E then (word (letters "ull") more).map (none, ·)
    else (value.run (b :: more)).map fun (a, after) => (some a, after)

theorem readOption_lt {α : Type} {value : Reader α} {rest after : List UInt8} {a : Option α}
    (h : readOption value rest = .ok (a, after)) : after.length < rest.length := by
  have le := skipBlanks_le rest
  have inner {r : List UInt8} (h : (value.run r).map (fun (a, after) => (some a, after)) =
      .ok (a, after)) :
      after.length < r.length := by
    cases e : value.run r with
    | error f => simp [e, Except.map] at h
    | ok x =>
      obtain ⟨_, _⟩ := x
      have := value.run_lt e
      simp [e, Except.map] at h
      rw [← h.2]; exact this
  simp only [readOption] at h
  split at h
  · have := inner h
    simp at this
  · next b more e =>
    rw [e] at le
    split at h
    · cases e₂ : word (letters "ull") more with
      | error f => simp [e₂, Except.map] at h
      | ok x =>
        have := word_le e₂
        simp [e₂, Except.map] at h
        simp at le
        rw [← h.2]; omega
    · have := inner h
      omega

def anOption {α : Type} (value : Reader α) : Reader (Option α) :=
  ⟨readOption value, readOption_lt⟩

/-! ### Variants -/

/-- The variant of a name. -/
def pick {α : Type} (variants : List (String × α)) (name : String) : Option α :=
  (variants.find? fun v => v.1 = name).map (·.2)

/-- A name in quotes, its opening quote taken, that has to be one of the variants. -/
def variantName {α : Type} (variants : List (String × α)) (rest : List UInt8) : Result α :=
  match text rest with
  | .error f => .error f
  | .ok (name, after) =>
    match pick variants name with
    | some a => .ok (a, after)
    | none => refuse (.unknownVariant name (variants.map (·.1))) after

/-- The content of a variant written as a member: nothing. -/
def unitValue (rest : List UInt8) : Except Fault (List UInt8) :=
  match skipBlanks rest with
  | [] => refuse .endInValue []
  | b :: more => if b = 0x6E then word (letters "ull") more else refuseKind "unit" (b :: more)

/-- A variant's name, or an object whose only member has that name and no content. -/
def readVariant {α : Type} (variants : List (String × α)) (rest : List UInt8) : Result α :=
  match skipBlanks rest with
  | [] => refuse .endInValue []
  | b :: more =>
    if b = quoteMark then variantName variants more
    else if b = openObject then
      match skipBlanks more with
      | [] => refuse .endInObject []
      | q :: named =>
        if q = quoteMark then
          match variantName variants named with
          | .error f => .error f
          | .ok (a, after) =>
            match skipBlanks after with
            | [] => refuse .endInObject []
            | c :: content =>
              if c = colon then
                match unitValue content with
                | .error f => .error f
                | .ok after =>
                  match skipBlanks after with
                  | [] => refuse .endInObject []
                  | e :: last =>
                    if e = closeObject then .ok (a, last) else refuse .notAValue (e :: last)
              else refuseNext .noColon (c :: content)
        else if q = closeObject then refuseNext .notAValue (q :: named)
        else refuseNext .notAKey (q :: named)
    else refuseNext .notAValue (b :: more)

theorem variantName_lt {α : Type} {variants : List (String × α)} {rest after : List UInt8} {a : α}
    (h : variantName variants rest = .ok (a, after)) : after.length < rest.length := by
  simp only [variantName] at h
  split at h
  · simp at h
  · next e =>
    have := text_lt e
    split at h
    · simp at h; rw [← h.2]; exact this
    · simp [refuse] at h

theorem unitValue_le {rest after : List UInt8} (h : unitValue rest = .ok after) :
    after.length ≤ rest.length := by
  have le := skipBlanks_le rest
  simp only [unitValue] at h
  split at h
  · simp [refuse] at h
  · next b more e =>
    rw [e] at le
    split at h
    · have := word_le h
      simp at le; omega
    · exact absurd h refuseKind_ne_ok

theorem readVariant_lt {α : Type} {variants : List (String × α)} {rest after : List UInt8} {a : α}
    (h : readVariant variants rest = .ok (a, after)) : after.length < rest.length := by
  have le := skipBlanks_le rest
  simp only [readVariant] at h
  split at h
  · simp [refuse] at h
  · next b more e =>
    rw [e] at le
    simp at le
    split at h
    · have := variantName_lt h
      omega
    · split at h
      · have le₂ := skipBlanks_le more
        split at h
        · simp [refuse] at h
        · next q named e₂ =>
          rw [e₂] at le₂
          simp at le₂
          split at h
          · split at h
            · simp at h
            · next after₁ e₃ =>
              have lt := variantName_lt e₃
              have le₃ := skipBlanks_le after₁
              split at h
              · simp [refuse] at h
              · next c content e₄ =>
                rw [e₄] at le₃
                simp at le₃
                split at h
                · split at h
                  · simp at h
                  · next after₂ e₅ =>
                    have le₄ := unitValue_le e₅
                    have le₅ := skipBlanks_le after₂
                    split at h
                    · simp [refuse] at h
                    · next x last e₆ =>
                      rw [e₆] at le₅
                      simp at le₅
                      split at h
                      · simp at h
                        rw [← h.2]; omega
                      · simp [refuse] at h
                · simp [refuseNext] at h
          · split at h <;> simp [refuseNext] at h
      · simp [refuseNext] at h

/-- One of the named variants. -/
def aVariant {α : Type} (variants : List (String × α)) : Reader α :=
  ⟨readVariant variants, readVariant_lt⟩

end KeyRelay.Json
