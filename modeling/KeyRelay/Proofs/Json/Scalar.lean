import KeyRelay.Proofs.Json.Record
import KeyRelay.Proofs.Text.Digits

/-!
Numbers and variants as they are written plainly: a whole number as its decimal digits, a variant as
its name. Their readers give them back, a number as long as it fits what is wanted.
-/

namespace KeyRelay.Json

/-! ### Digits -/

theorem appendDigits_digits {limit m : Nat} {cs : List Char} (all : ∀ c ∈ cs, c.isDigit = true)
    (fits : Nat.ofDigitChars 10 cs m ≤ limit) :
    appendDigits limit m (cs.map fun c => UInt8.ofNat c.toNat) =
      (Nat.ofDigitChars 10 cs m, []) := by
  induction cs generalizing m with
  | nil => rfl
  | cons c cs ih =>
    have range := Digits.range (all c (by simp))
    have value : digitValue (UInt8.ofNat c.toNat) = c.toNat - '0'.toNat := by
      show (UInt8.ofNat c.toNat).toNat - 48 = c.toNat - 48
      rw [UInt8.toNat_ofNat']
      omega
    rw [Nat.ofDigitChars_cons] at fits ⊢
    have next := Digits.le_ofDigitChars cs (10 * m + (c.toNat - '0'.toNat))
    rw [List.map_cons, appendDigits, value, Nat.mul_comm m 10]
    simp only [if_neg (show ¬limit < 10 * m + (c.toNat - '0'.toNat) by omega)]
    exact ih (fun x hx => all x (List.mem_cons_of_mem _ hx)) fits

/-! ### Whole numbers -/

/-- A whole number as its digits. -/
def Numeral.ofNat (n : Nat) : Numeral :=
  ⟨false, letters (toString n), none, none⟩

def Value.ofNat (n : Nat) : Value :=
  .number (.ofNat n)

theorem bytes_eq_letters {s : String} (ascii : ∀ c ∈ s.toList, c.toNat < 0x80) :
    Utf8.bytes s = letters s := by
  have each : ∀ cs : List Char, (∀ c ∈ cs, c.toNat < 0x80) →
      cs.flatMap String.utf8EncodeChar = cs.map fun c => UInt8.ofNat c.toNat := by
    intro cs
    induction cs with
    | nil => exact fun _ => rfl
    | cons c cs ih =>
      intro ascii
      have here : String.utf8EncodeChar c = [UInt8.ofNat c.toNat] := by
        simpa using Utf8.encode_ascii (ascii c (by simp))
      rw [List.flatMap_cons, List.map_cons, here, ih fun x hx =>
        ascii x (List.mem_cons_of_mem _ hx)]
      rfl
  exact each s.toList ascii

theorem someDigits_toString (n : Nat) : SomeDigits (letters (toString n)) where
  nonempty := mt List.map_eq_nil_iff.1 (Digits.toList_toString_ne_nil n)
  digits := by
    intro d hd
    obtain ⟨c, digit, rfl⟩ := List.mem_map.1 hd
    have range := Digits.range (Digits.isDigit_of_mem_toString digit)
    rw [UInt8.toNat_ofNat']
    omega

theorem letters_toString_of_zero {n : Nat} (h : (letters (toString n)).head? = some 0x30) :
    letters (toString n) = [0x30] := by
  rw [letters, List.head?_map] at h
  obtain ⟨c, front, zero⟩ := Option.map_eq_some_iff.1 h
  have range := Digits.range (Digits.isDigit_of_mem_toString (List.mem_of_head? front))
  have byte := congrArg UInt8.toNat zero
  rw [UInt8.toNat_ofNat'] at byte
  have same : c = '0' := by
    refine (Char.ofNat_toNat c).symm.trans (congrArg Char.ofNat ?_)
    show c.toNat = 0x30
    have : (0x30 : UInt8).toNat = 0x30 := rfl
    omega
  rw [same, Nat.toString_eq_ofList_toDigits, String.toList_ofList] at front
  rw [Digits.eq_zero_of_head_toDigits front]
  rfl

theorem ofNat_written (n : Nat) : Written (.ofNat n) (Utf8.bytes (toString n)) := by
  have numeral := @WrittenNumeral.intro (.ofNat n) [] []
    (someDigits_toString n) letters_toString_of_zero .none .none
  have ascii : ∀ c ∈ (toString n).toList, c.toNat < 0x80 := by
    intro c hc
    have range := Digits.range (Digits.isDigit_of_mem_toString hc)
    omega
  have plain := Written.number numeral
  rw [List.append_nil, List.append_nil] at plain
  rw [bytes_eq_letters ascii]
  exact plain

theorem number_ofNat {n : Nat} (fits : n ≤ maxUnsigned) (after : List UInt8) :
    (Numeral.ofNat n).number after = .ok (.integer n) := by
  have whole : appendDigits maxUnsigned 0 (letters (toString n)) = (n, []) := by
    have read := @appendDigits_digits maxUnsigned 0 (toString n).toList (fun c hc =>
      Digits.isDigit_of_mem_toString hc)
      (by rwa [Digits.ofDigitChars_toString])
    rwa [Digits.ofDigitChars_toString] at read
  simp only [Numeral.number, Numeral.ofNat, whole, and_self, if_true, Bool.not_false]

theorem anUnsigned_gives {bits n : Nat} (small : n < Nat.pow 2 bits) (fits : n ≤ maxUnsigned) :
    (anUnsigned bits).Gives (.ofNat n) (some n) := by
  intro w gap rest written blank stop
  show readUnsigned bits (gap ++ (w ++ rest)) = .ok (n, rest)
  have front := written.skipBlanks blank rest
  obtain ⟨b, more, same, starts⟩ := written.exists_cons
  cases written with
  | number numeral =>
    have read := numeral_written numeral .endInValue stop
    have first : b = minusSign ∨ isDigit b = true := starts
    subst same
    rw [readUnsigned, front]
    rw [List.cons_append] at read ⊢
    have whole : (0 : Int) ≤ n ∧ (n : Int) < Nat.pow 2 bits := by omega
    simp only [if_pos first, read, number_ofNat fits, if_pos whole, Int.toNat_natCast]

/-! ### Variants -/

theorem aVariant_gives {variants : List (String × α)} {name : String} {a : α}
    (known : pick variants name = some a) :
    (aVariant variants).Gives (.text name) (some a) := by
  intro w gap rest written blank stop
  show readVariant variants (gap ++ (w ++ rest)) = .ok (a, rest)
  have front := written.skipBlanks blank rest
  cases written with
  | text quoted =>
    obtain @⟨body, spelled⟩ := quoted
    rw [readVariant, front]
    simp only [List.cons_append, List.append_assoc, List.nil_append, if_true, variantName,
      text_spelled spelled rest, known]

end KeyRelay.Json
