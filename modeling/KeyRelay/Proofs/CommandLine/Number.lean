import KeyRelay.CommandLine.Number
import KeyRelay.Proofs.Text.Digits

/-!
The texts that stand for a number. A reader of numbers takes each of them for the number, if that is
not too large.
-/

namespace KeyRelay.CommandLine

/-- Digits for a number; zeros may stand before it. -/
structure Numeral (n : Nat) (cs : List Char) : Prop where
  nonempty : cs ≠ []
  digits : ∀ c ∈ cs, c.isDigit = true
  value : Nat.ofDigitChars 10 cs 0 = n

/-- The texts of a number: digits, after a plus sign or none. -/
inductive Denotes (n : Nat) : String → Prop where
  | plain {cs : List Char} (numeral : Numeral n cs) : Denotes n (String.ofList cs)
  | plus {cs : List Char} (numeral : Numeral n cs) : Denotes n (String.ofList ('+' :: cs))

theorem numeral_toString (n : Nat) : Numeral n (toString n).toList where
  nonempty := Digits.toList_toString_ne_nil n
  digits _ := Digits.isDigit_of_mem_toString
  value := Digits.ofDigitChars_toString n

theorem denotes_toString (n : Nat) : Denotes n (toString n) := by
  have plain := Denotes.plain (numeral_toString n)
  rwa [String.ofList_toList] at plain

theorem digitValue?_of_isDigit {c : Char} (h : c.isDigit = true) :
    digitValue? c = some (c.toNat - '0'.toNat) := by
  rw [Char.isDigit, Bool.and_eq_true, decide_eq_true_iff, decide_eq_true_iff] at h
  exact if_pos h

theorem appendDigits_eq_ok {bound m : Nat} {beyond : NumberFault} {cs : List Char}
    (all : ∀ c ∈ cs, c.isDigit = true) (fits : Nat.ofDigitChars 10 cs m ≤ bound) :
    appendDigits bound beyond m cs = .ok (Nat.ofDigitChars 10 cs m) := by
  induction cs generalizing m with
  | nil => rfl
  | cons c cs ih =>
    rw [Nat.ofDigitChars_cons] at fits ⊢
    have next := Digits.le_ofDigitChars cs (10 * m + (c.toNat - '0'.toNat))
    rw [appendDigits, digitValue?_of_isDigit (all c (by simp)), Nat.mul_comm m 10]
    simp only [if_neg (show ¬bound < 10 * m + (c.toNat - '0'.toNat) by omega)]
    exact ih (fun x hx => all x (List.mem_cons_of_mem _ hx)) fits

section
variable {n bound : Nat}

theorem Numeral.magnitude_eq {cs : List Char} (h : Numeral n cs) (fits : n ≤ bound)
    (beyond : NumberFault) :
    magnitude bound beyond cs = .ok n := by
  obtain ⟨nonempty, digits, rfl⟩ := h
  rw [magnitude, if_neg nonempty, appendDigits_eq_ok digits fits]

/-- A numeral starts with no sign. -/
theorem Numeral.exists_cons {cs : List Char} (h : Numeral n cs) :
    ∃ c more, cs = c :: more ∧ c ≠ '+' ∧ c ≠ '-' := by
  cases cs with
  | nil => exact absurd rfl h.nonempty
  | cons c more =>
    have digit := h.digits c (by simp)
    refine ⟨c, more, rfl, ?_, ?_⟩ <;> rintro rfl <;> exact absurd digit (by decide)

theorem Denotes.readUnsigned_eq {v : String} (h : Denotes n v) {bits : Nat}
    (fits : n < Nat.pow 2 bits) :
    readUnsigned bits v = .ok n := by
  have small : n ≤ Nat.pow 2 bits - 1 := by omega
  cases h with
  | plain numeral =>
    obtain ⟨c, more, rfl, noPlus, -⟩ := numeral.exists_cons
    rw [readUnsigned, String.toList_ofList]
    split
    · next empty => cases empty
    · next same => exact absurd (List.cons.inj same).1 noPlus
    · exact numeral.magnitude_eq small _
  | plus numeral =>
    rw [readUnsigned, String.toList_ofList]
    exact numeral.magnitude_eq small _

theorem Denotes.readUpTo_eq {v : String} (h : Denotes n v) (small : n ≤ bound)
    (fits : n ≤ Nat.pow 2 63 - 1) :
    readUpTo bound v = .ok n := by
  have within : (0 : Int) ≤ n ∧ (n : Int) ≤ bound := by omega
  cases h with
  | plain numeral =>
    obtain ⟨c, more, rfl, noPlus, noMinus⟩ := numeral.exists_cons
    rw [readUpTo, String.toList_ofList]
    split
    · next empty => cases empty
    · next same => exact absurd (List.cons.inj same).1 noPlus
    · next same => exact absurd (List.cons.inj same).1 noMinus
    · rw [numeral.magnitude_eq fits]
      exact if_pos within
  | plus numeral =>
    rw [readUpTo, String.toList_ofList]
    simp only [numeral.magnitude_eq fits]
    exact if_pos within

end

end KeyRelay.CommandLine
