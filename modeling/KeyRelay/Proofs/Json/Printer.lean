import KeyRelay.Json.Printer
import KeyRelay.Proofs.Json.Token

/-!
What the printer writes is JSON: strings with their escapes, and objects whose members are written
values.
-/

namespace KeyRelay.Json

theorem hexDigit_written {n : Nat} (h : n < 16) :
    ∃ b, String.utf8EncodeChar (hexDigit n) = [b] ∧ HexDigit n b := by
  rw [hexDigit]
  split
  · next small =>
    refine ⟨_, Utf8.encode_ascii (by omega), .digit small ?_⟩
    rw [UInt8.toNat_ofNat']
    omega
  · next large =>
    refine ⟨_, Utf8.encode_ascii (by omega), .lower (by omega) h ?_⟩
    rw [UInt8.toNat_ofNat']
    omega

theorem eq_of_toNat {c : Char} {n : Nat} (h : c.toNat = n) : c = Char.ofNat n := by
  rw [← h, Char.ofNat_toNat]

/-- A character is written as the grammar allows. -/
theorem spelled_escape (c : Char) {cs : List Char} {body : List UInt8} (rest : Spelled cs body) :
    Spelled (c :: cs) ((escape c).flatMap String.utf8EncodeChar ++ body) := by
  rw [escape]
  split
  · next h =>
    subst h
    exact @Spelled.short '"' '"' cs body (by decide) rest
  split
  · next h =>
    subst h
    exact @Spelled.short '\\' '\\' cs body (by decide) rest
  split
  · next h =>
    subst h
    exact @Spelled.short 'n' '\n' cs body (by decide) rest
  split
  · next h =>
    subst h
    exact @Spelled.short 'r' '\r' cs body (by decide) rest
  split
  · next h =>
    subst h
    exact @Spelled.short 't' '\t' cs body (by decide) rest
  split
  · next h =>
    obtain rfl := eq_of_toNat h
    exact @Spelled.short 'b' '\x08' cs body (by decide) rest
  split
  · next h =>
    obtain rfl := eq_of_toNat h
    exact @Spelled.short 'f' '\x0C' cs body (by decide) rest
  split
  · next control =>
    obtain ⟨x, writtenX, digitX⟩ := @hexDigit_written (c.toNat / 16) (by omega)
    obtain ⟨y, writtenY, digitY⟩ := @hexDigit_written (c.toNat % 16) (by omega)
    have third : c.toNat / 0x10 % 0x10 = c.toNat / 16 := by omega
    have number : FourHex c.toNat [0x30, 0x30, x, y] :=
      ⟨.digit (by omega) (by simp; omega), .digit (by omega) (by simp; omega),
        by rw [third]; exact digitX, digitY⟩
    have numeric := Spelled.numeric number rest
    have bytes : ['\\', 'u', '0', '0', hexDigit (c.toNat / 16), hexDigit (c.toNat % 16)].flatMap
        String.utf8EncodeChar = backslash :: unicodeMark :: [0x30, 0x30, x, y] := by
      simp only [List.flatMap_cons, List.flatMap_nil, writtenX, writtenY]
      rfl
    rw [bytes]
    exact numeric
  · next quote slash _ _ _ _ _ plain =>
    have raw := Spelled.raw ⟨by omega, quote, slash⟩ rest
    simpa using raw

/-- A quoted text is a string that denotes it. -/
theorem quoted_written (s : String) : QuotedText s (Utf8.bytes (quoted s)) := by
  have spelled : ∀ cs : List Char,
      Spelled cs ((cs.flatMap escape).flatMap String.utf8EncodeChar) := by
    intro cs
    induction cs with
    | nil => exact .done
    | cons c cs ih =>
      rw [List.flatMap_cons, List.flatMap_append]
      exact spelled_escape c ih
  have bytes : Utf8.bytes (quoted s) =
      quoteMark :: ((s.toList.flatMap escape).flatMap String.utf8EncodeChar ++ [quoteMark]) := by
    rw [quoted, Utf8.bytes_append, Utf8.bytes_append, Utf8.bytes_ofList (s.toList.flatMap escape)]
    rfl
  rw [bytes]
  exact .intro (spelled s.toList)

/-- A member as the printer writes it. -/
def memberText (m : String × Value × String) : String :=
  quoted m.1 ++ ":" ++ m.2.2

theorem members_written {m : String × Value × String} {ms : List (String × Value × String)}
    (written : ∀ x ∈ m :: ms, Written x.2.1 (Utf8.bytes x.2.2)) :
    WrittenMembers ((m :: ms).map fun x => (x.1, x.2.1))
      (Utf8.bytes (",".intercalate ((m :: ms).map memberText))) := by
  have member : ∀ x : String × Value × String,
      Utf8.bytes (memberText x) = Utf8.bytes (quoted x.1) ++ colon :: Utf8.bytes x.2.2 := by
    intro x
    rw [memberText, Utf8.bytes_append, Utf8.bytes_append, List.append_assoc]
    rfl
  induction ms generalizing m with
  | nil =>
    have one := WrittenMembers.one blanks_nil (quoted_written m.1) blanks_nil blanks_nil
      (written m (by simp)) blanks_nil
    simpa [member] using one
  | cons next ms ih =>
    have rest := ih fun x hx => written x (List.mem_cons_of_mem _ hx)
    have cons := WrittenMembers.cons blanks_nil (quoted_written m.1) blanks_nil blanks_nil
      (written m (by simp)) blanks_nil rest
    have comma' : Utf8.bytes "," = [comma] := rfl
    show WrittenMembers _ (Utf8.bytes
      (",".intercalate (memberText m :: memberText next :: ms.map memberText)))
    rw [String.intercalate_cons_cons, Utf8.bytes_append, Utf8.bytes_append, member, comma']
    simpa using cons

/-- An object as the printer writes it. -/
theorem object_written (ms : List (String × Value × String))
    (written : ∀ x ∈ ms, Written x.2.1 (Utf8.bytes x.2.2)) :
    Written (.object (ms.map fun x => (x.1, x.2.1)))
      (Utf8.bytes (object (ms.map fun x => (x.1, x.2.2)))) := by
  have bytes : Utf8.bytes (object (ms.map fun x => (x.1, x.2.2))) =
      openObject :: (Utf8.bytes (",".intercalate (ms.map memberText)) ++ [closeObject]) := by
    rw [object, Utf8.bytes_append, Utf8.bytes_append, List.map_map]
    rfl
  rw [bytes]
  cases ms with
  | nil => exact .emptyObject blanks_nil
  | cons m ms => exact .object (members_written written)

end KeyRelay.Json
