import KeyRelay.Proofs.Base64.Canonical
import KeyRelay.Proofs.Change
import KeyRelay.Proofs.Text.Blank

/-!
What the value of a payload is decoded to. Blanks around it aside, it has to be the canonical Base64
of a text, which is then the value of the change; so decoding undoes encoding, and a change tells
what its payload held.
-/

namespace KeyRelay.KeyChange

open Base64 (Canonical)

/-- The key of a payload is taken over. -/
theorem key_of_ofPayload {p : WatchPayload} {c : KeyChange} (h : ofPayload p = .ok c) :
    c.key = p.key := by
  simp only [ofPayload] at h
  repeat' split at h
  all_goals cases h
  rfl

theorem ofPayload_eq_ok_iff {k s : String} {c : KeyChange} :
    ofPayload ⟨k, some s⟩ = .ok c ↔ c.key = k ∧
    Canonical (Blank.trim s).toList (Utf8.bytes c.value) := by
  rw [Base64.canonical_iff]
  constructor
  · intro h
    obtain ⟨key, v⟩ := c
    obtain rfl : key = k := key_of_ofPayload h
    exact ⟨rfl, ofPayload_eq_ok.1 h⟩
  · rintro ⟨rfl, written⟩
    exact ofPayload_eq_ok.2 written

/-- What comes of a payload. A value is decoded to a text exactly if it is the canonical Base64 of
that text with blanks around it; it is refused if there is no such text, and so is a payload without
value. Every text is the value of some payload, whatever blanks are put around its Base64, and is
that of one only, such blanks aside. -/
theorem ofPayload_reads_canonical (k : String) :
    (∀ s c, ofPayload ⟨k, some s⟩ = .ok c ↔
      c.key = k ∧ Canonical (Blank.trim s).toList (Utf8.bytes c.value)) ∧
    (∀ s, (¬∃ v, Canonical (Blank.trim s).toList (Utf8.bytes v)) →
      ∃ reason, ofPayload ⟨k, some s⟩ = .error (.decode reason)) ∧
    (∃ reason, ofPayload ⟨k, none⟩ = .error (.input reason)) ∧
    (∀ v, ∃ text : String, Canonical text.toList (Utf8.bytes v) ∧
      ∀ front back, Blank.isBlankText front = true → Blank.isBlankText back = true →
        ofPayload ⟨k, some (front ++ text ++ back)⟩ = .ok ⟨k, v⟩) ∧
    (∀ s k' s' c c', ofPayload ⟨k, some s⟩ = .ok c → ofPayload ⟨k', some s'⟩ = .ok c' →
      c.value = c'.value →
      Blank.trim s = Blank.trim s') := by
  refine ⟨fun s c => ofPayload_eq_ok_iff, fun s none => ?_, ⟨_, rfl⟩, fun v =>
    ?_, fun s k' s' c c' h h' same => ?_⟩
  · refine ofPayload_eq_decode fun ⟨v, written⟩ => none ⟨v, Base64.canonical_iff.2 written⟩
  · obtain ⟨cs, canonical⟩ := Base64.exists_canonical (Utf8.bytes v)
    rw [← String.toList_ofList (l := cs)] at canonical
    refine ⟨String.ofList cs, canonical, fun front back before after =>
      ofPayload_eq_ok_iff.2 ⟨rfl, ?_⟩⟩
    rw [Blank.trim_append before after canonical.solid]
    exact canonical
  · have written := Base64.canonical_iff.1 (ofPayload_eq_ok_iff.1 h).2
    have written' := Base64.canonical_iff.1 (ofPayload_eq_ok_iff.1 h').2
    rw [same, ← written'] at written
    exact Utf8.bytes_injective written

/-- Blanks around the text are allowed, one within it is not. -/
example : ofPayload ⟨"k", some " aGk= \n"⟩ = .ok ⟨"k", "hi"⟩ ∧
    ofPayload ⟨"k", some "aG k="⟩ = .error (.decode "Invalid symbol 32, offset 2.") := by
  decide

end KeyRelay.KeyChange
