import KeyRelay.Proofs.Change

/-!
What is published. The body of a message is one compact object: two members in a fixed order,
nothing between the tokens, and no control byte anywhere. It reads back as the message, so it tells
the change it announces.
-/

namespace KeyRelay

open Json

namespace ChangeMessage

/-- The bytes are an object with the two texts of the message under `key` and `value`, in this order
and with nothing between the tokens. -/
inductive Compact (m : ChangeMessage) : List UInt8 → Prop where
  | intro {key value : List UInt8} (first : QuotedText m.key key)
      (second : QuotedText m.value value) :
      Compact m (letters "\x7b\"key\":" ++ key ++ letters ",\"value\":" ++ value ++ letters "\x7d")

theorem toBody_compact (m : ChangeMessage) : Compact m m.toBody := by
  have compact := Compact.intro (quoted_written m.key) (quoted_written m.value)
  have opening : letters "\x7b\"key\":" = Utf8.bytes "\x7b" ++
      (Utf8.bytes (quoted "key") ++ Utf8.bytes ":") := by
    decide
  have between : letters ",\"value\":" = Utf8.bytes "," ++
    (Utf8.bytes (quoted "value") ++ Utf8.bytes ":") := by decide
  have closing : letters "\x7d" = Utf8.bytes "\x7d" := by decide
  rw [opening, between, closing] at compact
  simpa only [toBody, toJson, object, List.map_cons, List.map_nil, String.intercalate_cons_cons,
    String.intercalate_singleton, Utf8.bytes_append, List.append_assoc] using compact

/-- Only bytes of strings and the marks between them stand in a body. -/
theorem Compact.solid {m : ChangeMessage} {body : List UInt8} (h : Compact m body) :
    ∀ b ∈ body, 0x20 ≤ b := by
  obtain ⟨first, second⟩ := h
  have marks {s : String} (h : (letters s).all (fun b => 0x20 ≤ b) = true) :
      ∀ b ∈ letters s, 0x20 ≤ b := by
    simpa using h
  simp only [List.mem_append, or_imp, forall_and]
  exact ⟨⟨⟨⟨marks rfl, first.loose.solid⟩, marks rfl⟩, second.loose.solid⟩, marks rfl⟩

end ChangeMessage

namespace KeyChange

/-- What is published for a change: text without controls, which is the compact object of its key
and value and reads back as them. So different changes never have the same body. Every message that
was read from some body is read again from the body it is written as. -/
theorem toBody_reads_back :
    (∀ c : KeyChange, (∃ text, Utf8.decode c.toBody = .ok text) ∧ (∀ b ∈ c.toBody, 0x20 ≤ b) ∧
      ChangeMessage.Compact ⟨c.key, c.value⟩ c.toBody ∧
      ChangeMessage.ofBody c.toBody = .ok ⟨c.key, c.value⟩) ∧
    Function.Injective toBody ∧
    ∀ body m, ChangeMessage.ofBody body = .ok m → ChangeMessage.ofBody m.toBody = .ok m := by
  have back (c : KeyChange) : ChangeMessage.ofBody c.toBody = .ok ⟨c.key, c.value⟩ :=
    c.toMessage.ofBody_toBody
  refine ⟨fun c => ⟨⟨_, Utf8.decode_bytes _⟩, c.toMessage.toBody_compact.solid,
    c.toMessage.toBody_compact, back c⟩, ?_, fun _ m _ => m.ofBody_toBody⟩
  intro c c' same
  have read := back c
  rw [same, back c'] at read
  cases c
  cases c'
  cases read
  rfl

end KeyChange

end KeyRelay
