import KeyRelay.Change
import KeyRelay.Proofs.Base64
import KeyRelay.Proofs.Json.Printer
import KeyRelay.Proofs.Json.Record

/-!
What an input and a message body stand for. An input that is a written JSON object is decoded by its
members alone: the texts under `Key` and `Value` decide, and nothing about the way they are written.
A body that announces a change reads back as that change.
-/

namespace KeyRelay

open Json

/-! ### Payloads -/

namespace WatchPayload

/-- What the fields of a payload make of a value. -/
def meaning (name : String) (p : WatchPayload) (v : Value) : Option WatchPayload :=
  if name = "Key" then v.text?.map fun key => { p with key }
  else if name = "Value" then v.textOrNull?.map fun value => { p with value }
  else none

theorem shape_means : ∀ f ∈ shape.fields, f.Means (meaning f.name) := by
  rintro f (_ | ⟨_, _ | ⟨_, ⟨⟩⟩⟩)
  · exact Field.of_means (aText_gives "a string") "Key" .required _
  · exact Field.of_means (anOption_aText_gives "a string") "Value" .nullable _

/-- Whether a field of a payload reads a value. -/
def reads (name : String) (v : Value) : Bool :=
  if name = "Key" then v.text?.isSome else if name = "Value" then v.textOrNull?.isSome else false

theorem isSome_meaning (name : String) (p : WatchPayload) (v : Value) :
    (meaning name p v).isSome = reads name v := by
  rw [meaning, reads]
  split
  · simp
  · split <;> simp

section
variable {ms : List (String × Value)} {p : WatchPayload}

theorem gather_key (h : shape.gather meaning [] shape.blank ms = some p) :
    ∃ v, valuesOf "Key" ms = [v] ∧ v.text? = some p.key := by
  refine Shape.gather_required isSome_meaning List.mem_cons_self rfl ?_ ?_ h
  · intro p v p' updated
    obtain ⟨key, read, rfl⟩ := Option.map_eq_some_iff.1 updated
    exact read
  · intro other p v p' (ne : other ≠ "Key") updated
    rw [meaning, if_neg ne] at updated
    split at updated
    · obtain ⟨value, -, rfl⟩ := Option.map_eq_some_iff.1 updated
      rfl
    · cases updated

theorem gather_value (h : shape.gather meaning [] shape.blank ms = some p) :
    (valuesOf "Value" ms = [] ∧ p.value = none) ∨
    ∃ v, valuesOf "Value" ms = [v] ∧ v.textOrNull? = some p.value := by
  have fits : Shape.Fits .nullable ("Value" ∈ []) (reads "Value") (valuesOf "Value" ms) :=
    (@Shape.isSome_gather _ shape _ _ isSome_meaning ms [] _).1 (by rw [h]; rfl) _
      (List.mem_cons_of_mem _ List.mem_cons_self)
  have becomes :=
    (@Shape.part_gather _ _ shape meaning "Value" (·.value) Value.textOrNull? rfl ?_ ?_ ms
      [] _ p h).2
  · rcases fits.settled (by simp) becomes with ⟨none, -, same⟩ | settled
    · exact .inl ⟨none, same⟩
    · exact .inr settled
  · intro p v p' updated
    rw [meaning, if_neg (by decide), if_pos rfl] at updated
    obtain ⟨value, read, rfl⟩ := Option.map_eq_some_iff.1 updated
    exact read
  · intro other p v p' ne updated
    rw [meaning, if_neg ne] at updated
    split at updated
    · obtain ⟨key, -, rfl⟩ := Option.map_eq_some_iff.1 updated
      rfl
    · cases updated

end

/-- The payloads that hold a value are those with one text under each of the two names. -/
theorem gather_eq_some {ms : List (String × Value)} {k s : String} :
    shape.gather meaning [] shape.blank ms = some ⟨k, some s⟩ ↔
      valuesOf "Key" ms = [.text k] ∧ valuesOf "Value" ms = [.text s] := by
  constructor
  · intro h
    obtain ⟨v, key, read⟩ := gather_key h
    rw [key, Value.text?_eq_some.1 read]
    rcases gather_value h with ⟨-, none⟩ | ⟨w, value, read⟩
    · cases none
    · rw [value, Value.textOrNull?_eq_some.1 read]
      exact ⟨rfl, rfl⟩
  · rintro ⟨key, value⟩
    have fits : (shape.gather meaning [] shape.blank ms).isSome := by
      refine (Shape.isSome_gather isSome_meaning ms [] shape.blank).2 ?_
      rintro f (_ | ⟨_, _ | ⟨_, ⟨⟩⟩⟩)
      · show Shape.Fits .required ("Key" ∈ []) (reads "Key") (valuesOf "Key" ms)
        rw [key]
        exact ⟨by simp, rfl⟩
      · show Shape.Fits .nullable ("Value" ∈ []) (reads "Value") (valuesOf "Value" ms)
        rw [value]
        exact ⟨by simp, rfl⟩
    obtain ⟨p, gathered⟩ := Option.isSome_iff_exists.1 fits
    rw [gathered]
    obtain ⟨v, key', read⟩ := gather_key gathered
    have same : p.key = k := by
      rw [key] at key'
      cases key'
      exact (Option.some.inj read).symm
    have held : p.value = some s := by
      rcases gather_value gathered with ⟨none, -⟩ | ⟨w, value', read⟩
      · rw [value] at none
        cases none
      · rw [value] at value'
        cases value'
        exact (Option.some.inj read).symm
    rw [← same, ← held]

end WatchPayload

/-! ### Changes -/

namespace KeyChange

/-- A value is decoded to the text whose Base64 it is, blanks around it aside. -/
theorem ofPayload_eq_ok {k s v : String} :
    ofPayload ⟨k, some s⟩ = .ok ⟨k, v⟩ ↔
    Utf8.bytes (Blank.trim s) = Base64.encode (Utf8.bytes v) := by
  rw [← Base64.decode_eq_ok]
  simp only [ofPayload]
  cases decoded : Base64.decode (Utf8.bytes (Blank.trim s)) with
  | error f => simp
  | ok bytes =>
    simp only [Except.ok.injEq, ← Utf8.decode_eq_ok]
    cases read : Utf8.decode bytes <;> simp

/-- A value that is not the Base64 of a text is refused for that. -/
theorem ofPayload_eq_decode {k s : String}
    (noText : ¬∃ v, Utf8.bytes (Blank.trim s) = Base64.encode (Utf8.bytes v)) :
    ∃ reason, ofPayload ⟨k, some s⟩ = .error (.decode reason) := by
  simp only [ofPayload]
  cases decoded : Base64.decode (Utf8.bytes (Blank.trim s)) with
  | error f => exact ⟨f.message, rfl⟩
  | ok bytes =>
    cases read : Utf8.decode bytes with
    | error f => exact ⟨"value is not UTF-8: " ++ f.message, by simp only [read]⟩
    | ok v =>
      obtain rfl := Utf8.decode_eq_ok.1 read
      exact absurd ⟨v, Base64.decode_eq_ok.1 decoded⟩ noText

/-- An input that is an object is not blank. -/
theorem all_isBlankByte_eq_false {ms : List (String × Value)} {document : List UInt8}
    (written : WrittenDocument (.object ms) document) : document.all isBlankByte = false := by
  obtain @⟨a, w, b, -, value, -⟩ := written
  obtain ⟨x, more, rfl, starts⟩ := value.exists_cons
  obtain rfl : x = openObject := starts
  have here : isBlankByte openObject = false := by decide
  simp [here]

section
variable {ms : List (String × Value)} {document : List UInt8}

/-- An input that is an object stands for what its payload stands for. -/
theorem ofWatchJson_eq_ofPayload (written : WrittenDocument (.object ms) document)
    {p : WatchPayload}
    (gathered : WatchPayload.shape.gather WatchPayload.meaning [] WatchPayload.shape.blank ms =
      some p) :
    ofWatchJson document = ofPayload p := by
  have gives : (anOption WatchPayload.shape.reader).Gives (.object ms) (some (some p)) := by
    have inner := Shape.reader_gives WatchPayload.shape_means ms
    rw [gathered] at inner
    exact inner.anOption (by simp)
  rw [ofWatchJson, all_isBlankByte_eq_false written]
  simp only [Bool.false_eq_true, if_false, document_eq_ok gives written]

/-- An input that is an object but no payload is refused. -/
theorem ofWatchJson_eq_input (written : WrittenDocument (.object ms) document)
    (gathered : WatchPayload.shape.gather WatchPayload.meaning [] WatchPayload.shape.blank ms =
      none) :
    ∃ reason, ofWatchJson document = .error (.input reason) := by
  have gives : (anOption WatchPayload.shape.reader).Gives (.object ms) none := by
    have inner := Shape.reader_gives WatchPayload.shape_means ms
    rw [gathered] at inner
    exact inner.anOption (by simp)
  obtain ⟨f, read⟩ := document_eq_error gives written
  rw [ofWatchJson, all_isBlankByte_eq_false written]
  simp only [Bool.false_eq_true, if_false, read]
  exact ⟨_, rfl⟩

end

/-- What becomes of an input that is an object, however it is written. With one text under `Key` and
one under `Value` the change is decoded, or the value is refused; with anything else under them, the
input is. -/
theorem ofWatchJson_object {members : List (String × Value)} {document : List UInt8}
    (written : WrittenDocument (.object members) document) :
    (∀ k s, valuesOf "Key" members = [.text k] → valuesOf "Value" members = [.text s] →
      (∀ v, Utf8.bytes (Blank.trim s) = Base64.encode (Utf8.bytes v) →
        ofWatchJson document = .ok ⟨k, v⟩) ∧
      ((¬∃ v, Utf8.bytes (Blank.trim s) = Base64.encode (Utf8.bytes v)) →
        ∃ reason, ofWatchJson document = .error (.decode reason))) ∧
    ((¬∃ k s, valuesOf "Key" members = [.text k] ∧ valuesOf "Value" members = [.text s]) →
      ∃ reason, ofWatchJson document = .error (.input reason)) := by
  constructor
  · intro k s key value
    rw [ofWatchJson_eq_ofPayload written (WatchPayload.gather_eq_some.2 ⟨key, value⟩)]
    exact ⟨fun v => ofPayload_eq_ok.2, ofPayload_eq_decode⟩
  · intro other
    cases gathered : WatchPayload.shape.gather WatchPayload.meaning [] WatchPayload.shape.blank
        members with
    | none => exact ofWatchJson_eq_input written gathered
    | some p =>
      rw [ofWatchJson_eq_ofPayload written gathered]
      obtain ⟨k, value⟩ := p
      cases value with
      | none => exact ⟨_, rfl⟩
      | some s => exact absurd ⟨k, s, WatchPayload.gather_eq_some.1 gathered⟩ other

/-- Blanks, an escape and a member of another name. -/
theorem ofWatchJson_object_escaped :
    ofWatchJson (Utf8.bytes " \x7b\"x\":[null], \"Value\":\"aA==\",\"Key\":\"\\u006b\"\x7d") =
      .ok ⟨"k", "h"⟩ := by
  have number : FourHex 'k'.toNat [0x30, 0x30, 0x36, 0x62] :=
    ⟨.digit (by decide) rfl, .digit (by decide) rfl, .digit (by decide) rfl,
      .lower (by decide) (by decide) rfl⟩
  have spelled : Spelled ['k'] [backslash, unicodeMark, 0x30, 0x30, 0x36, 0x62] :=
    .numeric number .done
  have key : QuotedText "k" (Utf8.bytes "\"\\u006b\"") := @QuotedText.intro "k" _ spelled
  have space : Blanks [0x20] := by simp [Blanks]
  have written :=
    WrittenDocument.intro space
    (.object (.cons blanks_nil (quoted_written "x") blanks_nil blanks_nil
    (.list (.one blanks_nil .null blanks_nil)) blanks_nil
    (.cons space (quoted_written "Value") blanks_nil blanks_nil
      (.text (quoted_written "aA==")) blanks_nil
      (.one blanks_nil (quoted_written "Key") blanks_nil blanks_nil (.text key) blanks_nil))))
        blanks_nil
  have decoded := ((ofWatchJson_object written).1 "k" "aA==" rfl rfl).1 "h" (by decide)
  refine Eq.trans (congrArg ofWatchJson ?_) decoded
  decide

end KeyChange

/-! ### Messages -/

namespace ChangeMessage

/-- What the fields of a message make of a value. -/
def meaning (name : String) (m : ChangeMessage) (v : Value) : Option ChangeMessage :=
  if name = "key" then v.text?.map fun key => { m with key }
  else if name = "value" then v.text?.map fun value => { m with value }
  else none

theorem shape_means : ∀ f ∈ shape.fields, f.Means (meaning f.name) := by
  rintro f (_ | ⟨_, _ | ⟨_, ⟨⟩⟩⟩)
  · exact Field.of_means (aText_gives "a string") "key" .required _
  · exact Field.of_means (aText_gives "a string") "value" .required _

/-- A body is an object with the two members of its message, in this order. -/
theorem toBody_written (m : ChangeMessage) :
    WrittenDocument (.object [("key", .text m.key), ("value", .text m.value)]) m.toBody := by
  have object := object_written [("key", .text m.key, quoted m.key),
      ("value", .text m.value, quoted m.value)] (by
    rintro x (_ | ⟨_, _ | ⟨_, ⟨⟩⟩⟩)
    · exact .text (quoted_written m.key)
    · exact .text (quoted_written m.value))
  have whole := WrittenDocument.intro blanks_nil object blanks_nil
  rw [List.nil_append, List.append_nil] at whole
  exact whole

/-- What is published reads back. -/
theorem ofBody_toBody (m : ChangeMessage) : ofBody m.toBody = .ok m := by
  have gives := Shape.reader_gives shape_means [("key", .text m.key), ("value", .text m.value)]
  have gathered : shape.gather meaning [] shape.blank [("key", .text m.key),
    ("value", .text m.value)] = some m := rfl
  rw [gathered] at gives
  rw [ofBody, document_eq_ok gives m.toBody_written]

end ChangeMessage

end KeyRelay
