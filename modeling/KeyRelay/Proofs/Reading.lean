import KeyRelay.Proofs.Acceptance

/-!
A payload that was read, and a change that is read from the same input. The reader of changes looks
for blanks first and allows for `null`, where the reader of payloads does neither; still both accept
the same documents (`ofWatchJson_follows_ofJson`), since a payload starts with a bracket. A payload
that is written reads back.
-/

namespace KeyRelay

open Json

namespace WatchPayload

variable {document : List UInt8} {p : WatchPayload}

theorem ofJson_eq_ok : ofJson document = .ok p ↔ shape.Document meaning p document :=
  Shape.document_reader_iff shape_takes shape_means shape_given

/-- Allowing for `null` makes no difference to the documents a payload is read from. -/
theorem document_anOption_eq_some : Json.document (anOption shape.reader) document = .ok (some p) ↔
    ofJson document = .ok p :=
  (Shape.document_anOption_iff shape_takes shape_means shape_given).trans ofJson_eq_ok.symm

/-- What the value of a payload is in JSON. -/
def valueJson : Option String → Value
  | some s => .text s
  | none => .null

theorem quotedOption_written (value : Option String) :
    Written (valueJson value) (Utf8.bytes (quotedOption value)) := by
  cases value with
  | none => exact .null
  | some s => exact .text (quoted_written s)

/-- A payload is written as an object with its two members, in this order. -/
theorem toJson_written (p : WatchPayload) :
    WrittenDocument (.object [("Key", .text p.key), ("Value", valueJson p.value)])
      (Utf8.bytes p.toJson) := by
  have object := object_written
    [("Key", .text p.key, quoted p.key), ("Value", valueJson p.value, quotedOption p.value)] (by
      rintro x (_ | ⟨_, _ | ⟨_, ⟨⟩⟩⟩)
      · exact .text (quoted_written p.key)
      · exact quotedOption_written p.value)
  have whole := WrittenDocument.intro blanks_nil object blanks_nil
  rw [List.nil_append, List.append_nil] at whole
  exact whole

/-- A payload that is written reads back. -/
theorem ofJson_toJson (p : WatchPayload) : ofJson (Utf8.bytes p.toJson) = .ok p := by
  have gathered : shape.gather meaning [] shape.blank [("Key", .text p.key),
      ("Value", valueJson p.value)] = some p := by
    obtain ⟨key, value⟩ := p
    cases value <;> rfl
  have gives := Shape.reader_gives shape_means [("Key", .text p.key), ("Value", valueJson p.value)]
  rw [gathered] at gives
  exact document_eq_ok gives p.toJson_written

end WatchPayload

namespace KeyChange

open WatchPayload (ofJson)

variable {document : List UInt8} {p : WatchPayload}

theorem all_isBlankByte_of_front {a more : List UInt8} {x : UInt8} (solid : isBlankByte x = false) :
    (a ++ (x :: more)).all isBlankByte = false := by
  simp [solid]

theorem all_isBlankByte_of_ofJson (read : ofJson document = .ok p) :
    document.all isBlankByte = false := by
  obtain @⟨a, w, b, -, spelled, -⟩ := WatchPayload.ofJson_eq_ok.1 read
  obtain ⟨x, more, rfl, opens⟩ := spelled.exists_cons
  exact all_isBlankByte_of_front (by rcases opens with rfl | rfl <;> decide)

theorem all_isBlankByte_of_null (written : WrittenDocument .null document) :
    document.all isBlankByte = false := by
  obtain @⟨a, w, b, -, value, -⟩ := written
  cases value
  exact all_isBlankByte_of_front (by decide)

/-- An input that is read as a payload stands for what the payload does. -/
theorem ofWatchJson_of_ofJson (read : ofJson document = .ok p) :
    ofWatchJson document = ofPayload p := by
  rw [ofWatchJson, all_isBlankByte_of_ofJson read]
  simp only [Bool.false_eq_true, if_false, WatchPayload.document_anOption_eq_some.2 read]

/-- An input that is not read as a payload is refused as an input. -/
theorem ofWatchJson_of_refused (refused : ∀ p, ofJson document ≠ .ok p) :
    ∃ reason, ofWatchJson document = .error (.input reason) := by
  rw [ofWatchJson]
  split
  · exact ⟨_, rfl⟩
  split
  · exact ⟨_, rfl⟩
  · exact ⟨_, rfl⟩
  next p read => exact absurd (WatchPayload.document_anOption_eq_some.1 read) (refused p)

theorem ofWatchJson_blank (blank : document.all isBlankByte = true) :
    ofWatchJson document = .error (.input "empty input") := by
  rw [ofWatchJson, if_pos blank]

theorem ofWatchJson_null (written : WrittenDocument .null document) :
    ofWatchJson document = .error (.input "watch payload is null") := by
  have read := document_eq_ok (anOption_null WatchPayload.shape.reader) written
  rw [ofWatchJson, all_isBlankByte_of_null written]
  simp only [Bool.false_eq_true, if_false, read]

/-- Where an input starts as `null` does not, it is refused in the words of the reader of
payloads. -/
theorem ofWatchJson_of_fault {f : Json.Fault} (fault : ofJson document = .error f)
    (solid : document.all isBlankByte = false) (other : (skipBlanks document).head? ≠ some 0x6E) :
    ofWatchJson document = .error (.input (f.message document)) := by
  have read : Json.document (anOption WatchPayload.shape.reader) document = .error f := by
    rw [Shape.document_anOption other, show Json.document WatchPayload.shape.reader document =
      _ from fault]
    rfl
  rw [ofWatchJson, solid]
  simp only [Bool.false_eq_true, if_false, read]

theorem ofPayload_ne_serialization (p : WatchPayload) (reason : String) :
    ofPayload p ≠ .error (.serialization reason) := by
  intro h
  rw [ofPayload] at h
  repeat' split at h
  all_goals cases h

theorem ofWatchJson_ne_serialization (document : List UInt8) (reason : String) :
    ofWatchJson document ≠ .error (.serialization reason) := by
  intro h
  cases read : ofJson document with
  | ok p => exact ofPayload_ne_serialization p reason (ofWatchJson_of_ofJson read ▸ h)
  | error f =>
    have none : ∀ p, ofJson document ≠ .ok p := by simp [read]
    obtain ⟨other, refused⟩ := ofWatchJson_of_refused none
    cases refused.symm.trans h

/-- The two readers of an input agree. One that is read as a payload stands for what the payload
does; any other is refused as an input, in the words of the reader of payloads unless it is blank or
starts as `null` does. A payload that is written is read back by both. -/
theorem ofWatchJson_follows_ofJson :
    (∀ document p, ofJson document = .ok p → ofWatchJson document = ofPayload p) ∧
    (∀ document f, ofJson document = .error f →
      ∃ reason, ofWatchJson document = .error (.input reason) ∧
      (document.all isBlankByte = true → reason = "empty input") ∧
      (WrittenDocument .null document → reason = "watch payload is null") ∧
      (document.all isBlankByte = false → (skipBlanks document).head? ≠ some 0x6E →
        reason = f.message document)) ∧
    (∀ document, document.all isBlankByte = true ∨ WrittenDocument .null document →
      ∃ f, ofJson document = .error f) ∧
    (∀ document reason, ofWatchJson document ≠ .error (.serialization reason)) ∧
    (∀ p : WatchPayload, ofJson (Utf8.bytes p.toJson) = .ok p ∧
      ofWatchJson (Utf8.bytes p.toJson) = ofPayload p) := by
  have same {document : List UInt8} {reason words : String}
      (refused : ofWatchJson document = .error (.input reason))
      (worded : ofWatchJson document = .error (.input words)) : reason = words := by
    cases refused.symm.trans worded
    rfl
  refine ⟨fun document p => ofWatchJson_of_ofJson, fun document f fault => ?_, fun document empty =>
    ?_, ofWatchJson_ne_serialization, fun p => ?_⟩
  · have none : ∀ p, ofJson document ≠ .ok p := by simp [fault]
    obtain ⟨reason, refused⟩ := ofWatchJson_of_refused none
    exact ⟨reason, refused, fun blank => same refused (ofWatchJson_blank blank),
      fun null => same refused (ofWatchJson_null null),
      fun solid other => same refused (ofWatchJson_of_fault fault solid other)⟩
  · cases read : ofJson document with
    | error f => exact ⟨f, rfl⟩
    | ok p =>
      rcases empty with blank | null
      · cases (all_isBlankByte_of_ofJson read).symm.trans blank
      · have option := WatchPayload.document_anOption_eq_some.2 read
        cases (document_eq_ok (anOption_null WatchPayload.shape.reader) null).symm.trans option
  · have read := p.ofJson_toJson
    exact ⟨read, ofWatchJson_of_ofJson read⟩

/-- A form feed is blank to the reader of changes alone. -/
example : ofWatchJson [0x0C] = .error (.input "empty input") ∧
    ∃ f, ofJson [0x0C] = .error f ∧ f.message [0x0C] = "expected value at line 1 column 1" :=
  ⟨rfl, _, rfl, rfl⟩

end KeyChange

end KeyRelay
