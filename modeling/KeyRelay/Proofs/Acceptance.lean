import KeyRelay.Proofs.Change
import KeyRelay.Proofs.Json.Acceptance

/-!
What the two readers of a change accept. Both want two texts, and both find them in an object under
the two names or in a list of the two, where no name is given. Nothing else is accepted:
`reads_two_texts` says of every document what becomes of it. Members of other names are skipped, and
only what is skipped may hold bytes that are not text.
-/

namespace KeyRelay

open Json

/-- The documents that hold a text for each of two names: an object with one such member each,
whatever else it has, or a list of the two texts. -/
inductive HoldsTexts (first second k s : String) : List UInt8 → Prop where
  | object {ms : List (String × Value)} {a w b : List UInt8} (before : Blanks a)
      (members : Members [first, second] true ms w) (one : valuesOf first ms = [.text k])
      (other : valuesOf second ms = [.text s]) (after : Blanks b) :
      HoldsTexts first second k s (a ++ (openObject :: (w ++ [closeObject]) ++ b))
  | list {document : List UInt8} (written : WrittenDocument (.list [.text k, .text s]) document) :
      HoldsTexts first second k s document

/-! ### Records of two texts -/

section
variable {ρ : Type} {shape : Shape ρ} {meaning : String → ρ → Value → Option ρ} {r : ρ}

/-- A record of two fields that comes of two texts only has the documents that hold them. -/
theorem document_iff_holdsTexts {first second k s : String}
    (names : shape.fields.map (·.name) = [first, second])
    (gathered : ∀ ms, shape.gather meaning [] shape.blank ms = some r ↔
      valuesOf first ms = [.text k] ∧ valuesOf second ms = [.text s])
    (arranged : ∀ vs, Shape.arrange meaning shape.fields shape.blank vs = some r ↔
      vs = [.text k, .text s])
    {document : List UInt8} : shape.Document meaning r document ↔
    HoldsTexts first second k s document := by
  constructor
  · rintro ⟨before, spelled, after⟩
    cases spelled with
    | object members comes =>
      rw [names] at members
      obtain ⟨one, other⟩ := (gathered _).1 comes
      exact .object before members one other after
    | list written comes =>
      obtain rfl := (arranged _).1 comes
      exact .list (.intro before written after)
  · intro h
    cases h with
    | object before members one other after =>
      rw [← names] at members
      exact .intro before (.object members ((gathered _).2 ⟨one, other⟩)) after
    | list written =>
      obtain ⟨before, written, after⟩ := written
      exact .intro before (.list written ((arranged _).2 rfl)) after

/-- Two elements, each read by its field, make a record of two fields. -/
theorem arrange_eq_some {first second : Json.Field ρ} {r r' : ρ} {vs : List Value}
    (h : Shape.arrange meaning [first, second] r vs = some r') :
    ∃ v w r₁, vs = [v, w] ∧ meaning first.name r v = some r₁ ∧
    meaning second.name r₁ w = some r' := by
  match vs with
  | [] => cases h
  | [v] =>
    obtain ⟨r₁, -, h⟩ := Option.bind_eq_some_iff.1 h
    cases h
  | v :: w :: vs =>
    obtain ⟨r₁, one, h⟩ := Option.bind_eq_some_iff.1 h
    obtain ⟨r₂, other, h⟩ := Option.bind_eq_some_iff.1 h
    cases vs with
    | nil =>
      cases h
      exact ⟨v, w, r₁, rfl, one, other⟩
    | cons => cases h

end

/-! ### Inputs -/

namespace WatchPayload

theorem shape_takes : ∀ f ∈ shape.fields, f.Takes (meaning f.name) := by
  rintro f (_ | ⟨_, _ | ⟨_, ⟨⟩⟩⟩)
  · exact Field.of_takes (aText_takes "a string") "Key" .required _
  · exact Field.of_takes (anOption_aText_takes "a string") "Value" .nullable _

theorem shape_given : ∀ f ∈ shape.fields, f.need ≠ .defaulted := by
  rintro f (_ | ⟨_, _ | ⟨_, ⟨⟩⟩⟩)
  · exact Need.noConfusion
  · exact Need.noConfusion

/-- The lists that come to a payload with a value are those of two texts. -/
theorem arrange_iff {vs : List Value} {k s : String} :
    Shape.arrange meaning shape.fields shape.blank vs = some ⟨k, some s⟩ ↔
    vs = [.text k, .text s] := by
  constructor
  · intro h
    obtain ⟨v, w, p, rfl, key, value⟩ := arrange_eq_some h
    obtain ⟨k', read, rfl⟩ := Option.map_eq_some_iff.1 key
    obtain ⟨s', read', same⟩ := Option.map_eq_some_iff.1 value
    cases same
    rw [Value.text?_eq_some.1 read, Value.textOrNull?_eq_some.1 read']
  · rintro rfl
    rfl

/-- The payloads with a value are read from the documents that hold it and its key. -/
theorem document_eq_some_iff {document : List UInt8} {k s : String} :
    Json.document (anOption shape.reader) document = .ok (some ⟨k, some s⟩) ↔
    HoldsTexts "Key" "Value" k s document :=
  (Shape.document_anOption_iff shape_takes shape_means shape_given).trans
    (document_iff_holdsTexts rfl (fun _ => gather_eq_some) fun _ => arrange_iff)

end WatchPayload

namespace KeyChange

/-- An input that holds two texts is not blank. -/
theorem all_isBlankByte_of_holds {first second k s : String} {document : List UInt8}
    (h : HoldsTexts first second k s document) : document.all isBlankByte = false := by
  cases h with
  | object =>
    have here : isBlankByte openObject = false := by decide
    simp [here]
  | list written =>
    obtain @⟨a, w, b, -, value, -⟩ := written
    obtain ⟨x, more, rfl, starts⟩ := value.exists_cons
    obtain rfl : x = openList := starts
    have here : isBlankByte openList = false := by decide
    simp [here]

/-- An input that holds two texts stands for what their payload stands for. -/
theorem ofWatchJson_of_holds {k s : String} {document : List UInt8}
    (h : HoldsTexts "Key" "Value" k s document) :
    ofWatchJson document = ofPayload ⟨k, some s⟩ := by
  rw [ofWatchJson, all_isBlankByte_of_holds h]
  simp only [Bool.false_eq_true, if_false, WatchPayload.document_eq_some_iff.2 h]

/-- An input that holds no two texts is refused as one. -/
theorem ofWatchJson_eq_input_of_not_holds {document : List UInt8}
    (h : ¬∃ k s, HoldsTexts "Key" "Value" k s document) :
    ∃ reason, ofWatchJson document = .error (.input reason) := by
  rw [ofWatchJson]
  split
  · exact ⟨_, rfl⟩
  split
  · exact ⟨_, rfl⟩
  · exact ⟨_, rfl⟩
  next p read =>
  obtain ⟨k, _ | s⟩ := p
  · exact ⟨_, rfl⟩
  · exact absurd ⟨k, s, WatchPayload.document_eq_some_iff.1 read⟩ h

end KeyChange

/-! ### Messages -/

namespace ChangeMessage

theorem shape_takes : ∀ f ∈ shape.fields, f.Takes (meaning f.name) := by
  rintro f (_ | ⟨_, _ | ⟨_, ⟨⟩⟩⟩)
  · exact Field.of_takes (aText_takes "a string") "key" .required _
  · exact Field.of_takes (aText_takes "a string") "value" .required _

theorem shape_given : ∀ f ∈ shape.fields, f.need ≠ .defaulted := by
  rintro f (_ | ⟨_, _ | ⟨_, ⟨⟩⟩⟩)
  · exact Need.noConfusion
  · exact Need.noConfusion

theorem isSome_meaning (name : String) (m : ChangeMessage) (v : Value) :
    (meaning name m v).isSome = (meaning name shape.blank v).isSome := by
  rw [meaning, meaning]
  split
  · simp
  · split <;> simp

theorem gather_texts {ms : List (String × Value)} {m : ChangeMessage}
    (h : shape.gather meaning [] shape.blank ms = some m) :
    valuesOf "key" ms = [.text m.key] ∧ valuesOf "value" ms = [.text m.value] := by
  have key : ∃ v, valuesOf "key" ms = [v] ∧ v.text? = some m.key := by
    refine Shape.gather_required isSome_meaning List.mem_cons_self rfl ?_ ?_ h
    · intro m v m' updated
      obtain ⟨key, read, rfl⟩ := Option.map_eq_some_iff.1 updated
      exact read
    · intro other m v m' (ne : other ≠ "key") updated
      rw [meaning, if_neg ne] at updated
      split at updated
      · obtain ⟨value, -, rfl⟩ := Option.map_eq_some_iff.1 updated
        rfl
      · cases updated
  have value : ∃ v, valuesOf "value" ms = [v] ∧ v.text? = some m.value := by
    refine Shape.gather_required isSome_meaning (List.mem_cons_of_mem _ List.mem_cons_self)
      rfl ?_ ?_ h
    · intro m v m' updated
      obtain ⟨value, read, rfl⟩ := Option.map_eq_some_iff.1 updated
      exact read
    · intro other m v m' (ne : other ≠ "value") updated
      rw [meaning] at updated
      split at updated
      · obtain ⟨key, -, rfl⟩ := Option.map_eq_some_iff.1 updated
        rfl
      · cases updated
  obtain ⟨v, key, read⟩ := key
  obtain ⟨w, value, read'⟩ := value
  rw [key, value, Value.text?_eq_some.1 read, Value.text?_eq_some.1 read']
  exact ⟨rfl, rfl⟩

/-- The members of an object come to the message of the one text under each of the two names. -/
theorem gather_iff {ms : List (String × Value)} {m : ChangeMessage} :
    shape.gather meaning [] shape.blank ms = some m ↔
      valuesOf "key" ms = [.text m.key] ∧ valuesOf "value" ms = [.text m.value] := by
  refine ⟨gather_texts, ?_⟩
  rintro ⟨key, value⟩
  have fits : (shape.gather meaning [] shape.blank ms).isSome := by
    refine (Shape.isSome_gather isSome_meaning ms [] shape.blank).2 ?_
    rintro f (_ | ⟨_, _ | ⟨_, ⟨⟩⟩⟩)
    · show Shape.Fits .required ("key" ∈ []) _ (valuesOf "key" ms)
      rw [key]
      exact ⟨by simp, rfl⟩
    · show Shape.Fits .required ("value" ∈ []) _ (valuesOf "value" ms)
      rw [value]
      exact ⟨by simp, rfl⟩
  obtain ⟨m', gathered⟩ := Option.isSome_iff_exists.1 fits
  obtain ⟨key', value'⟩ := gather_texts gathered
  obtain ⟨k, v⟩ := m'
  cases key.symm.trans key'
  cases value.symm.trans value'
  exact gathered

theorem arrange_iff {vs : List Value} {m : ChangeMessage} :
    Shape.arrange meaning shape.fields shape.blank vs = some m ↔
    vs = [.text m.key, .text m.value] := by
  constructor
  · intro h
    obtain ⟨v, w, m', rfl, key, value⟩ := arrange_eq_some h
    obtain ⟨k, read, rfl⟩ := Option.map_eq_some_iff.1 key
    obtain ⟨s, read', rfl⟩ := Option.map_eq_some_iff.1 value
    rw [Value.text?_eq_some.1 read, Value.text?_eq_some.1 read']
  · rintro rfl
    rfl

/-- A message is read from the bodies that hold its two texts. -/
theorem ofBody_eq_ok {body : List UInt8} {m : ChangeMessage} :
    ofBody body = .ok m ↔ HoldsTexts "key" "value" m.key m.value body := by
  rw [← document_iff_holdsTexts rfl (fun _ => gather_iff) (fun _ => arrange_iff),
    ← Shape.document_reader_iff shape_takes shape_means shape_given, ofBody]
  cases read : Json.document shape.reader body with
  | error f => simp
  | ok m' => simp

/-- A body that is no message is refused as one. -/
theorem ofBody_eq_serialization {body : List UInt8} (h : ∀ m, ofBody body ≠ .ok m) :
    ∃ reason, ofBody body = .error (.serialization reason) := by
  rw [ofBody] at h ⊢
  split
  · exact ⟨_, rfl⟩
  · next m read => exact absurd (by rw [read]) (h m)

end ChangeMessage

/-! ### Both readers -/

/-- What becomes of any document. As an input it is decoded where it holds two texts, or refused for
the second of them, and it is refused as an input where it holds none; as a body it is the message
of the two texts it holds, or is refused. -/
theorem reads_two_texts (document : List UInt8) :
    (∀ k s, HoldsTexts "Key" "Value" k s document →
      (∀ v, Utf8.bytes (Blank.trim s) = Base64.encode (Utf8.bytes v) →
        KeyChange.ofWatchJson document = .ok ⟨k, v⟩) ∧
      ((¬∃ v, Utf8.bytes (Blank.trim s) = Base64.encode (Utf8.bytes v)) →
        ∃ reason, KeyChange.ofWatchJson document = .error (.decode reason))) ∧
    ((¬∃ k s, HoldsTexts "Key" "Value" k s document) →
      ∃ reason, KeyChange.ofWatchJson document = .error (.input reason)) ∧
    (∀ k v, HoldsTexts "key" "value" k v document → ChangeMessage.ofBody document = .ok ⟨k, v⟩) ∧
    ((¬∃ k v, HoldsTexts "key" "value" k v document) →
      ∃ reason, ChangeMessage.ofBody document = .error (.serialization reason)) := by
  refine ⟨?_, KeyChange.ofWatchJson_eq_input_of_not_holds, ?_, ?_⟩
  · intro k s holds
    rw [KeyChange.ofWatchJson_of_holds holds]
    exact ⟨fun v => KeyChange.ofPayload_eq_ok.2, KeyChange.ofPayload_eq_decode⟩
  · intro k v holds
    exact ChangeMessage.ofBody_eq_ok.2 holds
  · intro none
    refine ChangeMessage.ofBody_eq_serialization fun m read => ?_
    exact none ⟨m.key, m.value, ChangeMessage.ofBody_eq_ok.1 read⟩

/-- What starts with the bracket of a list is no object. -/
theorem not_object_of_list {document : List UInt8} (list : document.head? = some openList)
    (ms : List (String × Value)) : ¬WrittenDocument (.object ms) document := by
  rintro @⟨a, w, b, before, value, -⟩
  obtain ⟨x, more, rfl, starts⟩ := value.exists_cons
  obtain rfl : x = openObject := starts
  cases a with
  | nil => cases list
  | cons y a =>
    obtain rfl : y = openList := Option.some.inj list
    rcases before openList (by simp) with h | h | h | h <;> cases h

/-- Both readers accept lists, which name no member. -/
theorem accepts_lists :
    (KeyChange.ofWatchJson (Utf8.bytes "[\"foo\",\"YmFy\"]") = .ok ⟨"foo", "bar"⟩ ∧
      ∀ ms, ¬WrittenDocument (.object ms) (Utf8.bytes "[\"foo\",\"YmFy\"]")) ∧
    (ChangeMessage.ofBody (Utf8.bytes "[\"foo\",\"bar\"]") = .ok ⟨"foo", "bar"⟩ ∧
      ∀ ms, ¬WrittenDocument (.object ms) (Utf8.bytes "[\"foo\",\"bar\"]")) := by
  have input : KeyChange.ofWatchJson (Utf8.bytes "[\"foo\",\"YmFy\"]") = .ok ⟨"foo", "bar"⟩ := rfl
  have body : ChangeMessage.ofBody (Utf8.bytes "[\"foo\",\"bar\"]") = .ok ⟨"foo", "bar"⟩ := rfl
  exact ⟨⟨input, not_object_of_list (by decide)⟩, body, not_object_of_list (by decide)⟩

end KeyRelay
