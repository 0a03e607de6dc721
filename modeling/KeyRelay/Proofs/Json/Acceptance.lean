import KeyRelay.Proofs.Json.Record

/-!
What a reader accepts. `Reader.Takes` is the converse of `Reader.Gives`: the bytes a reader took are
a written value, and what it gives is what the value means. A record is taken from an object whose
known members are written values (`Members`; the others follow the loose grammar), or from a list
with one value for each field.
-/

namespace KeyRelay.Json

variable {α ρ : Type}

/-- Whatever a reader takes is a written value, with blanks before it, and gives what that means. -/
def Reader.Takes (reader : Reader α) (meaning : Value → Option α) : Prop :=
  ∀ (rest after : List UInt8) (a : α), reader.run rest = .ok (a, after) →
    ∃ gap w v, Blanks gap ∧ Written v w ∧ meaning v = some a ∧ rest = gap ++ (w ++ after)

/-! ### Strings and options -/

theorem quotedText_of_text {rest after : List UInt8} {s : String} (h : text rest = .ok (s, after)) :
    ∃ q, QuotedText s q ∧ quoteMark :: rest = q ++ after := by
  obtain ⟨body, spelled, rfl⟩ := text_eq_ok h
  exact ⟨_, .intro spelled, (bracketed ..).symm⟩

theorem aText_takes (wanted : String) : (aText wanted).Takes Value.text? := by
  intro rest after s h
  replace h : readText wanted rest = .ok (s, after) := h
  rw [readText] at h
  split at h
  · cases h
  next b more next =>
  split at h
  · next first =>
    subst first
    obtain ⟨gap, blank, rfl⟩ := exists_gap next
    obtain ⟨q, quoted, same⟩ := quotedText_of_text h
    exact ⟨gap, q, .text s, blank, .text quoted, rfl, by rw [same]⟩
  · exact absurd h refuseKind_ne_ok

/-- An option is taken from `null`, or from what its reader takes. -/
theorem readOption_eq_ok {value : Reader α} {rest after : List UInt8} {o : Option α}
    (h : readOption value rest = .ok (o, after)) :
    ∃ gap front, Blanks gap ∧ rest = gap ++ front ∧
      ((o = none ∧ front = letters "null" ++ after) ∨ ∃ a, o = some a ∧
        value.run front = .ok (a, after)) := by
  rw [readOption] at h
  split at h
  · obtain ⟨⟨a, left⟩, read, -⟩ := map_eq_ok h
    exact absurd (value.run_lt read) (by simp)
  next b more next =>
  obtain ⟨gap, blank, rfl⟩ := exists_gap next
  refine ⟨gap, b :: more, blank, rfl, ?_⟩
  split at h
  · next first =>
    obtain ⟨left, taken, same⟩ := map_eq_ok h
    cases same
    exact .inl ⟨rfl, by rw [first, word_eq_ok taken]; rfl⟩
  · obtain ⟨⟨a, left⟩, read, same⟩ := map_eq_ok h
    cases same
    exact .inr ⟨a, rfl, read⟩

theorem anOption_aText_takes (wanted : String) :
    (anOption (aText wanted)).Takes Value.textOrNull? := by
  intro rest after o h
  obtain ⟨gap, front, blank, rfl, ⟨rfl, rfl⟩ | ⟨s, rfl, read⟩⟩ := readOption_eq_ok h
  · exact ⟨gap, _, .null, blank, .null, rfl, rfl⟩
  · obtain ⟨gap', w, v, blank', written, means, rfl⟩ := aText_takes wanted _ _ _ read
    obtain rfl := Value.text?_eq_some.1 means
    exact ⟨gap ++ gap', w, _, blank.append blank', written, rfl, by simp⟩

/-! ### Fields -/

/-- What a field takes, and what it makes of that. -/
def Field.Takes (field : Field ρ) (meaning : ρ → Value → Option ρ) : Prop :=
  ∀ r, (field.update r).Takes (meaning r)

theorem Field.of_takes {value : Reader α} {meaning : Value → Option α} (h : value.Takes meaning)
    (name : String) (need : Need) (set : ρ → α → ρ) :
    (Field.of name need value set).Takes fun r v => (meaning v).map (set r) := by
  intro r rest after updated read
  obtain ⟨⟨a, left⟩, read, same⟩ := map_eq_ok read
  cases same
  obtain ⟨gap, w, v, blank, written, means, rfl⟩ := h _ _ _ read
  exact ⟨gap, w, v, blank, written, congrArg (Option.map (set r)) means, rfl⟩

/-! ### Members -/

theorem nextName_eq_none {first : Bool} {rest after : List UInt8}
    (h : nextName first rest = .ok (none, after)) :
    ∃ gap more, Blanks gap ∧ after = closeObject :: more ∧ rest = gap ++ after := by
  rw [nextName] at h
  split at h
  · cases h
  next b more next =>
  split at h
  · next close =>
    subst close
    cases h
    obtain ⟨gap, blank, rfl⟩ := exists_gap next
    exact ⟨gap, more, blank, rfl, rfl⟩
  split at h
  · split at h
    · obtain ⟨_, -, same⟩ := map_eq_ok h
      cases same
    · cases h
  split at h
  · split at h
    · cases h
    split at h
    · obtain ⟨_, -, same⟩ := map_eq_ok h
      cases same
    split at h
    · cases h
    · cases h
  · cases h

theorem nextName_eq_some {first : Bool} {rest after : List UInt8} {name : String}
    (h : nextName first rest = .ok (some name, after)) :
    ∃ lead q, Separator first lead ∧ QuotedText name q ∧ rest = lead ++ (q ++ after) := by
  have named {more : List UInt8} (h : (text more).map (fun read => (some read.1, read.2)) =
      .ok (some name, after)) :
      ∃ q, QuotedText name q ∧ quoteMark :: more = q ++ after := by
    obtain ⟨_, read, same⟩ := map_eq_ok h
    cases same
    exact quotedText_of_text read
  rw [nextName] at h
  split at h
  · cases h
  next b more next =>
  obtain ⟨gap, blank, rfl⟩ := exists_gap next
  split at h
  · cases h
  split at h
  · next isFirst =>
    split at h
    · next quote =>
      subst quote isFirst
      obtain ⟨q, quoted, same⟩ := named h
      exact ⟨gap, q, .first blank, quoted, by rw [same]⟩
    · cases h
  next notFirst =>
  obtain rfl : first = false := by simpa using notFirst
  split at h
  · next comma' =>
    subst comma'
    split at h
    · cases h
    next q more' next' =>
    obtain ⟨gap', blank', rfl⟩ := exists_gap next'
    split at h
    · next quote =>
      subst quote
      obtain ⟨q, quoted, same⟩ := named h
      exact ⟨gap ++ comma :: gap', q, .later blank blank', quoted, by simp [same]⟩
    split at h
    · cases h
    · cases h
  · cases h

theorem nameColon_eq_ok {rest after : List UInt8} (h : nameColon rest = .ok after) :
    ∃ gap, Blanks gap ∧ rest = gap ++ colon :: after := by
  rw [nameColon] at h
  split at h
  · cases h
  next b more next =>
  split at h
  · next colon' =>
    subst colon'
    cases h
    exact exists_gap next
  · cases h

namespace Shape

variable {s : Shape ρ} {meaning : String → ρ → Value → Option ρ}

/-- The members an object was read from come to the record. -/
theorem members_eq_ok (takes : ∀ f ∈ s.fields, f.Takes (meaning f.name)) {seen : List String}
    {r r' : ρ} {rest after : List UInt8} (h : s.members seen r rest = .ok (.ok r', after)) :
    ∃ ms w more, Members (s.fields.map (·.name)) seen.isEmpty ms w ∧ after = closeObject :: more ∧
      rest = w ++ after ∧ s.gather meaning seen r ms = some r' := by
  fun_induction Shape.members s seen r rest with
  | case1 => cases h
  | case2 => cases h
  | case3 seen r rest left next missing =>
    cases h
    obtain ⟨gap, more, blank, rfl, rfl⟩ := nextName_eq_none next
    exact ⟨[], gap, more, .done blank, rfl, rfl, by rw [gather, missing]; rfl⟩
  | case4 => cases h
  | case5 => cases h
  | case6 => cases h
  | case7 seen r rest name left next _ field known fresh content colon' updated left' read _ _ ih =>
    obtain ⟨ms, later, more, members, rfl, rfl, gathered⟩ := ih h
    obtain ⟨lead, q, separator, quoted, rfl⟩ := nextName_eq_some next
    obtain ⟨b, gap, rfl⟩ := nameColon_eq_ok colon'
    obtain rfl : field.name = name := by simpa using List.find?_some known
    have member := List.mem_of_find?_eq_some known
    obtain ⟨c, w, v, before, written, means, rfl⟩ := takes field member r _ _ _ read
    refine ⟨(field.name, v) :: ms, _, more,
      .read (List.mem_map_of_mem member) separator quoted gap before written
      members, rfl, by simp, ?_⟩
    rw [gather, known, means]
    simp only [Option.isSome_some, if_true, if_neg fresh, Option.bind_some]
    exact gathered
  | case8 => cases h
  | case9 => cases h
  | case10 seen r rest name left next _ unknown content colon' left' skipped _ _ ih =>
    obtain ⟨ms, later, more, members, rfl, rfl, gathered⟩ := ih h
    obtain ⟨lead, q, separator, quoted, rfl⟩ := nextName_eq_some next
    obtain ⟨b, gap, rfl⟩ := nameColon_eq_ok colon'
    obtain ⟨c, w, before, loose, rfl⟩ := skipValue_eq_ok skipped
    have strange : ∀ f ∈ s.fields, f.name ≠ name := by simpa using unknown
    have other : name ∉ s.fields.map (·.name) := by simpa using strange
    refine ⟨ms, _, more, .skipped other separator quoted gap before loose members, rfl, by simp, ?_⟩
    rw [← gathered]
    exact gather_congr fun f hf => by simp [strange f hf]

end Shape

/-! ### Elements -/

/-- How the elements of a list can be written, between its brackets or after some of them. -/
inductive Elements : Bool → List Value → List UInt8 → Prop where
  | done {first : Bool} {gap : List UInt8} (blank : Blanks gap) : Elements first [] gap
  | next {first : Bool} {v : Value} {vs : List Value} {lead gap w later : List UInt8}
      (separator : Separator first lead) (before : Blanks gap) (value : Written v w)
      (rest : Elements false vs later) :
      Elements first (v :: vs) (lead ++ (gap ++ (w ++ later)))

/-- An element and those after it. -/
theorem Elements.items {first : Bool} {vs : List Value} {later : List UInt8}
    (h : Elements first vs later) (further : first = false) {v : Value} {gap w : List UInt8}
    (before : Blanks gap) (value : Written v w) :
    WrittenItems (v :: vs) (gap ++ (w ++ later)) := by
  induction h generalizing v gap w with
  | done blank => exact .one before value blank
  | next separator before' value' _ ih =>
    subst further
    cases separator with
    | later blank blank' =>
      have items := WrittenItems.cons before value blank (ih rfl (blank'.append before') value')
      simpa using items

theorem Elements.written {vs : List Value} {w : List UInt8} (h : Elements true vs w) :
    Written (.list vs) (openList :: (w ++ [closeList])) := by
  cases h with
  | done blank => exact .emptyList blank
  | next separator before value rest =>
    cases separator with
    | first blank =>
      rw [← List.append_assoc]
      exact .list (rest.items rfl (blank.append before) value)

/-- The elements of a list, with what separates the first one from what stands before it. -/
theorem WrittenItems.elements {vs : List Value} {w : List UInt8} {first : Bool} {lead : List UInt8}
    (h : WrittenItems vs w) (separator : Separator first lead) : Elements first vs (lead ++ w) := by
  cases h with
  | one before value after => exact .next separator before value (.done after)
  | cons before value after later =>
    have others := later.elements (.later after blanks_nil)
    rw [List.append_assoc, List.singleton_append] at others
    exact .next separator before value others

theorem Written.elements {vs : List Value} {w : List UInt8} (h : Written (.list vs) w) :
    ∃ inside, w = openList :: (inside ++ [closeList]) ∧ Elements Bool.true vs inside := by
  cases h with
  | emptyList blank => exact ⟨_, rfl, .done blank⟩
  | list items => exact ⟨_, rfl, items.elements (.first blanks_nil)⟩

theorem Elements.stops {vs : List Value} {w : List UInt8} (h : Elements false vs w)
    (rest : List UInt8) :
    Stops (w ++ closeList :: rest) := by
  cases h with
  | done blank => exact stops_append blank (stops_cons (by decide) rest)
  | next separator =>
    rw [List.append_assoc]
    exact separator.stops _

theorem nextElement_eq_ok {first : Bool} {rest after : List UInt8}
    (h : nextElement first rest = .ok (true, after)) :
    ∃ lead, Separator first lead ∧ rest = lead ++ after := by
  rw [nextElement] at h
  split at h
  · cases h
  next b more next =>
  obtain ⟨gap, blank, rfl⟩ := exists_gap next
  split at h
  · cases h
  split at h
  · next isFirst =>
    subst isFirst
    cases h
    exact ⟨gap, .first blank, rfl⟩
  next notFirst =>
  obtain rfl : first = false := by simpa using notFirst
  split at h
  · next comma' =>
    subst comma'
    split at h
    · cases h
    next c more' next' =>
    obtain ⟨gap', blank', rfl⟩ := exists_gap next'
    split at h
    · cases h
    · cases h
      exact ⟨gap ++ comma :: gap', .later blank blank', by simp⟩
  · cases h

theorem nextElement_value {first : Bool} {lead gap w : List UInt8} {v : Value}
    (h : Separator first lead) (before : Blanks gap) (value : Written v w) (rest : List UInt8) :
    nextElement first (lead ++ (gap ++ (w ++ rest))) = .ok (true, w ++ rest) := by
  have front (blank : Blanks lead) : skipBlanks (lead ++ (gap ++ (w ++ rest))) = w ++ rest := by
    rw [skipBlanks_append blank, value.skipBlanks before]
  obtain ⟨b, more, rfl, starts⟩ := value.exists_cons
  have other : b ≠ closeList := starts.opens.2.2.1
  cases h with
  | first blank =>
    rw [nextElement, front blank, List.cons_append]
    simp only [if_neg other, if_true]
  | @later a c blank blank' =>
    have next : skipBlanks (c ++ (gap ++ (b :: more ++ rest))) = b :: (more ++ rest) := by
      rw [skipBlanks_append blank', value.skipBlanks before, List.cons_append]
    rw [nextElement, List.append_assoc, List.cons_append, skipBlanks_close blank (by decide)]
    simp only [if_neg (show comma ≠ closeList by decide), Bool.false_eq_true, if_false, if_true,
      next, if_neg other]
    rfl

theorem endList_close {gap : List UInt8} (blank : Blanks gap) (rest : List UInt8) :
    endList (gap ++ closeList :: rest) = .ok rest := by
  rw [endList, skipBlanks_close blank (by decide)]
  simp only [if_true]

theorem endList_eq_ok {rest after : List UInt8} (h : endList rest = .ok after) :
    ∃ gap, Blanks gap ∧ rest = gap ++ closeList :: after := by
  rw [endList] at h
  split at h
  · cases h
  next b more next =>
  split at h
  · next close =>
    subst close
    cases h
    exact exists_gap next
  split at h
  · split at h
    · cases h
    · split at h
      · cases h
      · cases h
  · cases h

namespace Shape

variable {s : Shape ρ} {meaning : String → ρ → Value → Option ρ}

/-- The record that the elements of a list come to, one for each field. -/
def arrange (meaning : String → ρ → Value → Option ρ) : List (Field ρ) → ρ → List Value → Option ρ
  | [], r, [] => some r
  | field :: fields, r, v :: vs => (meaning field.name r v).bind fun r =>
    arrange meaning fields r vs
  | _, _, _ => none

/-- The elements a list was read from come to the record. -/
theorem elements_eq_ok {fields : List (Field ρ)} (takes : ∀ f ∈ fields, f.Takes (meaning f.name))
    (given : ∀ f ∈ fields, f.need ≠ .defaulted) {index : Nat} {r r' : ρ}
    {rest after last : List UInt8} (h : s.elements index r fields rest = .ok (.ok r', after))
    (ended : endList after = .ok last) :
    ∃ vs w, Elements (index = 0) vs w ∧ arrange meaning fields r vs = some r' ∧
    rest = w ++ closeList :: last := by
  induction fields generalizing index r rest with
  | nil =>
    cases h
    obtain ⟨gap, blank, rfl⟩ := endList_eq_ok ended
    exact ⟨[], gap, .done blank, rfl, rfl⟩
  | cons field fields ih =>
    rw [elements] at h
    split at h
    · cases h
    · next content next =>
      split at h
      · cases h
      next updated left read =>
      obtain ⟨lead, separator, rfl⟩ := nextElement_eq_ok next
      obtain ⟨gap, w, v, before, written, means, rfl⟩ := takes field List.mem_cons_self r _ _ _ read
      obtain ⟨vs, later, elements, arranged, rfl⟩ :=
        ih (fun f hf => takes f (List.mem_cons_of_mem _ hf)) (fun f hf =>
          given f (List.mem_cons_of_mem _ hf)) h
      refine ⟨v :: vs, _, .next separator before written elements, ?_, by simp⟩
      rw [arrange, means]
      exact arranged
    · rw [if_neg (given field List.mem_cons_self)] at h
      cases h

/-- Elements are read to the record they come to. -/
theorem elements_of_arrange {first : Bool} {vs : List Value} {w : List UInt8}
    (h : Elements first vs w) (rest : List UInt8) {fields : List (Field ρ)}
    (means : ∀ f ∈ fields, f.Means (meaning f.name)) {index : Nat}
    (same : decide (index = 0) = first) {r r' : ρ}
    (arranged : arrange meaning fields r vs = some r') :
    ∃ left, s.elements index r fields (w ++ closeList :: rest) = .ok (.ok r', left) ∧
    endList left = .ok rest := by
  induction h generalizing fields index r with
  | done blank =>
    cases fields with
    | nil =>
      cases arranged
      exact ⟨_, rfl, endList_close blank rest⟩
    | cons => cases arranged
  | @next _ v vs lead gap w later separator before value others ih =>
    subst same
    cases fields with
    | nil => cases arranged
    | cons field fields =>
      obtain ⟨r₁, one, arranged⟩ := Option.bind_eq_some_iff.1 arranged
      have further : decide (index + 1 = 0) = false := by simp
      obtain ⟨left, read, ended⟩ :=
        ih (fun f hf => means f (List.mem_cons_of_mem _ hf)) further arranged
      have updated := means field List.mem_cons_self r v w [] _ value blanks_nil (others.stops rest)
      rw [one] at updated
      refine ⟨left, ?_, ended⟩
      simp only [List.append_assoc]
      rw [elements, nextElement_value separator before value]
      simp only [show (field.update r).run (w ++ (later ++ closeList :: rest)) = _ from
        updated, read]

/-- The bytes of a record: an object, or a list with one value for each field. -/
inductive Spelled (s : Shape ρ) (meaning : String → ρ → Value → Option ρ) (r : ρ) :
    List UInt8 → Prop where
  | object {ms : List (String × Value)} {w : List UInt8}
      (members : Members (s.fields.map (·.name)) true ms w)
      (gathered : s.gather meaning [] s.blank ms = some r) :
      Spelled s meaning r (openObject :: (w ++ [closeObject]))
  | list {vs : List Value} {w : List UInt8} (written : Written (.list vs) w)
      (arranged : arrange meaning s.fields s.blank vs = some r) : Spelled s meaning r w

theorem read_eq_ok (takes : ∀ f ∈ s.fields, f.Takes (meaning f.name))
    (given : ∀ f ∈ s.fields, f.need ≠ .defaulted) {r : ρ} {rest after : List UInt8}
    (h : s.read rest = .ok (r, after)) :
    ∃ gap w, Blanks gap ∧ s.Spelled meaning r w ∧ rest = gap ++ (w ++ after) := by
  rw [read] at h
  split at h
  · cases h
  next b more next =>
  obtain ⟨gap, blank, rfl⟩ := exists_gap next
  split at h
  · next opened =>
    subst opened
    split at h
    · cases h
    · cases h
    next r left read =>
    obtain ⟨last, ended, same⟩ := map_eq_ok h
    cases same
    obtain ⟨vs, w, inside, arranged, rfl⟩ := elements_eq_ok takes given read ended
    exact ⟨gap, _, blank, .list (Elements.written inside) arranged, by simp⟩
  split at h
  · next opened =>
    subst opened
    split at h
    · cases h
    · cases h
    next r left read =>
    cases h
    obtain ⟨ms, w, last, inside, rfl, rfl, gathered⟩ := members_eq_ok takes read
    have closed : afterObject (closeObject :: last) = last := by
      rw [afterObject, skipBlanks_cons (by decide)]
      simp only [if_true]
    exact ⟨gap, _, blank, .object inside gathered, by simp [closed]⟩
  · exact absurd h refuseKind_ne_ok

/-- A record starts with a bracket. -/
theorem Spelled.exists_cons {r : ρ} {w : List UInt8} (h : s.Spelled meaning r w) :
    ∃ b rest, w = b :: rest ∧ (b = openObject ∨ b = openList) := by
  cases h with
  | object => exact ⟨_, _, rfl, .inl rfl⟩
  | list written =>
    obtain ⟨b, rest, rfl, starts⟩ := written.exists_cons
    exact ⟨b, rest, rfl, .inr starts⟩

theorem Spelled.skipBlanks {r : ρ} {w gap : List UInt8} (h : s.Spelled meaning r w)
    (blank : Blanks gap) (rest : List UInt8) :
    Json.skipBlanks (gap ++ (w ++ rest)) = w ++ rest := by
  obtain ⟨b, more, rfl, opens⟩ := h.exists_cons
  have other : isBlank b = false := by rcases opens with rfl | rfl <;> decide
  rw [List.cons_append, skipBlanks_close blank other]

theorem read_spelled (means : ∀ f ∈ s.fields, f.Means (meaning f.name)) {r : ρ} {w gap : List UInt8}
    (h : s.Spelled meaning r w) (blank : Blanks gap) (rest : List UInt8) :
    s.read (gap ++ (w ++ rest)) = .ok (r, rest) := by
  rw [read, h.skipBlanks blank]
  cases h with
  | object members gathered =>
    have yields := yields_members members (fun f hf v _ r =>
      means f hf r v) rest (show [].isEmpty = true from rfl)
      s.blank
    rw [gathered] at yields
    rw [bracketed]
    simp only [if_neg (show openObject ≠ openList by decide), if_true]
    rw [show s.members [] s.blank _ = _ from yields]
    show Except.ok (r, afterObject (closeObject :: rest)) = .ok (r, rest)
    rw [afterObject, skipBlanks_cons (by decide)]
    simp only [if_true]
  | list written arranged =>
    obtain ⟨inside, rfl, elements⟩ := written.elements
    obtain ⟨left, read, ended⟩ :=
      elements_of_arrange (s := s) elements rest means (show decide (0 = 0) = true from
        rfl) arranged
    rw [bracketed]
    simp only [if_true, read, ended]
    rfl

end Shape

/-! ### Documents -/

/-- A document is what its reader takes, with nothing but blanks after it. -/
theorem document_iff {reader : Reader α} {bytes : List UInt8} {a : α} :
    document reader bytes = .ok a ↔ ∃ after, Blanks after ∧ reader.run bytes = .ok (a, after) := by
  constructor
  · intro h
    rw [document] at h
    split at h
    · cases h
    next read =>
    split at h
    · next next =>
      cases h
      obtain ⟨gap, blank, rfl⟩ := exists_gap next
      exact ⟨_, by simpa using blank, read⟩
    · cases h
  · rintro ⟨after, blank, read⟩
    have ended : skipBlanks after = [] := by
      rw [← List.append_nil after, skipBlanks_append blank]
      rfl
    simp only [document, read, ended]

namespace Shape

variable {s : Shape ρ} {meaning : String → ρ → Value → Option ρ} {r : ρ} {bytes : List UInt8}

/-- The documents of a record, blanks around it included. -/
inductive Document (s : Shape ρ) (meaning : String → ρ → Value → Option ρ) (r : ρ) :
    List UInt8 → Prop where
  | intro {a w b : List UInt8} (before : Blanks a) (spelled : s.Spelled meaning r w)
      (after : Blanks b) :
      Document s meaning r (a ++ (w ++ b))

/-- A record is read from its documents and from no others. -/
theorem document_reader_iff (takes : ∀ f ∈ s.fields, f.Takes (meaning f.name))
    (means : ∀ f ∈ s.fields, f.Means (meaning f.name))
    (given : ∀ f ∈ s.fields, f.need ≠ .defaulted) :
    document s.reader bytes = .ok r ↔ s.Document meaning r bytes := by
  rw [document_iff]
  constructor
  · rintro ⟨b, after, read⟩
    obtain ⟨gap, w, blank, spelled, rfl⟩ := read_eq_ok takes given read
    exact .intro blank spelled after
  · rintro ⟨before, spelled, after⟩
    exact ⟨_, after, read_spelled means spelled before _⟩

/-- A record that may be `null` is read as one from the same documents. -/
theorem document_anOption_iff (takes : ∀ f ∈ s.fields, f.Takes (meaning f.name))
    (means : ∀ f ∈ s.fields, f.Means (meaning f.name))
    (given : ∀ f ∈ s.fields, f.need ≠ .defaulted) :
    document (anOption s.reader) bytes = .ok (some r) ↔ s.Document meaning r bytes := by
  rw [document_iff]
  constructor
  · rintro ⟨b, after, read⟩
    obtain ⟨gap, front, blank, rfl, ⟨none, -⟩ | ⟨r', same, read⟩⟩ := readOption_eq_ok read
    · cases none
    cases same
    obtain ⟨gap', w, blank', spelled, rfl⟩ := read_eq_ok takes given read
    rw [← List.append_assoc]
    exact .intro (blank.append blank') spelled after
  · rintro @⟨a, w, b, before, spelled, after⟩
    refine ⟨b, after, ?_⟩
    show readOption s.reader (a ++ (w ++ b)) = .ok (some r, b)
    have read := read_spelled means spelled blanks_nil b
    rw [readOption, spelled.skipBlanks before]
    obtain ⟨x, rest, rfl, opens⟩ := spelled.exists_cons
    have other : x ≠ 0x6E := by rcases opens with rfl | rfl <;> decide
    rw [List.cons_append]
    simp only [if_neg other]
    rw [show s.reader.run (x :: (rest ++ b)) = _ from read]
    rfl

theorem read_skipBlanks (rest : List UInt8) : s.read (Json.skipBlanks rest) = s.read rest := by
  rw [read, read, skipBlanks_idem]

/-- Where nothing starts as `null` does, a record that may be `null` is read as one, and refused for
the same. -/
theorem document_anOption (other : (Json.skipBlanks bytes).head? ≠ some 0x6E) :
    document (anOption s.reader) bytes = (document s.reader bytes).map some := by
  have option : (anOption s.reader).run bytes = (s.read bytes).map fun taken =>
    (some taken.1, taken.2) := by
    show readOption s.reader bytes = _
    rw [← read_skipBlanks bytes, readOption]
    cases front : Json.skipBlanks bytes with
    | nil => rfl
    | cons b more =>
      have ne : b ≠ 0x6E := fun same => other (by rw [front, same]; rfl)
      simp only [if_neg ne]
      rfl
  rw [document, document, option]
  cases read : s.read bytes with
  | error f => simp only [show s.reader.run bytes = _ from read]; rfl
  | ok taken =>
    obtain ⟨r, after⟩ := taken
    simp only [show s.reader.run bytes = _ from read, Except.map]
    split <;> rfl

end Shape

end KeyRelay.Json
