import KeyRelay.Json.Record
import KeyRelay.Proofs.Json.Skip

/-!
What a reader makes of a value depends on the value alone, and not on how it is written.
`Reader.Gives` says that of a reader, with nothing for a value that is refused. For a record it is
`Shape.gather`, which goes through the members of an object in order and leaves out those of unknown
names. `Members` lets these be written as loosely as what is skipped: `yields_members` is by
induction on it, with one lemma for a member that is read.
-/

namespace KeyRelay.Json

variable {α β ρ : Type}

/-- A reading that comes to a value and stops there, or is refused. -/
def ComesTo (r : Result α) (rest : List UInt8) : Option α → Prop
  | some a => r = .ok (a, rest)
  | none => ∃ f, r = .error f

theorem ComesTo.map {r : Result α} {rest : List UInt8} {o : Option α} (h : ComesTo r rest o)
    (f : α → β) :
    ComesTo (r.map fun (a, after) => (f a, after)) rest (o.map f) := by
  cases o with
  | some a =>
    rw [show r = _ from h]
    exact rfl
  | none =>
    obtain ⟨fault, h⟩ := h
    rw [h]
    exact ⟨fault, rfl⟩

theorem ComesTo.of_ne_ok {r : Result α} {rest : List UInt8} (h : ∀ a, r ≠ .ok a) :
    ComesTo r rest none := by
  cases r with
  | ok a => exact absurd rfl (h a)
  | error f => exact ⟨f, rfl⟩

/-- What a reader makes of a value, however it is written. -/
def Reader.Gives (reader : Reader α) (v : Value) (o : Option α) : Prop :=
  ∀ w gap rest : List UInt8, Written v w → Blanks gap → Stops rest →
    ComesTo (reader.run (gap ++ (w ++ rest))) rest o

/-! ### Strings and options -/

def Value.text? : Value → Option String
  | .text s => some s
  | _ => none

theorem Value.Starts.ne_quoteMark {v : Value} {b : UInt8} (h : v.Starts b) (kind : v.text? = none) :
    b ≠ quoteMark := by
  cases v with
  | text s => cases kind
  | null => exact h ▸ by decide
  | boolean t => cases t <;> exact h ▸ by decide
  | number n => exact ne_of_sign_or_digit h (by decide) (by decide)
  | list items => exact h ▸ by decide
  | object members => exact h ▸ by decide

theorem Value.Starts.ne_null {v : Value} {b : UInt8} (h : v.Starts b) (kind : v ≠ .null) :
    b ≠ 0x6E := by
  cases v with
  | null => exact absurd rfl kind
  | boolean t => cases t <;> exact h ▸ by decide
  | number n => exact ne_of_sign_or_digit h (by decide) (by decide)
  | text s => exact h ▸ by decide
  | list items => exact h ▸ by decide
  | object members => exact h ▸ by decide

theorem aText_gives (wanted : String) (v : Value) : (aText wanted).Gives v v.text? := by
  intro w gap rest written blank stop
  show ComesTo (readText wanted (gap ++ (w ++ rest))) rest v.text?
  have front := written.skipBlanks blank rest
  cases kind : v.text? with
  | some s =>
    cases v with
    | text s' =>
      obtain rfl := Option.some.inj kind
      cases written with
      | text quoted =>
        obtain @⟨body, spelled⟩ := quoted
        rw [readText, front]
        simp only [List.cons_append, List.append_assoc, List.nil_append, if_true]
        exact text_spelled spelled rest
    | _ => cases kind
  | none =>
    obtain ⟨b, more, rfl, starts⟩ := written.exists_cons
    refine .of_ne_ok fun a => ?_
    rw [readText, front, List.cons_append]
    simp only [if_neg (starts.ne_quoteMark kind)]
    exact refuseKind_ne_ok

/-- An option of what a reader gives. -/
theorem Reader.Gives.anOption {value : Reader α} {v : Value} {o : Option α} (h : value.Gives v o)
    (kind : v ≠ .null) : (anOption value).Gives v (o.map some) := by
  intro w gap rest written blank stop
  show ComesTo (readOption value (gap ++ (w ++ rest))) rest (o.map some)
  have inner := h w [] rest written blanks_nil stop
  have front := written.skipBlanks blank rest
  obtain ⟨b, more, rfl, starts⟩ := written.exists_cons
  rw [readOption, front, List.cons_append]
  simp only [if_neg (starts.ne_null kind)]
  exact inner.map some

theorem anOption_null (value : Reader α) : (anOption value).Gives .null (some none) := by
  intro w gap rest written blank stop
  show readOption value (gap ++ (w ++ rest)) = .ok (none, rest)
  rw [readOption, written.skipBlanks blank rest]
  cases written with
  | null =>
    show (word (letters "ull") (letters "ull" ++ rest)).map _ = _
    rw [word_append]
    rfl

theorem Value.text?_eq_some {v : Value} {s : String} : v.text? = some s ↔ v = .text s := by
  cases v <;> simp [text?]

def Value.textOrNull? : Value → Option (Option String)
  | .null => some none
  | v => v.text?.map some

theorem Value.textOrNull?_eq_some {v : Value} {s : String} :
    v.textOrNull? = some (some s) ↔ v = .text s := by
  cases v <;> simp [textOrNull?, text?]

theorem anOption_aText_gives (wanted : String) (v : Value) :
    (anOption (aText wanted)).Gives v v.textOrNull? := by
  cases v with
  | null => exact anOption_null _
  | _ => exact Reader.Gives.anOption (aText_gives wanted _) (by simp)

/-! ### Fields -/

/-- What a field makes of a value. -/
def Field.Means (field : Field ρ) (meaning : ρ → Value → Option ρ) : Prop :=
  ∀ r v, (field.update r).Gives v (meaning r v)

theorem Field.of_means {value : Reader α} {meaning : Value → Option α}
    (h : ∀ v, value.Gives v (meaning v)) (name : String) (need : Need) (set : ρ → α → ρ) :
    (Field.of name need value set).Means fun r v => (meaning v).map (set r) := by
  intro r v w gap rest written blank stop
  exact (h v w gap rest written blank stop).map (set r)

/-- A field is set to the value that is read. -/
theorem Reader.Gives.field {value : Reader α} {v : Value} {a : α} (h : value.Gives v (some a))
    {name : String} {need : Need} {set : ρ → α → ρ} {r r' : ρ} (sets : set r a = r') :
    ((Field.of name need value set).update r).Gives v (some r') :=
  fun w gap rest written blank stop => sets ▸ (h w gap rest written blank stop).map (set r)

/-! ### Members -/

/-- How the members of an object can be written where the values under known names are read and all
others are skipped; `ms` are the members of known names, in order. -/
inductive Members (known : List String) : Bool → List (String × Value) → List UInt8 → Prop where
  | done {first : Bool} {gap : List UInt8} (blank : Blanks gap) : Members known first [] gap
  | read {first : Bool} {name : String} {v : Value} {ms : List (String × Value)}
      {lead q b c w later : List UInt8}
      (named : name ∈ known) (separator : Separator first lead) (quoted : QuotedText name q)
      (gap : Blanks b)
      (before : Blanks c) (value : Written v w) (rest : Members known false ms later) :
      Members known first ((name, v) :: ms) (lead ++ (q ++ (b ++ colon :: (c ++ (w ++ later)))))
  | skipped {first : Bool} {name : String} {ms : List (String × Value)}
      {lead q b c w later : List UInt8}
      (named : name ∉ known) (separator : Separator first lead) (quoted : QuotedText name q)
      (gap : Blanks b)
      (before : Blanks c) (value : Loose w) (rest : Members known false ms later) :
      Members known first ms (lead ++ (q ++ (b ++ colon :: (c ++ (w ++ later)))))

theorem Members.stops {known : List String} {ms : List (String × Value)} {w : List UInt8}
    (h : Members known false ms w) (rest : List UInt8) : Stops (w ++ closeObject :: rest) := by
  cases h with
  | done blank => exact stops_append blank (stops_cons (by decide) rest)
  | read _ separator =>
    rw [List.append_assoc]
    exact separator.stops _
  | skipped _ separator =>
    rw [List.append_assoc]
    exact separator.stops _

/-- All the members of an object that is read whole, of which those under known names matter. -/
theorem WrittenMembers.members (known : List String) {ms : List (String × Value)} {w : List UInt8}
    {first : Bool} {lead : List UInt8} (h : WrittenMembers ms w)
    (separator : Separator first lead) :
    Members known first (ms.filter fun m => m.1 ∈ known) (lead ++ w) := by
  cases h with
  | @one name v _ _ _ _ _ _ before quoted gap before' value after =>
    rw [← List.append_assoc]
    by_cases named : name ∈ known
    · rw [List.filter_cons_of_pos (by simpa using named)]
      exact .read named (separator.append before) quoted gap before' value (.done after)
    · rw [List.filter_cons_of_neg (by simpa using named)]
      exact .skipped named (separator.append before) quoted gap before' value.loose (.done after)
  | @cons name v _ _ _ _ _ _ _ _ before quoted gap before' value after later =>
    have others := later.members known (.later after blanks_nil)
    rw [List.append_assoc, List.singleton_append] at others
    rw [← List.append_assoc]
    by_cases named : name ∈ known
    · rw [List.filter_cons_of_pos (by simpa using named)]
      exact .read named (separator.append before) quoted gap before' value others
    · rw [List.filter_cons_of_neg (by simpa using named)]
      exact .skipped named (separator.append before) quoted gap before' value.loose others

namespace Shape

/-- The record that the members of an object come to, if they come to one: of the names seen so far
and still to come none of a field may repeat, and no field that is required may be missing. -/
def gather (s : Shape ρ) (meaning : String → ρ → Value → Option ρ) :
    List String → ρ → List (String × Value) → Option ρ
  | seen, r, [] => if (s.missing? seen).isNone then some r else none
  | seen, r, (name, v) :: ms =>
    if (s.fields.find? fun f => f.name = name).isSome then
      if seen.contains name then none else (meaning name r v).bind fun r =>
        gather s meaning (name :: seen) r ms
    else gather s meaning (name :: seen) r ms

theorem missing?_eq_none {s : Shape ρ} {seen : List String} :
    s.missing? seen = none ↔ ∀ f ∈ s.fields, f.need = .required → f.name ∈ seen := by
  simp [missing?]

/-- Of the names seen only those of fields matter. -/
theorem gather_congr {s : Shape ρ} {meaning : String → ρ → Value → Option ρ}
    {ms : List (String × Value)} {seen seen' : List String} {r : ρ}
    (same : ∀ f ∈ s.fields, f.name ∈ seen ↔ f.name ∈ seen') :
    s.gather meaning seen r ms = s.gather meaning seen' r ms := by
  induction ms generalizing seen seen' r with
  | nil =>
    have missing : s.missing? seen = none ↔ s.missing? seen' = none := by
      rw [missing?_eq_none, missing?_eq_none]
      exact forall₂_congr fun f hf => by rw [same f hf]
    rw [gather, gather]
    simp only [Option.isNone_iff_eq_none, missing]
  | cons m ms ih =>
    obtain ⟨name, v⟩ := m
    have later : ∀ f ∈ s.fields, f.name ∈ name :: seen ↔ f.name ∈ name :: seen' := by
      intro f hf
      rw [List.mem_cons, List.mem_cons, same f hf]
    rw [gather, gather, ih later]
    cases known : s.fields.find? fun f => f.name = name with
    | none => rfl
    | some field =>
      obtain rfl : field.name = name := by simpa using List.find?_some known
      have member := List.mem_of_find?_eq_some known
      have old : seen.contains field.name = seen'.contains field.name := by
        rw [Bool.eq_iff_iff, List.contains_iff_mem, List.contains_iff_mem]
        exact same field member
      simp only [old, ih later]

/-- Of the members only those under the names of fields matter. -/
theorem gather_filter {s : Shape ρ} {meaning : String → ρ → Value → Option ρ}
    (ms : List (String × Value)) (seen : List String) (r : ρ) :
    s.gather meaning seen r (ms.filter fun m => m.1 ∈ s.fields.map (·.name)) =
      s.gather meaning seen r ms := by
  induction ms generalizing seen r with
  | nil => rfl
  | cons m ms ih =>
    obtain ⟨name, v⟩ := m
    cases known : s.fields.find? fun f => f.name = name with
    | none =>
      have strange : ∀ f ∈ s.fields, f.name ≠ name := by simpa using known
      have other : name ∉ s.fields.map (·.name) := by simpa using strange
      rw [List.filter_cons_of_neg (by simpa using other), ih, gather, known]
      exact gather_congr fun f hf => by simp [strange f hf]
    | some field =>
      have named : name ∈ s.fields.map (·.name) :=
        List.mem_map.2 ⟨field, List.mem_of_find?_eq_some known,
          by simpa using List.find?_some known⟩
      rw [List.filter_cons_of_pos (by simpa using named), gather, gather]
      simp only [ih]

theorem nextName_member {first : Bool} {lead q : List UInt8} {name : String}
    (h : Separator first lead) (quoted : QuotedText name q) (rest : List UInt8) :
    nextName first (lead ++ (q ++ rest)) = .ok (some name, rest) := by
  obtain @⟨body, spelled⟩ := quoted
  have front {gap : List UInt8} (blank : Blanks gap) :
      skipBlanks (gap ++ (quoteMark :: (body ++ [quoteMark]) ++ rest)) =
        quoteMark :: (body ++ quoteMark :: rest) := by
    rw [skipBlanks_append blank, bracketed, skipBlanks_cons (by decide)]
  have read := text_spelled spelled rest
  cases h with
  | first blank =>
    rw [nextName, front blank]
    simp only [if_neg (show quoteMark ≠ closeObject by decide), if_true, read]
    rfl
  | later before after =>
    rw [List.append_assoc, List.cons_append, nextName, skipBlanks_close before (by decide)]
    simp only [if_neg (show comma ≠ closeObject by decide), Bool.false_eq_true, if_false, if_true,
      front after, read]
    rfl

theorem nextName_end {gap : List UInt8} (blank : Blanks gap) (first : Bool) (rest : List UInt8) :
    nextName first (gap ++ closeObject :: rest) = .ok (none, closeObject :: rest) := by
  rw [nextName, skipBlanks_close blank (by decide)]
  simp only [if_true]

theorem nameColon_member {b : List UInt8} (named : Blanks b) (rest : List UInt8) :
    nameColon (b ++ colon :: rest) = .ok rest := by
  rw [nameColon, skipBlanks_close named (by decide)]
  simp only [if_true]

section
variable {s : Shape ρ} {seen : List String} {r : ρ} {rest after content : List UInt8}
  {name : String}

theorem members_end (next : nextName seen.isEmpty rest = .ok (none, after)) :
    s.members seen r rest =
      match s.missing? seen with
      | some name => .ok (.error (.missingField name), after)
      | none => .ok (.ok r, after) := by
  rw [members]
  split
  · next h => rw [next] at h; cases h
  · next h => rw [next] at h; cases h; rfl
  · next h => rw [next] at h; cases h

theorem members_repeated (next : nextName seen.isEmpty rest = .ok (some name, after))
    {field : Field ρ} (known : (s.fields.find? fun f => f.name = name) = some field)
    (old : seen.contains name = true) :
    s.members seen r rest = .ok (.error (.duplicateField name), after) := by
  rw [members]
  split
  · next h => rw [next] at h; cases h
  · next h => rw [next] at h; cases h
  · next h =>
    rw [next] at h
    cases h
    simp only [known, old, if_true]

theorem members_field (next : nextName seen.isEmpty rest = .ok (some name, after)) {field : Field ρ}
    (known : (s.fields.find? fun f => f.name = name) = some field)
    (fresh : seen.contains name = false) (gap : nameColon after = .ok content) :
    s.members seen r rest =
      match (field.update r).run content with
      | .error f => .error f
      | .ok (updated, after) => s.members (name :: seen) updated after := by
  conv =>
    lhs
    rw [members]
  split
  · next h => rw [next] at h; cases h
  · next h => rw [next] at h; cases h
  · next h =>
    rw [next] at h
    cases h
    simp only [known, fresh, Bool.false_eq_true, if_false]
    split
    · next h => rw [gap] at h; cases h
    · next h =>
      rw [gap] at h
      cases h
      split <;> simp_all

theorem members_unknown (next : nextName seen.isEmpty rest = .ok (some name, after))
    (unknown : (s.fields.find? fun f => f.name = name) = none) (gap : nameColon after = .ok content)
    {later : List UInt8} (skipped : skipValue content = .ok later) :
    s.members seen r rest = s.members (name :: seen) r later := by
  conv =>
    lhs
    rw [members]
  split
  · next h => rw [next] at h; cases h
  · next h => rw [next] at h; cases h
  · next h =>
    rw [next] at h
    cases h
    simp only [unknown]
    split
    · next h => rw [gap] at h; cases h
    · next h =>
      rw [gap] at h
      cases h
      split
      · next h => rw [skipped] at h; cases h
      · next h =>
        rw [skipped] at h
        cases h
        rfl

end

/-- What the members of an object, read up to its bracket, come to; nothing where they are refused,
at once or for what they lack. -/
def Yields (body : Body ρ) (rest : List UInt8) : Option ρ → Prop
  | some r => body = .ok (.ok r, rest)
  | none => ∀ r after, body ≠ .ok (.ok r, after)

section
variable {s : Shape ρ} {meaning : String → ρ → Value → Option ρ} {rest : List UInt8}

theorem yields_end {gap : List UInt8} (blank : Blanks gap) (seen : List String) (r : ρ) :
    Yields (s.members seen r (gap ++ closeObject :: rest)) (closeObject :: rest)
      (s.gather meaning seen r []) := by
  rw [members_end (nextName_end blank _ rest), gather]
  cases s.missing? seen with
  | none => exact rfl
  | some name =>
    intro r after h
    cases h

/-- A member of a field is read, and then what follows it. -/
theorem yields_member {seen : List String} {lead q b c w later : List UInt8} {name : String}
    {v : Value}
    {ms : List (String × Value)} {r : ρ}
    (means : ∀ f ∈ s.fields, f.name = name → (f.update r).Gives v (meaning name r v))
    (named : name ∈ s.fields.map (·.name)) (h : Separator seen.isEmpty lead)
    (quoted : QuotedText name q)
    (gap : Blanks b) (before : Blanks c) (value : Written v w) (stop : Stops later)
    (others : ∀ r, Yields (s.members (name :: seen) r later) (closeObject :: rest)
      (s.gather meaning (name :: seen) r ms)) :
    Yields (s.members seen r (lead ++ (q ++ (b ++ colon :: (c ++ (w ++ later))))))
      (closeObject :: rest)
      (s.gather meaning seen r ((name, v) :: ms)) := by
  have next := nextName_member h quoted (b ++ colon :: (c ++ (w ++ later)))
  have colon' := nameColon_member gap (c ++ (w ++ later))
  rw [gather]
  cases known : s.fields.find? fun f => f.name = name with
  | none =>
    have strange : ∀ f ∈ s.fields, f.name ≠ name := by simpa using known
    obtain ⟨f, hf, same⟩ := List.mem_map.1 named
    exact absurd same (strange f hf)
  | some field =>
    obtain rfl : field.name = name := by simpa using List.find?_some known
    simp only [Option.isSome_some, if_true]
    cases old : seen.contains field.name with
    | true =>
      rw [members_repeated next known old]
      intro r after h
      cases h
    | false =>
      rw [members_field next known old colon']
      have read := means field (List.mem_of_find?_eq_some known) rfl w c later value before stop
      simp only [Bool.false_eq_true, if_false]
      cases o : meaning field.name r v with
      | none =>
        rw [o] at read
        obtain ⟨f, read⟩ := read
        rw [read]
        intro r after h
        cases h
      | some updated =>
        rw [o] at read
        rw [show (field.update r).run _ = _ from read]
        exact others updated

/-- Members are read to the record they come to, and the others are skipped. -/
theorem yields_members {first : Bool} {ms : List (String × Value)} {w : List UInt8}
    (h : Members (s.fields.map (·.name)) first ms w)
    (means : ∀ f ∈ s.fields, ∀ v, (f.name, v) ∈ ms → ∀ r, (f.update r).Gives v (meaning f.name r v))
    (rest : List UInt8) {seen : List String} (same : seen.isEmpty = first) (r : ρ) :
    Yields (s.members seen r (w ++ closeObject :: rest)) (closeObject :: rest)
      (s.gather meaning seen r ms) := by
  induction h generalizing seen r with
  | done blank => exact yields_end blank seen r
  | @read _ name v _ _ _ _ _ _ _ named separator quoted gap before value others ih =>
    subst same
    have here : ∀ f ∈ s.fields, f.name = name → (f.update r).Gives v (meaning name r v) := by
      rintro f hf rfl
      exact means f hf v List.mem_cons_self r
    have later := @ih fun f hf v hv => means f hf v (List.mem_cons_of_mem _ hv)
    have whole := yields_member here named separator quoted gap before value (others.stops rest)
      (@later (name :: seen) rfl)
    simpa using whole
  | @skipped _ name ms lead q b c w later named separator quoted gap before value others ih =>
    subst same
    have strange : ∀ f ∈ s.fields, f.name ≠ name := by simpa using named
    have unknown : (s.fields.find? fun f => f.name = name) = none := by simpa using strange
    have next :=
      nextName_member separator quoted (b ++ colon :: (c ++ (w ++ (later ++ closeObject :: rest))))
    have colon' := nameColon_member gap (c ++ (w ++ (later ++ closeObject :: rest)))
    have skipped := members_unknown next unknown colon'
      (skipValue_loose value before (others.stops rest)) (r := r)
    have forget := @gather_congr _ s meaning ms (name :: seen) seen r fun f hf => by
      simp [strange f hf]
    have rest' := @ih means (name :: seen) rfl r
    rw [forget] at rest'
    simp only [List.append_assoc, List.cons_append] at skipped ⊢
    rw [skipped]
    exact rest'

end

/-- What a record's reader makes of an object. Only the values that stand there have to mean
something. -/
theorem reader_gives_members {s : Shape ρ} {meaning : String → ρ → Value → Option ρ}
    {ms : List (String × Value)}
    (means : ∀ f ∈ s.fields, ∀ v, (f.name, v) ∈ ms → ∀ r,
      (f.update r).Gives v (meaning f.name r v)) :
    s.reader.Gives (.object ms) (s.gather meaning [] s.blank ms) := by
  intro w gap rest written blank stop
  show ComesTo (s.read (gap ++ (w ++ rest))) rest _
  have front := written.skipBlanks blank rest
  have body : ∃ inside, w ++ rest = openObject :: inside ∧
      Yields (s.members [] s.blank inside) (closeObject :: rest)
        (s.gather meaning [] s.blank ms) := by
    cases written with
    | emptyObject inside => exact ⟨_, bracketed .., yields_end inside [] s.blank⟩
    | object members =>
      have whole := members.members (s.fields.map (·.name)) (.first blanks_nil)
      have yields :=
        yields_members whole (fun f hf v hv => means f hf v (List.mem_filter.1 hv).1) rest
        (show [].isEmpty = true from rfl) s.blank
      rw [gather_filter] at yields
      exact ⟨_, bracketed .., yields⟩
  obtain ⟨inside, same, yields⟩ := body
  rw [read, front, same]
  simp only [if_neg (show openObject ≠ openList by decide), if_true]
  cases gathered : s.gather meaning [] s.blank ms with
  | some r =>
    rw [gathered] at yields
    rw [show s.members [] s.blank inside = _ from yields]
    show Except.ok (r, afterObject (closeObject :: rest)) = .ok (r, rest)
    rw [afterObject, skipBlanks_cons (by decide)]
    simp only [if_true]
  | none =>
    rw [gathered] at yields
    rcases read : s.members [] s.blank inside with f | ⟨why | r, after⟩
    · exact ⟨f, rfl⟩
    · exact ⟨_, rfl⟩
    · exact absurd read (yields r after)

theorem reader_gives {s : Shape ρ} {meaning : String → ρ → Value → Option ρ}
    (means : ∀ f ∈ s.fields, f.Means (meaning f.name)) (ms : List (String × Value)) :
    s.reader.Gives (.object ms) (s.gather meaning [] s.blank ms) :=
  reader_gives_members fun f hf v _ r => means f hf r v

/-! ### Fields, one by one -/

/-- Whether the values under a field's name are as many as it needs, and are read. -/
def Fits (need : Need) (seen : Prop) (reads : Value → Bool) : List Value → Prop
  | [] => need = .required → seen
  | [v] => ¬seen ∧ reads v = true
  | _ => False

theorem fits_cons {need : Need} {seen : Prop} {reads : Value → Bool} {v : Value} {vs : List Value} :
    Fits need seen reads (v :: vs) ↔ ¬seen ∧ reads v = true ∧ Fits need True reads vs := by
  cases vs with
  | nil => simp [Fits]
  | cons v' vs => cases vs <;> simp [Fits]

/-- An object comes to a record where the values under the name of each field fit it. Whether a
field reads a value does not depend on the record so far. -/
theorem isSome_gather {s : Shape ρ} {meaning : String → ρ → Value → Option ρ}
    {reads : String → Value → Bool} (same : ∀ name r v, (meaning name r v).isSome = reads name v)
    (ms : List (String × Value)) (seen : List String) (r : ρ) :
    (s.gather meaning seen r ms).isSome ↔
      ∀ f ∈ s.fields, Fits f.need (f.name ∈ seen) (reads f.name) (valuesOf f.name ms) := by
  induction ms generalizing seen r with
  | nil =>
    rw [gather]
    cases missing : s.missing? seen with
    | none => simpa [Fits] using missing?_eq_none.1 missing
    | some name =>
      have lacks : ¬∀ f ∈ s.fields, f.need = .required → f.name ∈ seen := by
        rw [← missing?_eq_none, missing]
        simp
      simpa [Fits] using lacks
  | cons m ms ih =>
    obtain ⟨name, v⟩ := m
    -- The fields of other names see the rest of the members only.
    have others : ∀ f ∈ s.fields, f.name ≠ name →
        (Fits f.need (f.name ∈ seen) (reads f.name) (valuesOf f.name ((name, v) :: ms)) ↔
          Fits f.need (f.name ∈ name :: seen) (reads f.name) (valuesOf f.name ms)) := by
      intro f _ other
      rw [valuesOf_cons_ne (Ne.symm other)]
      simp [other]
    have own : ∀ f ∈ s.fields, f.name = name →
        (Fits f.need (f.name ∈ seen) (reads f.name) (valuesOf f.name ((name, v) :: ms)) ↔
          name ∉ seen ∧ reads name v = true ∧
            Fits f.need (f.name ∈ name :: seen) (reads f.name) (valuesOf f.name ms)) := by
      rintro f _ rfl
      rw [valuesOf_cons_self, fits_cons]
      simp
    rw [gather]
    cases known : s.fields.find? fun f => f.name = name with
    | none =>
      have other : ∀ f ∈ s.fields, f.name ≠ name := by simpa using known
      simp only [Option.isSome_none, Bool.false_eq_true, if_false, ih]
      exact forall₂_congr fun f hf => (others f hf (other f hf)).symm
    | some field =>
      have member := List.mem_of_find?_eq_some known
      have named : field.name = name := by simpa using List.find?_some known
      have split : (∀ f ∈ s.fields,
          Fits f.need (f.name ∈ seen) (reads f.name) (valuesOf f.name ((name, v) :: ms))) ↔
          name ∉ seen ∧ reads name v = true ∧
            ∀ f ∈ s.fields, Fits f.need (f.name ∈ name :: seen) (reads f.name)
              (valuesOf f.name ms) := by
        constructor
        · intro h
          obtain ⟨new, read, -⟩ := (own field member named).1 (h field member)
          refine ⟨new, read, fun f hf => ?_⟩
          by_cases same : f.name = name
          · exact ((own f hf same).1 (h f hf)).2.2
          · exact (others f hf same).1 (h f hf)
        · rintro ⟨new, read, rest⟩ f hf
          by_cases same : f.name = name
          · exact (own f hf same).2 ⟨new, read, rest f hf⟩
          · exact (others f hf same).2 (rest f hf)
      rw [split, ← same name r v]
      simp only [Option.isSome_some, if_true]
      by_cases old : name ∈ seen
      · simp [old]
      · cases updated : meaning name r v with
        | none => simp [old]
        | some r' => simp [old, ih]

/-- How a part of a record changes with the values of its field: not at all where there are none,
and else to what the first one is read as. -/
def Becomes (read : Value → Option α) (old new : α) : List Value → Prop
  | [] => new = old
  | v :: _ => read v = some new

/-- The part of a record that one field sets, and no other, is what its value was read as, or stays
as it was. -/
theorem part_gather {s : Shape ρ} {meaning : String → ρ → Value → Option ρ} {name : String}
    {part : ρ → α} {read : Value → Option α}
    (known : (s.fields.find? fun f => f.name = name).isSome)
    (sets : ∀ r v r', meaning name r v = some r' → read v = some (part r'))
    (keeps : ∀ other r v r', other ≠ name → meaning other r v = some r' → part r' = part r)
    {ms : List (String × Value)} {seen : List String} {r r' : ρ}
    (h : s.gather meaning seen r ms = some r') :
    (name ∈ seen → valuesOf name ms = []) ∧ Becomes read (part r) (part r') (valuesOf name ms) := by
  induction ms generalizing seen r with
  | nil =>
    rw [gather] at h
    split at h
    · cases h
      exact ⟨fun _ => rfl, rfl⟩
    · cases h
  | cons m ms ih =>
    obtain ⟨other, v⟩ := m
    rw [gather] at h
    by_cases same : other = name
    · subst same
      rw [if_pos known] at h
      split at h
      · cases h
      next new =>
        obtain ⟨r₁, updated, h⟩ := Option.bind_eq_some_iff.1 h
        obtain ⟨none, stays⟩ := ih h
        rw [none (by simp)] at stays
        refine ⟨fun old => absurd (by simpa using old) new, ?_⟩
        rw [valuesOf_cons_self]
        exact (sets r v r₁ updated).trans (congrArg some stays.symm)
    · rw [valuesOf_cons_ne same]
      split at h
      · split at h
        · cases h
        obtain ⟨r₁, updated, h⟩ := Option.bind_eq_some_iff.1 h
        obtain ⟨none, stays⟩ := ih h
        rw [← keeps other r v r₁ same updated]
        exact ⟨fun old => none (by simp [old]), stays⟩
      · obtain ⟨none, stays⟩ := ih h
        exact ⟨fun old => none (by simp [old]), stays⟩

/-- What a part of a record has come to, from the values of its field: it is as before, or what one
value was read as. -/
theorem Fits.settled {need : Need} {seen : Prop} {reads : Value → Bool} {read : Value → Option α}
    {old new : α} {vs : List Value} (h : Fits need seen reads vs) (unseen : ¬seen)
    (becomes : Becomes read old new vs) :
    (vs = [] ∧ need ≠ .required ∧ new = old) ∨ ∃ v, vs = [v] ∧ read v = some new := by
  match vs, h with
  | [], h => exact .inl ⟨rfl, fun required => unseen (h required), becomes⟩
  | [v], _ => exact .inr ⟨v, rfl, becomes⟩

/-- Under the name of a field that is required there is one value, and a part that this field alone
sets is what that value was read as. -/
theorem gather_required {s : Shape ρ} {meaning : String → ρ → Value → Option ρ}
    {reads : String → Value → Bool} (same : ∀ name r v, (meaning name r v).isSome = reads name v)
    {field : Field ρ} (known : field ∈ s.fields) (required : field.need = .required) {part : ρ → α}
    {read : Value → Option α}
    (sets : ∀ r v r', meaning field.name r v = some r' → read v = some (part r'))
    (keeps : ∀ other r v r', other ≠ field.name → meaning other r v = some r' → part r' = part r)
    {ms : List (String × Value)} {r r' : ρ} (h : s.gather meaning [] r ms = some r') :
    ∃ v, valuesOf field.name ms = [v] ∧ read v = some (part r') := by
  have fits := (isSome_gather same ms [] r).1 (by rw [h]; rfl) field known
  have found : (s.fields.find? fun f => f.name = field.name).isSome := by
    rw [List.find?_isSome]
    exact ⟨field, known, decide_eq_true rfl⟩
  rcases fits.settled (by simp) (part_gather found sets keeps h).2 with ⟨-, optional, -⟩ | settled
  · exact absurd required optional
  · exact settled

end Shape

/-! ### Documents -/

section
variable {reader : Reader α} {v : Value} {bytes : List UInt8}

/-- Only blanks follow the value of a document. -/
theorem document_comesTo {o : Option α} (gives : reader.Gives v o)
    (written : WrittenDocument v bytes) :
    ∃ gap, Blanks gap ∧ ComesTo (reader.run bytes) gap o := by
  obtain @⟨a, w, b, before, value, after⟩ := written
  have stop : Stops b := by
    rw [← List.append_nil b]
    exact stops_append after trivial
  exact ⟨b, after, gives w a b value before stop⟩

theorem document_eq_ok {a : α} (gives : reader.Gives v (some a))
    (written : WrittenDocument v bytes) :
    document reader bytes = .ok a := by
  obtain ⟨gap, blank, read⟩ := document_comesTo gives written
  have ended : skipBlanks gap = [] := by
    rw [← List.append_nil gap, skipBlanks_append blank]
    rfl
  simp only [document, show reader.run bytes = _ from read, ended]

theorem document_eq_error (gives : reader.Gives v none) (written : WrittenDocument v bytes) :
    ∃ f, document reader bytes = .error f := by
  obtain ⟨gap, blank, f, read⟩ := document_comesTo gives written
  exact ⟨f, by rw [document, read]⟩

end

end KeyRelay.Json
