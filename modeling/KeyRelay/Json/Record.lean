import KeyRelay.Json.Reader

/-!
Records. A `Shape` names the fields and says what a record holds before any field is read. Members
of an object may stand in any order, each field at most once, and unknown members are skipped; a
list holds the fields in order. What the record itself objects to (a repeated, missing or lacking
field) is placed after the closing bracket where that follows.
-/

namespace KeyRelay.Json

/-- When a field may be left out. -/
inductive Need where
  /-- Never. -/
  | required
  /-- In an object, where leaving it out means nothing is there. -/
  | nullable
  /-- Always; the value it has before reading stands. -/
  | defaulted
  deriving DecidableEq, Repr

/-- A field of a record: its name, and what reading it does to the record. -/
structure Field (ρ : Type) where
  name : String
  need : Need
  update : ρ → Reader ρ

/-- A field that is set to what a reader gives. -/
def Field.of {ρ α : Type} (name : String) (need : Need) (value : Reader α) (set : ρ → α → ρ) :
    Field ρ where
  name := name
  need := need
  update r :=
    { run := fun rest => (value.run rest).map fun (a, after) => (set r a, after)
      run_lt := by
        intro rest a after h
        cases e : value.run rest with
        | error f => simp [e, Except.map] at h
        | ok x =>
          obtain ⟨_, _⟩ := x
          have := value.run_lt e
          simp [e, Except.map] at h
          rw [← h.2]; exact this }

/-- The name of a record for messages, the record before reading, and its fields. -/
structure Shape (ρ : Type) where
  name : String
  blank : ρ
  fields : List (Field ρ)

/-- The words for a record where something else stands. -/
def Shape.wanted {ρ : Type} (s : Shape ρ) : String :=
  "struct " ++ s.name

/-- What the members of a record come to, or what the record objects to, and the bytes after
them. -/
abbrev Body (ρ : Type) := Result (Except Reason ρ)

/-! ### Objects -/

/-- The next name of an object, up to its closing quote; nothing before a closing bracket. -/
def nextName (first : Bool) (rest : List UInt8) : Result (Option String) :=
  match skipBlanks rest with
  | [] => refuse .endInObject []
  | b :: more =>
    if b = closeObject then .ok (none, b :: more)
    else if first then
      if b = quoteMark then (text more).map fun (s, after) => (some s, after)
      else refuseNext .notAKey (b :: more)
    else if b = comma then
      match skipBlanks more with
      | [] => refuse .endInValue []
      | q :: named =>
        if q = quoteMark then (text named).map fun (s, after) => (some s, after)
        else if q = closeObject then refuseNext .trailingComma (q :: named)
        else refuseNext .notAKey (q :: named)
    else refuseNext .noObjectSeparator (b :: more)

/-- The colon after a name. -/
def nameColon (rest : List UInt8) : Except Fault (List UInt8) :=
  match skipBlanks rest with
  | [] => refuse .endInObject []
  | b :: more => if b = colon then .ok more else refuseNext .noColon (b :: more)

theorem nextName_le {first : Bool} {rest after : List UInt8} {name : Option String}
    (h : nextName first rest = .ok (name, after)) :
    after.length ≤ rest.length ∧ (name.isSome → after.length < rest.length) := by
  have le := skipBlanks_le rest
  have named {r : List UInt8}
      (h : (text r).map (fun (s, after) => (some s, after)) = .ok (name, after)) :
      after.length < r.length := by
    cases e : text r with
    | error f => simp [e, Except.map] at h
    | ok x =>
      obtain ⟨_, _⟩ := x
      have := text_lt e
      simp [e, Except.map] at h
      rw [← h.2]; exact this
  simp only [nextName] at h
  split at h
  · simp [refuse] at h
  · next b more e =>
    rw [e] at le
    simp at le
    split at h
    · simp at h
      rw [← h.1, ← h.2]; simp; omega
    · split at h
      · split at h
        · have := named h
          omega
        · simp [refuseNext] at h
      · split at h
        · have le₂ := skipBlanks_le more
          split at h
          · simp [refuse] at h
          · next q rest₂ e₂ =>
            rw [e₂] at le₂
            simp at le₂
            split at h
            · have := named h
              omega
            · split at h <;> simp [refuseNext] at h
        · simp [refuseNext] at h

theorem nameColon_le {rest after : List UInt8} (h : nameColon rest = .ok after) :
    after.length ≤ rest.length := by
  have le := skipBlanks_le rest
  simp only [nameColon] at h
  split at h
  · simp [refuse] at h
  · next b more e =>
    rw [e] at le
    simp at le
    split at h
    · simp at h; rw [← h]; omega
    · simp [refuseNext] at h

/-- The first field an object has to have and has not. -/
def Shape.missing? {ρ : Type} (s : Shape ρ) (seen : List String) : Option String :=
  (s.fields.find? fun f => f.need = .required && !seen.contains f.name).map (·.name)

/-- The members of an object after its opening bracket, up to its closing one; `seen` are the names
met. -/
def Shape.members {ρ : Type} (s : Shape ρ) (seen : List String) (r : ρ) (rest : List UInt8) :
    Body ρ :=
  match h : nextName seen.isEmpty rest with
  | .error f => .error f
  | .ok (none, after) =>
    match s.missing? seen with
    | some name => .ok (.error (.missingField name), after)
    | none => .ok (.ok r, after)
  | .ok (some name, after) =>
    have := (nextName_le h).2 rfl
    match s.fields.find? fun f => f.name = name with
    | some field =>
      if seen.contains name then .ok (.error (.duplicateField name), after)
      else
        match h₂ : nameColon after with
        | .error f => .error f
        | .ok content =>
          match h₃ : (field.update r).run content with
          | .error f => .error f
          | .ok (updated, after) =>
            have := nameColon_le h₂
            have := (field.update r).run_lt h₃
            s.members (name :: seen) updated after
    | none =>
      match h₂ : nameColon after with
      | .error f => .error f
      | .ok content =>
        match h₃ : skipValue content with
        | .error f => .error f
        | .ok after =>
          have := nameColon_le h₂
          have := skipValue_lt h₃
          s.members (name :: seen) r after
  termination_by rest.length

/-- The closing bracket of an object is taken where it follows. -/
def afterObject (rest : List UInt8) : List UInt8 :=
  match skipBlanks rest with
  | [] => []
  | b :: more => if b = closeObject then more else b :: more

/-! ### Lists -/

/-- Whether another element follows; a comma before it is taken. -/
def nextElement (first : Bool) (rest : List UInt8) : Result Bool :=
  match skipBlanks rest with
  | [] => refuse .endInList []
  | b :: more =>
    if b = closeList then .ok (false, b :: more)
    else if first then .ok (true, b :: more)
    else if b = comma then
      match skipBlanks more with
      | [] => refuse .endInValue []
      | c :: after =>
        if c = closeList then refuseNext .trailingComma (c :: after) else .ok (true, c :: after)
    else refuseNext .noListSeparator (b :: more)

/-- The elements of a list after its opening bracket, one for each field; `index` counts them. -/
def Shape.elements {ρ : Type} (s : Shape ρ) (index : Nat) (r : ρ) :
    List (Field ρ) → List UInt8 → Body ρ
  | [], rest => .ok (.ok r, rest)
  | field :: fields, rest =>
    match nextElement (index = 0) rest with
    | .error f => .error f
    | .ok (true, after) =>
      match (field.update r).run after with
      | .error f => .error f
      | .ok (updated, after) => s.elements (index + 1) updated fields after
    | .ok (false, after) =>
      if field.need = .defaulted then s.elements (index + 1) r fields after
      else
        let wanted := s.wanted ++ " with " ++ toString s.fields.length ++ " elements"
        .ok (.error (.wrongLength index wanted), after)

/-- The closing bracket of a list, which has to follow. -/
def endList (rest : List UInt8) : Except Fault (List UInt8) :=
  match skipBlanks rest with
  | [] => refuse .endInList []
  | b :: more =>
    if b = closeList then .ok more
    else if b = comma then
      match skipBlanks more with
      | [] => refuse .trailingCharacters []
      | c :: after =>
        if c = closeList then refuseNext .trailingComma (c :: after)
        else refuseNext .trailingCharacters (c :: after)
    else refuseNext .trailingCharacters (b :: more)

/-- The closing bracket of a list, or a comma with the blanks after it, is taken where it
follows. -/
def afterList (rest : List UInt8) : List UInt8 :=
  match skipBlanks rest with
  | [] => []
  | b :: more => if b = closeList then more else if b = comma then skipBlanks more else b :: more

/-! ### Either -/

def Shape.read {ρ : Type} (s : Shape ρ) (rest : List UInt8) : Result ρ :=
  match skipBlanks rest with
  | [] => refuse .endInValue []
  | b :: more =>
    if b = openList then
      match s.elements 0 s.blank s.fields more with
      | .error f => .error f
      | .ok (.error why, after) => refuse why (afterList after)
      | .ok (.ok r, after) => (endList after).map (r, ·)
    else if b = openObject then
      match s.members [] s.blank more with
      | .error f => .error f
      | .ok (.error why, after) => refuse why (afterObject after)
      | .ok (.ok r, after) => .ok (r, afterObject after)
    else refuseKind s.wanted (b :: more)

theorem Shape.members_le {ρ : Type} {s : Shape ρ} {seen : List String} {r : ρ}
    {rest after : List UInt8} {a : Except Reason ρ} (h : s.members seen r rest = .ok (a, after)) :
    after.length ≤ rest.length := by
  fun_induction Shape.members s seen r rest
  case case1 => simp at h
  case case2 e _ _ => have := (nextName_le e).1; simp at h; rw [← h.2]; exact this
  case case3 e _ => have := (nextName_le e).1; simp at h; rw [← h.2]; exact this
  case case4 e _ _ _ _ => have := (nextName_le e).1; simp at h; rw [← h.2]; exact this
  case case5 => simp at h
  case case6 => simp at h
  case case7 ih => have := ih h; omega
  case case8 => simp at h
  case case9 => simp at h
  case case10 ih => have := ih h; omega

theorem nextElement_le {first another : Bool} {rest after : List UInt8}
    (h : nextElement first rest = .ok (another, after)) : after.length ≤ rest.length := by
  have le := skipBlanks_le rest
  simp only [nextElement] at h
  split at h
  · simp [refuse] at h
  · next b more e =>
    rw [e] at le
    split at h
    · simp at h; rw [← h.2]; exact le
    · split at h
      · simp at h; rw [← h.2]; exact le
      · split at h
        · have le₂ := skipBlanks_le more
          split at h
          · simp [refuse] at h
          · next c last e₂ =>
            rw [e₂] at le₂
            split at h
            · simp [refuseNext] at h
            · simp at h le le₂
              rw [← h.2]; simp; omega
        · simp [refuseNext] at h

theorem Shape.elements_le {ρ : Type} {s : Shape ρ} {index : Nat} {r : ρ} {fields : List (Field ρ)}
    {rest after : List UInt8} {a : Except Reason ρ}
    (h : s.elements index r fields rest = .ok (a, after)) :
    after.length ≤ rest.length := by
  induction fields generalizing index r rest with
  | nil => simp [elements] at h; simp [h]
  | cons field fields ih =>
    simp only [elements] at h
    split at h
    · simp at h
    · next e =>
      have le := nextElement_le e
      split at h
      · simp at h
      · next e₂ =>
        have := (field.update r).run_lt e₂
        have := ih h
        omega
    · next e =>
      have le := nextElement_le e
      split at h
      · have := ih h
        omega
      · simp at h; rw [← h.2]; exact le

theorem endList_le {rest after : List UInt8} (h : endList rest = .ok after) :
    after.length ≤ rest.length := by
  have le := skipBlanks_le rest
  simp only [endList] at h
  split at h
  · simp [refuse] at h
  · next b more e =>
    rw [e] at le
    simp at le
    split at h
    · simp at h; rw [← h]; omega
    · split at h
      · split at h
        · simp [refuse] at h
        · split at h <;> simp [refuseNext] at h
      · simp [refuseNext] at h

theorem afterObject_le (rest : List UInt8) : (afterObject rest).length ≤ rest.length := by
  have le := skipBlanks_le rest
  simp only [afterObject]
  split
  · simp
  · next b more e =>
    rw [e] at le
    simp at le
    split <;> simp <;> omega

theorem Shape.read_lt {ρ : Type} {s : Shape ρ} {rest after : List UInt8} {r : ρ}
    (h : s.read rest = .ok (r, after)) : after.length < rest.length := by
  have le := skipBlanks_le rest
  simp only [read] at h
  split at h
  · simp [refuse] at h
  · next b more e =>
    rw [e] at le
    simp at le
    split at h
    · split at h
      · simp at h
      · simp [refuse] at h
      · next r₂ after₂ e₂ =>
        have := elements_le e₂
        cases e₃ : endList after₂ with
        | error f => simp [e₃, Except.map] at h
        | ok x =>
          have := endList_le e₃
          simp [e₃, Except.map] at h
          rw [← h.2]; omega
    · split at h
      · split at h
        · simp at h
        · simp [refuse] at h
        · next r₂ after₂ e₂ =>
          have := members_le e₂
          have := afterObject_le after₂
          simp at h
          rw [← h.2]; omega
      · exact absurd h refuseKind_ne_ok

/-- A record of this shape. -/
def Shape.reader {ρ : Type} (s : Shape ρ) : Reader ρ :=
  ⟨s.read, s.read_lt⟩

/-- A document that holds one value and nothing but blanks around it. -/
def document {α : Type} (value : Reader α) (bytes : List UInt8) : Except Fault α :=
  match value.run bytes with
  | .error f => .error f
  | .ok (a, after) =>
    match skipBlanks after with
    | [] => .ok a
    | b :: more => refuseNext .trailingCharacters (b :: more)

end KeyRelay.Json
