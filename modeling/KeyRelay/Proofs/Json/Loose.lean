import KeyRelay.Json.Skip
import KeyRelay.Proofs.Json.Token

/-!
The grammar of what is skipped. A value nobody asked for may be written more loosely than one that
is read: the bytes of its strings need not be text, and a surrogate may stand alone. `Written.loose`
says that the grammar is no narrower than the one of values that are read.
-/

namespace KeyRelay.Json

/-! ### What starts a value -/

/-- A byte that neither separates nor ends anything. -/
def Opens (b : UInt8) : Prop :=
  isBlank b = false ∧ b ≠ comma ∧ b ≠ closeList ∧ b ≠ closeObject

instance (b : UInt8) : Decidable (Opens b) :=
  inferInstanceAs (Decidable (_ ∧ _))

theorem opens_digit {b : UInt8} (h : 0x30 ≤ b.toNat ∧ b.toNat ≤ 0x39) : Opens b := by
  have notBlank : isBlank b = false := by
    rw [← Bool.not_eq_true, isBlank_eq_true]
    rintro (rfl | rfl | rfl | rfl) <;> exact absurd h.1 (by decide)
  refine ⟨notBlank, ?_, ?_, ?_⟩ <;> rintro rfl
  · exact absurd h.1 (by decide)
  · exact absurd h.2 (by decide)
  · exact absurd h.2 (by decide)

theorem opens_numeral {b : UInt8} (h : b = minusSign ∨ isDigit b = true) : Opens b := by
  rcases h with rfl | digit
  · decide
  · exact opens_digit (isDigit_eq_true.1 digit)

/-- The first byte of a value tells of what kind it is. -/
def Value.Starts : Value → UInt8 → Prop
  | .null, b => b = 0x6E
  | .boolean true, b => b = 0x74
  | .boolean false, b => b = 0x66
  | .number _, b => b = minusSign ∨ isDigit b = true
  | .text _, b => b = quoteMark
  | .list _, b => b = openList
  | .object _, b => b = openObject

theorem Value.Starts.opens {v : Value} {b : UInt8} (h : v.Starts b) : Opens b := by
  cases v with
  | null => exact h ▸ by decide
  | boolean t => cases t <;> exact h ▸ by decide
  | number n => exact opens_numeral h
  | text s => exact h ▸ by decide
  | list items => exact h ▸ by decide
  | object members => exact h ▸ by decide

theorem WrittenNumeral.exists_cons {n : Numeral} {w : List UInt8} (h : WrittenNumeral n w) :
    ∃ b rest, w = b :: rest ∧ (b = minusSign ∨ isDigit b = true) := by
  obtain @⟨fraction, exponent, whole, -, -, -⟩ := h
  cases n.negative with
  | true => exact ⟨_, _, rfl, .inl rfl⟩
  | false =>
    cases digits : n.whole with
    | nil => exact absurd digits whole.nonempty
    | cons d ds => exact ⟨d, _, rfl, .inr (whole.isDigit d (by rw [digits]; simp))⟩

theorem Written.exists_cons {v : Value} {w : List UInt8} (h : Written v w) :
    ∃ b rest, w = b :: rest ∧ v.Starts b := by
  cases h with
  | number numeral => exact numeral.exists_cons
  | text quoted =>
    obtain ⟨spelled⟩ := quoted
    exact ⟨_, _, rfl, rfl⟩
  | _ => exact ⟨_, _, rfl, rfl⟩

/-- The blanks before a value are skipped, and nothing of it. -/
theorem Written.skipBlanks {v : Value} {w gap : List UInt8} (h : Written v w) (blank : Blanks gap)
    (rest : List UInt8) : Json.skipBlanks (gap ++ (w ++ rest)) = w ++ rest := by
  obtain ⟨b, more, rfl, starts⟩ := h.exists_cons
  rw [skipBlanks_append blank, List.cons_append, skipBlanks_cons starts.opens.1]

theorem stops_cons {b : UInt8} (h : isDigit b = false ∧ b ≠ 0x2E ∧ b ≠ 0x65 ∧ b ≠ 0x45)
    (rest : List UInt8) :
    Stops (b :: rest) := h

theorem stops_append {gap rest : List UInt8} (blank : Blanks gap) (stop : Stops rest) :
    Stops (gap ++ rest) := by
  cases gap with
  | nil => exact stop
  | cons b gap =>
    rcases blank b (by simp) with rfl | rfl | rfl | rfl
    all_goals exact stops_cons (by decide) _

/-! ### The loose grammar -/

/-- What can stand between the quotation marks of a string that is skipped. -/
inductive LooseBody : List UInt8 → Prop where
  | done : LooseBody []
  | raw {b : UInt8} {body : List UInt8} (plain : b ≠ quoteMark ∧ b ≠ backslash ∧ ¬b < 0x20)
      (rest : LooseBody body) :
      LooseBody (b :: body)
  | short {letter c : Char} {body : List UInt8} (known : (letter, c) ∈ shortEscapes)
      (rest : LooseBody body) :
      LooseBody (backslash :: UInt8.ofNat letter.toNat :: body)
  | numeric {n : Nat} {digits body : List UInt8} (number : FourHex n digits)
      (rest : LooseBody body) :
      LooseBody (backslash :: unicodeMark :: (digits ++ body))

inductive LooseText : List UInt8 → Prop where
  | intro {body : List UInt8} (loose : LooseBody body) :
      LooseText (quoteMark :: (body ++ [quoteMark]))

/-- What stands between brackets before an element or a member: blanks before the first one, a comma
with blanks around it before every other. -/
inductive Separator : Bool → List UInt8 → Prop where
  | first {gap : List UInt8} (blank : Blanks gap) : Separator true gap
  | later {a b : List UInt8} (before : Blanks a) (after : Blanks b) :
      Separator false (a ++ comma :: b)

/-- The name of a member that is skipped, with its colon; an element has none. -/
inductive LooseName : Bracket → List UInt8 → Prop where
  | element : LooseName .list []
  | member {a q b : List UInt8} (before : Blanks a) (quoted : LooseText q) (named : Blanks b) :
      LooseName .object (a ++ (q ++ (b ++ [colon])))

def Bracket.opening : Bracket → UInt8
  | .list => openList
  | .object => openObject

mutual

/-- How a value that is skipped can be written. -/
inductive Loose : List UInt8 → Prop where
  | null : Loose (letters "null")
  | true : Loose (letters "true")
  | false : Loose (letters "false")
  | number {n : Numeral} {w : List UInt8} (numeral : WrittenNumeral n w) : Loose w
  | text {w : List UInt8} (quoted : LooseText w) : Loose w
  | bracket {bracket : Bracket} {tail : List UInt8} (inside : LooseTail bracket Bool.true tail) :
      Loose (bracket.opening :: tail)

/-- What can stand from within a bracket up to where it is closed; `fresh` holds right after it is
opened. -/
inductive LooseTail : Bracket → Bool → List UInt8 → Prop where
  | close {bracket : Bracket} {fresh : Bool} {gap : List UInt8} (blank : Blanks gap) :
      LooseTail bracket fresh (gap ++ [bracket.closing])
  | next {bracket : Bracket} {fresh : Bool} {lead name gap w tail : List UInt8}
      (separator : Separator fresh lead)
      (named : LooseName bracket name) (before : Blanks gap) (value : Loose w)
      (rest : LooseTail bracket Bool.false tail) :
      LooseTail bracket fresh (lead ++ (name ++ (gap ++ (w ++ tail))))

end

theorem Loose.exists_cons {w : List UInt8} (h : Loose w) : ∃ b rest, w = b :: rest ∧ Opens b := by
  cases h with
  | number numeral =>
    obtain ⟨b, rest, same, first⟩ := numeral.exists_cons
    exact ⟨b, rest, same, opens_numeral first⟩
  | text quoted =>
    obtain ⟨loose⟩ := quoted
    exact ⟨_, _, rfl, by decide⟩
  | @bracket bracket _ _ => exact ⟨_, _, rfl, by cases bracket <;> decide⟩
  | _ => exact ⟨_, _, rfl, by decide⟩

/-- Nothing of a value is skipped as blank. -/
theorem Loose.skipBlanks {w : List UInt8} (h : Loose w) (rest : List UInt8) :
    Json.skipBlanks (w ++ rest) = w ++ rest := by
  obtain ⟨b, more, rfl, opens⟩ := h.exists_cons
  rw [List.cons_append, skipBlanks_cons opens.1]

theorem Separator.append {first : Bool} {lead gap : List UInt8} (h : Separator first lead)
    (blank : Blanks gap) :
    Separator first (lead ++ gap) := by
  cases h with
  | first before => exact .first (before.append blank)
  | later before after =>
    rw [List.append_assoc, List.cons_append]
    exact .later before (after.append blank)

/-- No numeral goes on where another element or member follows. -/
theorem Separator.stops {lead : List UInt8} (h : Separator Bool.false lead) (rest : List UInt8) :
    Stops (lead ++ rest) := by
  cases h with
  | later before =>
    rw [List.append_assoc]
    exact stops_append before (stops_cons (by decide) _)

theorem LooseTail.stops {bracket : Bracket} {tail : List UInt8}
    (h : LooseTail bracket Bool.false tail) (rest : List UInt8) : Stops (tail ++ rest) := by
  cases h with
  | close blank =>
    rw [List.append_assoc]
    exact stops_append blank (stops_cons (by cases bracket <;> decide) rest)
  | next separator =>
    rw [List.append_assoc]
    exact separator.stops _

/-! ### Written values are loose -/

theorem LooseBody.plain {bs body : List UInt8} (plain : PlainBytes bs) (rest : LooseBody body) :
    LooseBody (bs ++ body) := by
  induction bs with
  | nil => exact rest
  | cons b bs ih =>
    exact .raw (plain b (by simp)) (ih fun x hx => plain x (List.mem_cons_of_mem _ hx))

theorem Spelled.loose {cs : List Char} {body : List UInt8} (h : Spelled cs body) :
    LooseBody body := by
  induction h with
  | done => exact .done
  | raw plain _ ih => exact .plain (plainBytes_encode plain) ih
  | short known _ ih => exact .short known ih
  | numeric number _ ih => exact .numeric number ih
  | pair _ _ first second _ ih => exact .numeric first (.numeric second ih)

theorem QuotedText.loose {s : String} {w : List UInt8} (h : QuotedText s w) : LooseText w := by
  obtain ⟨spelled⟩ := h
  exact .intro spelled.loose

mutual

/-- What can be read can be skipped. -/
theorem Written.loose {v : Value} {w : List UInt8} : Written v w → Loose w
  | .null => .null
  | .true => .true
  | .false => .false
  | .number numeral => .number numeral
  | .text quoted => .text quoted.loose
  | .emptyList blank => @Loose.bracket .list _ (.close blank)
  | .list items => @Loose.bracket .list _ (items.loose (.first blanks_nil))
  | .emptyObject blank => @Loose.bracket .object _ (.close blank)
  | .object members => @Loose.bracket .object _ (members.loose (.first blanks_nil))

theorem WrittenItems.loose {vs : List Value} {w : List UInt8} :
    WrittenItems vs w → ∀ {fresh : Bool} {lead : List UInt8}, Separator fresh lead →
      LooseTail .list fresh (lead ++ (w ++ [Bracket.list.closing]))
  | .one before value after, fresh, lead, separator => by
    have tail := LooseTail.next separator .element before value.loose (.close after)
    simpa using tail
  | .cons before value after later, fresh, lead, separator => by
    have tail :=
      LooseTail.next separator .element before value.loose (later.loose (.later after blanks_nil))
    simpa using tail

theorem WrittenMembers.loose {ms : List (String × Value)} {w : List UInt8} :
    WrittenMembers ms w → ∀ {fresh : Bool} {lead : List UInt8}, Separator fresh lead →
      LooseTail .object fresh (lead ++ (w ++ [Bracket.object.closing]))
  | .one before quoted named gap value after, fresh, lead, separator => by
    have tail := LooseTail.next separator (.member before quoted.loose named) gap value.loose
      (.close after)
    simpa using tail
  | .cons before quoted named gap value after later, fresh, lead, separator => by
    have tail := LooseTail.next separator (.member before quoted.loose named) gap value.loose
      (later.loose (.later after blanks_nil))
    simpa using tail

end

/-! ### Strings hold no controls -/

theorem HexDigit.solid {n : Nat} {b : UInt8} (h : HexDigit n b) : 0x20 ≤ b := by
  rw [UInt8.le_iff_toNat_le]
  cases h with
  | digit _ byte => rw [byte]; exact Nat.le_trans (by decide) (Nat.le_add_right 0x30 _)
  | lower _ _ byte => rw [byte]; exact Nat.le_trans (by decide) (Nat.le_add_right 0x61 _)
  | upper _ _ byte => rw [byte]; exact Nat.le_trans (by decide) (Nat.le_add_right 0x41 _)

theorem FourHex.solid {n : Nat} {digits : List UInt8} (h : FourHex n digits) :
    ∀ b ∈ digits, 0x20 ≤ b := by
  obtain ⟨first, second, third, fourth⟩ := h
  simp [first.solid, second.solid, third.solid, fourth.solid]

theorem solid_of_short {letter c : Char} (h : (letter, c) ∈ shortEscapes) :
    0x20 ≤ UInt8.ofNat letter.toNat := by
  have all : ∀ e ∈ shortEscapes, 0x20 ≤ UInt8.ofNat e.1.toNat := by decide
  exact all _ h

/-- Controls stand in no string, whichever way it is written. -/
theorem LooseBody.solid {body : List UInt8} (h : LooseBody body) : ∀ b ∈ body, 0x20 ≤ b := by
  have slash : 0x20 ≤ backslash := by decide
  have mark : 0x20 ≤ unicodeMark := by decide
  induction h with
  | done => simp
  | raw plain _ ih => simpa using ⟨UInt8.not_lt.1 plain.2.2, ih⟩
  | short known _ ih => simpa [slash, solid_of_short known] using ih
  | numeric number _ ih => simpa [slash, mark, or_imp, forall_and] using ⟨number.solid, ih⟩

theorem LooseText.solid {w : List UInt8} (h : LooseText w) : ∀ b ∈ w, 0x20 ≤ b := by
  obtain ⟨loose⟩ := h
  have quote : 0x20 ≤ quoteMark := by decide
  simpa [quote, or_imp, forall_and] using loose.solid

end KeyRelay.Json
