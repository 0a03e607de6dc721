import KeyRelay.Proofs.Json.Lexeme
import KeyRelay.Proofs.Json.Loose

/-!
What is skipped is what the loose grammar allows, however deep it nests. One way the induction is on
how the value is written, for any stack of brackets around it: the value, or what is left between
its brackets, takes the reader to where it stands after it. The other way it is on the turns of the
reader: `Expect.Covers` says what a stack of brackets still wants of the bytes, and each turn takes
the front of that.
-/

namespace KeyRelay.Json

/-! ### One turn of the reader -/

theorem skip_value (stack : List Bracket) (rest : List UInt8) :
    skip stack .value rest =
      match skipFront (skipBlanks rest) with
      | .error f => .error f
      | .ok (none, after) => skip stack (.inside false) after
      | .ok (some bracket, after) => skip (bracket :: stack) (.inside true) after := by
  rw [skip]
  split <;> simp_all

theorem skip_nil (fresh : Bool) (rest : List UInt8) : skip [] (.inside fresh) rest = .ok rest := by
  rw [skip]

theorem skip_close {bracket : Bracket} {rest more : List UInt8}
    (next : skipBlanks rest = bracket.closing :: more) (outer : List Bracket) (fresh : Bool) :
    skip (bracket :: outer) (.inside fresh) rest = skip outer (.inside false) more := by
  rw [skip]
  split
  · next h => rw [next] at h; cases h
  · next h =>
    rw [next] at h
    cases h
    simp

theorem skip_first {bracket : Bracket} {rest more after : List UInt8} {b : UInt8}
    (next : skipBlanks rest = b :: more) (opens : b ≠ bracket.closing)
    (name : skipName bracket (b :: more) = .ok after) (outer : List Bracket) :
    skip (bracket :: outer) (.inside true) rest = skip (bracket :: outer) .value after := by
  conv =>
    lhs
    rw [skip]
  split
  · next h => rw [next] at h; cases h
  · next h =>
    rw [next] at h
    cases h
    simp only [if_neg opens, if_true]
    split
    · next h => rw [name] at h; cases h
    · next h =>
      rw [name] at h
      cases h
      rfl

theorem skip_next {bracket : Bracket} {rest more after : List UInt8}
    (next : skipBlanks rest = comma :: more) (name : skipName bracket more = .ok after)
    (outer : List Bracket) :
    skip (bracket :: outer) (.inside false) rest = skip (bracket :: outer) .value after := by
  have opens : comma ≠ bracket.closing := by cases bracket <;> decide
  conv =>
    lhs
    rw [skip]
  split
  · next h => rw [next] at h; cases h
  · next h =>
    rw [next] at h
    cases h
    simp only [if_neg opens, Bool.false_eq_true, if_false, if_true]
    split
    · next h => rw [name] at h; cases h
    · next h =>
      rw [name] at h
      cases h
      rfl

/-! ### Strings -/

/-- The bytes taken of an escape that is skipped. -/
inductive SkipSpot.Front : SkipSpot → List UInt8 → Prop where
  | plain : Front .plain []
  | escape : Front .escape [backslash]
  | digits {taken : List UInt8} (few : taken.length < 4) : Front (.digits taken)
      (backslash :: unicodeMark :: taken)

/-- What is skipped of a string, from within an escape on, follows the loose grammar. -/
theorem skipText_eq_ok {rest after front : List UInt8} {spot : SkipSpot} (h : spot.Front front)
    (run : skipText spot rest = .ok after) :
    ∃ body, LooseBody (front ++ body) ∧ rest = body ++ quoteMark :: after := by
  induction rest generalizing spot front with
  | nil => cases run
  | cons b rest ih =>
    -- A byte that does not end the escape is added to what is taken.
    have more {next : SkipSpot} (taken : next.Front (front ++ [b]))
        (run : skipText next rest = .ok after) :
        ∃ body, LooseBody (front ++ body) ∧ b :: rest = body ++ quoteMark :: after := by
      obtain ⟨body, loose, rfl⟩ := ih taken run
      exact ⟨b :: body, by simpa using loose, rfl⟩
    have whole (piece : ∀ {body}, LooseBody body → LooseBody (front ++ b :: body))
        (run : skipText .plain rest = .ok after) :
        ∃ body, LooseBody (front ++ body) ∧ b :: rest = body ++ quoteMark :: after := by
      obtain ⟨body, loose, rfl⟩ := ih .plain run
      exact ⟨b :: body, piece loose, rfl⟩
    cases h with
    | plain =>
      simp only [skipText] at run
      split at run
      · next quote =>
        cases run
        exact ⟨[], .done, congrArg (· :: after) quote⟩
      next quote =>
      split at run
      · next slash => exact more (slash ▸ .escape) run
      next slash =>
      split at run
      · cases run
      next control => exact whole (.raw ⟨quote, slash, control⟩) run
    | escape =>
      simp only [skipText] at run
      split at run
      · next known =>
        obtain ⟨x, escape⟩ := Option.isSome_iff_exists.1 known
        obtain ⟨letter, c, short, rfl, -⟩ := short_of_escaped? escape
        exact whole (.short short) run
      split at run
      · next mark => exact more (mark ▸ .digits (by decide)) run
      · cases run
    | @digits taken few =>
      simp only [skipText] at run
      split at run
      · exact more (.digits (by simp; omega)) run
      split at run
      · next number =>
        obtain ⟨n, number⟩ := Option.isSome_iff_exists.1 number
        have hex := fourHex_of_hexNumber? (by simp; omega) number
        exact whole (fun loose => by simpa using LooseBody.numeric hex loose) run
      · cases run

/-- What is skipped after a quotation mark is the rest of a string. -/
theorem looseText_of_skipText {rest after : List UInt8} (h : skipText .plain rest = .ok after) :
    ∃ q, LooseText q ∧ quoteMark :: rest = q ++ after := by
  obtain ⟨body, loose, rfl⟩ := skipText_eq_ok .plain h
  exact ⟨_, .intro loose, by simp⟩

theorem skipText_digits {digits : List UInt8} {n : Nat} (number : FourHex n digits)
    (rest : List UInt8) :
    skipText (.digits []) (digits ++ rest) = skipText .plain rest := by
  have value := hexNumber?_of_fourHex number
  obtain ⟨first, second, third, fourth⟩ := number
  simp [skipText, value]

theorem skipText_loose {body : List UInt8} (h : LooseBody body) (rest : List UInt8) :
    skipText .plain (body ++ quoteMark :: rest) = .ok rest := by
  induction h with
  | done => rfl
  | raw plain _ ih =>
    obtain ⟨quote, slash, low⟩ := plain
    rw [List.cons_append, skipText]
    simp only [if_neg quote, if_neg slash, if_neg low]
    exact ih
  | @short letter c body known _ ih =>
    obtain ⟨x, escape, -⟩ := escaped?_of_short known
    have step : skipText .escape (UInt8.ofNat letter.toNat :: (body ++ quoteMark :: rest)) =
        skipText .plain (body ++ quoteMark :: rest) := by
      simp only [skipText, escape, Option.isSome_some, if_true]
    exact step.trans ih
  | @numeric n digits body number _ ih =>
    have step := skipText_digits number (body ++ quoteMark :: rest)
    rw [← List.append_assoc] at step
    exact step.trans ih

/-! ### Scalars and names -/

theorem word_append (es rest : List UInt8) : word es (es ++ rest) = .ok rest := by
  induction es with
  | nil => rfl
  | cons e es ih => rw [List.cons_append, word, if_pos rfl, ih]

theorem skipFront_null (rest : List UInt8) :
    skipFront (letters "null" ++ rest) = .ok (none, rest) := by
  show skipFront (0x6E :: (letters "ull" ++ rest)) = _
  rw [skipFront, if_pos rfl, word_append]
  rfl

theorem skipFront_true (rest : List UInt8) :
    skipFront (letters "true" ++ rest) = .ok (none, rest) := by
  show skipFront (0x74 :: (letters "rue" ++ rest)) = _
  rw [skipFront, if_neg (by decide), if_pos rfl, word_append]
  rfl

theorem skipFront_false (rest : List UInt8) :
    skipFront (letters "false" ++ rest) = .ok (none, rest) := by
  show skipFront (0x66 :: (letters "alse" ++ rest)) = _
  rw [skipFront, if_neg (by decide), if_neg (by decide), if_pos rfl, word_append]
  rfl

theorem ne_of_sign_or_digit {b x : UInt8} (h : b = minusSign ∨ isDigit b = true)
    (minus : x ≠ minusSign) (digit : isDigit x = false) : b ≠ x := by
  rintro rfl
  rcases h with rfl | h
  · exact minus rfl
  · rw [digit] at h
    cases h

theorem skipFront_number {n : Numeral} {w rest : List UInt8} (h : WrittenNumeral n w)
    (stop : Stops rest) :
    skipFront (w ++ rest) = .ok (none, rest) := by
  have read := numeral_written h .badNumber stop
  obtain ⟨b, more, rfl, first⟩ := h.exists_cons
  rw [List.cons_append] at read ⊢
  rw [skipFront, if_neg (ne_of_sign_or_digit first (by decide) (by decide)),
    if_neg (ne_of_sign_or_digit first (by decide) (by decide)),
    if_neg (ne_of_sign_or_digit first (by decide) (by decide)), if_pos first, skipNumeral, read]
  rfl

theorem skipFront_text {w : List UInt8} (h : LooseText w) (rest : List UInt8) :
    skipFront (w ++ rest) = .ok (none, rest) := by
  obtain @⟨body, loose⟩ := h
  have skipped : skipText .plain (body ++ [quoteMark] ++ rest) = .ok rest := by
    rw [List.append_assoc]
    exact skipText_loose loose rest
  rw [List.cons_append, skipFront, if_neg (by decide), if_neg (by decide), if_neg (by decide),
    if_neg (by decide), if_pos (by decide), skipped]
  rfl

theorem skipFront_bracket (bracket : Bracket) (rest : List UInt8) :
    skipFront (bracket.opening :: rest) = .ok (some bracket, rest) := by
  cases bracket with
  | list => rfl
  | object => rfl

theorem skipName_loose {bracket : Bracket} {lead name : List UInt8} (blank : Blanks lead)
    (named : LooseName bracket name) (rest : List UInt8) :
    ∃ gap, Blanks gap ∧ skipName bracket (lead ++ (name ++ rest)) = .ok (gap ++ rest) := by
  cases named with
  | element => exact ⟨lead, blank, rfl⟩
  | @member a q b before quoted between =>
    obtain @⟨body, loose⟩ := quoted
    have front :
        skipBlanks (lead ++ (a ++ (quoteMark :: (body ++ [quoteMark]) ++ (b ++ [colon])) ++ rest)) =
        quoteMark :: (body ++ quoteMark :: (b ++ colon :: rest)) := by
      rw [skipBlanks_append blank, List.append_assoc, skipBlanks_append before, List.append_assoc,
        bracketed, skipBlanks_cons (by decide), List.append_assoc, List.singleton_append]
    refine ⟨[], blanks_nil, ?_⟩
    rw [skipName, front]
    simp only [if_true, skipText_loose loose,
      skipBlanks_close between (show isBlank colon = false by decide), List.nil_append]

theorem skipName_skipBlanks (rest : List UInt8) :
    skipName .object (skipBlanks rest) = skipName .object rest := by
  rw [skipName, skipBlanks_idem, ← skipName]

/-- The first element or member after an opening bracket does not close it, and is followed by its
value. -/
theorem skipName_first {bracket : Bracket} {lead name gap w : List UInt8} (blank : Blanks lead)
    (named : LooseName bracket name) (before : Blanks gap) (value : Loose w) (rest : List UInt8) :
    ∃ b more gap', skipBlanks (lead ++ (name ++ (gap ++ (w ++ rest)))) = b :: more ∧
      b ≠ bracket.closing ∧
      Blanks gap' ∧ skipName bracket (b :: more) = .ok (gap' ++ (w ++ rest)) := by
  obtain ⟨gap', blank', read⟩ := skipName_loose blank named (gap ++ (w ++ rest))
  cases named with
  | element =>
    have front : skipBlanks (lead ++ ([] ++ (gap ++ (w ++ rest)))) = w ++ rest := by
      rw [skipBlanks_append blank, List.nil_append, skipBlanks_append before, value.skipBlanks]
    obtain ⟨b, more, rfl, opens⟩ := value.exists_cons
    exact ⟨b, more ++ rest, [], front, opens.2.2.1, blanks_nil, rfl⟩
  | @member a q b before' quoted between =>
    obtain @⟨body, loose⟩ := quoted
    obtain ⟨more, front⟩ : ∃ more,
        skipBlanks (lead ++ (a ++ (quoteMark :: (body ++ [quoteMark]) ++ (b ++ [colon])) ++
        (gap ++ (w ++ rest)))) = quoteMark :: more := by
      rw [skipBlanks_append blank, List.append_assoc, skipBlanks_append before']
      exact ⟨_, skipBlanks_cons (by decide) _⟩
    refine ⟨quoteMark, more, gap' ++ gap, front, by decide, blank'.append before, ?_⟩
    rw [← front, skipName_skipBlanks, read, List.append_assoc]

theorem map_eq_ok {ε α β : Type} {r : Except ε α} {f : α → β} {b : β} (h : r.map f = .ok b) :
    ∃ a, r = .ok a ∧ f a = b := by
  cases r with
  | error e => cases h
  | ok a => exact ⟨a, rfl, Except.ok.inj h⟩

/-- What the front of a value is: a scalar, or an opening bracket. -/
def Fronts (rest after : List UInt8) : Option Bracket → Prop
  | none => ∃ w, Loose w ∧ rest = w ++ after
  | some bracket => rest = bracket.opening :: after

theorem skipFront_eq_ok {rest after : List UInt8} {opened : Option Bracket}
    (h : skipFront rest = .ok (opened, after)) : Fronts rest after opened := by
  cases rest with
  | nil => cases h
  | cons b rest =>
    have scalar {r : Except Fault (List UInt8)} (run : r.map (none, ·) = .ok (opened, after))
        (whole : r = .ok after → ∃ w, Loose w ∧ b :: rest = w ++ after) :
          Fronts (b :: rest) after opened := by
      obtain ⟨_, taken, same⟩ := map_eq_ok run
      cases same
      exact whole taken
    rw [skipFront] at h
    split at h
    · next first => exact scalar h fun taken => ⟨_, .null, by rw [first, word_eq_ok taken]; rfl⟩
    split at h
    · next first => exact scalar h fun taken => ⟨_, .true, by rw [first, word_eq_ok taken]; rfl⟩
    split at h
    · next first => exact scalar h fun taken => ⟨_, .false, by rw [first, word_eq_ok taken]; rfl⟩
    split at h
    · refine scalar h fun taken => ?_
      obtain ⟨⟨n, _⟩, read, rfl⟩ := map_eq_ok taken
      obtain ⟨w, written, rest⟩ := numeral_eq_ok read
      exact ⟨w, .number written, rest⟩
    split at h
    · next first =>
      subst first
      refine scalar h fun taken => ?_
      obtain ⟨q, loose, rest⟩ := looseText_of_skipText taken
      exact ⟨q, .text loose, rest⟩
    split at h
    · next first =>
      subst first
      cases h
      rfl
    split at h
    · next first =>
      subst first
      cases h
      rfl
    · cases h

theorem skipName_eq_ok {bracket : Bracket} {rest after : List UInt8}
    (h : skipName bracket rest = .ok after) :
    ∃ name, LooseName bracket name ∧ rest = name ++ after := by
  cases bracket with
  | list =>
    cases h
    exact ⟨[], .element, rfl⟩
  | object =>
    rw [skipName] at h
    split at h
    · cases h
    next b quoted next =>
    split at h
    · next first =>
      subst first
      split at h
      · cases h
      next named skipped =>
      split at h
      · cases h
      next c more next' =>
      split at h
      · next colon' =>
        subst colon'
        cases h
        obtain ⟨a, before, rfl⟩ := exists_gap next
        obtain ⟨b, between, rfl⟩ := exists_gap next'
        obtain ⟨q, loose, same⟩ := looseText_of_skipText skipped
        exact ⟨_, .member before loose between, by simp [same]⟩
      · cases h
    · cases h

/-! ### Whole values -/

/-- Blanks before a value make no difference. -/
theorem skip_blanks {gap : List UInt8} (blank : Blanks gap) (stack : List Bracket)
    (rest : List UInt8) :
    skip stack .value (gap ++ rest) = skip stack .value rest := by
  rw [skip_value, skip_value, skipBlanks_append blank]

theorem skip_scalar {w rest : List UInt8} (h : Loose w)
    (front : skipFront (w ++ rest) = .ok (none, rest)) (stack : List Bracket) :
    skip stack .value (w ++ rest) = skip stack (.inside false) rest := by
  rw [skip_value, h.skipBlanks, front]

mutual

/-- Skipping a value leads to the place after it. -/
theorem Loose.skip {w : List UInt8} :
    Loose w → ∀ {rest : List UInt8}, Stops rest → ∀ stack : List Bracket,
      Json.skip stack .value (w ++ rest) = Json.skip stack (.inside false) rest
  | .null, rest, _, stack => skip_scalar .null (skipFront_null rest) stack
  | .true, rest, _, stack => skip_scalar .true (skipFront_true rest) stack
  | .false, rest, _, stack => skip_scalar .false (skipFront_false rest) stack
  | .number numeral, rest, stop, stack =>
    skip_scalar (.number numeral) (skipFront_number numeral stop) stack
  | .text quoted, rest, _, stack => skip_scalar (.text quoted) (skipFront_text quoted rest) stack
  | .bracket inside, rest, _, stack => by
    rw [skip_value, (Loose.bracket inside).skipBlanks, List.cons_append, skipFront_bracket]
    exact inside.skip rest stack

/-- Skipping what is left within a bracket leads to the place after the bracket. -/
theorem LooseTail.skip {bracket : Bracket} {fresh : Bool} {tail : List UInt8} :
    LooseTail bracket fresh tail → ∀ (rest : List UInt8) (stack : List Bracket),
      Json.skip (bracket :: stack) (.inside fresh) (tail ++ rest) =
      Json.skip stack (.inside false) rest
  | .close blank, rest, stack => by
    rw [List.append_assoc]
    exact skip_close (skipBlanks_close blank (by cases bracket <;> decide) rest) stack fresh
  | @LooseTail.next _ _ lead name gap w tail separator named before value later, rest, stack => by
    have value' := value.skip (later.stops rest) (bracket :: stack)
    have later' := later.skip rest stack
    simp only [List.append_assoc]
    cases separator with
    | first blank =>
      obtain ⟨b, more, gap', next, other, blank', read⟩ :=
        skipName_first blank named before value (tail ++ rest)
      rw [skip_first next other read, skip_blanks blank', value', later']
    | @later a c blank blank' =>
      obtain ⟨gap', blank'', read⟩ := skipName_loose blank' named (gap ++ (w ++ (tail ++ rest)))
      rw [List.append_assoc, List.cons_append,
        skip_next (skipBlanks_close blank (by decide) _) read, skip_blanks blank'',
        skip_blanks before, value', later']

end

/-- A value that may be skipped is skipped on its own. -/
theorem skipValue_loose {w gap rest : List UInt8} (h : Loose w) (blank : Blanks gap)
    (stop : Stops rest) :
    skipValue (gap ++ (w ++ rest)) = .ok rest := by
  rw [skipValue, skip_blanks blank, h.skip stop, skip_nil]

/-- What closes the open brackets, the innermost first. -/
def Closes : List Bracket → Bool → List UInt8 → Prop
  | [], _, taken => taken = []
  | bracket :: outer, fresh, taken =>
    ∃ tail later, LooseTail bracket fresh tail ∧ Closes outer false later ∧ taken = tail ++ later

/-- What is wanted of the bytes, where the reader stands. -/
def Expect.Covers (stack : List Bracket) : Expect → List UInt8 → Prop
  | .value, taken => ∃ gap w later, Blanks gap ∧ Loose w ∧ Closes stack false later ∧
    taken = gap ++ (w ++ later)
  | .inside fresh, taken => Closes stack fresh taken

/-- A separated value and what closes the brackets after it close the brackets. -/
theorem Closes.next {bracket : Bracket} {outer : List Bracket} {fresh : Bool}
    {lead name taken : List UInt8} (separator : Separator fresh lead)
    (named : LooseName bracket name) (covers : Expect.value.Covers (bracket :: outer) taken) :
    Closes (bracket :: outer) fresh (lead ++ (name ++ taken)) := by
  obtain ⟨gap, w, _, before, value, ⟨tail, later, inside, closes, rfl⟩, rfl⟩ := covers
  exact ⟨_, later, .next separator named before value inside, closes, by simp⟩

/-- Whatever is skipped is what the open brackets want. -/
theorem skip_eq_ok {stack : List Bracket} {expect : Expect} {rest after : List UInt8}
    (h : skip stack expect rest = .ok after) :
    ∃ taken, expect.Covers stack taken ∧ rest = taken ++ after := by
  fun_induction skip stack expect rest with
  | case1 => cases h
  | case2 stack rest left front _ _ ih =>
    obtain ⟨later, closes, rfl⟩ := ih h
    obtain ⟨w, loose, next⟩ := skipFront_eq_ok front
    obtain ⟨gap, blank, rfl⟩ := exists_gap next
    exact ⟨_, ⟨gap, w, later, blank, loose, closes, rfl⟩, by simp⟩
  | case3 stack rest bracket left front _ _ ih =>
    obtain ⟨_, ⟨tail, later, inside, closes, rfl⟩, rfl⟩ := ih h
    have next : skipBlanks rest = bracket.opening :: (tail ++ later ++ after) :=
      skipFront_eq_ok front
    obtain ⟨gap, blank, rfl⟩ := exists_gap next
    exact ⟨_, ⟨gap, _, later, blank, .bracket inside, closes, rfl⟩, by simp⟩
  | case4 =>
    cases h
    exact ⟨[], rfl, rfl⟩
  | case5 => cases h
  | case6 rest fresh bracket outer more _ next _ ih =>
    obtain ⟨later, closes, rfl⟩ := ih h
    obtain ⟨gap, blank, rfl⟩ := exists_gap next
    exact ⟨_, ⟨_, later, .close blank, closes, rfl⟩, by simp⟩
  | case7 => cases h
  | case8 rest bracket outer b more next _ _ _ left name _ _ ih =>
    obtain ⟨taken, covers, rfl⟩ := ih h
    obtain ⟨written, named, same⟩ := skipName_eq_ok name
    obtain ⟨gap, blank, rfl⟩ := exists_gap next
    exact ⟨_, .next (.first blank) named covers, by simp [same]⟩
  | case9 => cases h
  | case10 rest fresh bracket outer more _ notFresh left name _ next _ _ ih =>
    obtain rfl : fresh = false := by simpa using notFresh
    obtain ⟨taken, covers, rfl⟩ := ih h
    obtain ⟨written, named, rfl⟩ := skipName_eq_ok name
    obtain ⟨gap, blank, rfl⟩ := exists_gap next
    exact ⟨_, .next (.later blank blanks_nil) named covers, by simp⟩
  | case11 => cases h

/-- What is skipped as one value is written as the loose grammar says. -/
theorem skipValue_eq_ok {rest after : List UInt8} (h : skipValue rest = .ok after) :
    ∃ gap w, Blanks gap ∧ Loose w ∧ rest = gap ++ (w ++ after) := by
  obtain ⟨taken, ⟨gap, w, later, blank, loose, rfl, rfl⟩, rfl⟩ := skip_eq_ok h
  exact ⟨gap, w, blank, loose, by simp⟩

end KeyRelay.Json
