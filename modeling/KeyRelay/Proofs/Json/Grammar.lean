import KeyRelay.Json.Token

/-!
The grammar of JSON documents, as a relation between values and the bytes they can be written as. A
value has many written forms: blanks between tokens, escapes in strings and the letters of exponents
are free. Strings denote texts, so a surrogate is written only as half of a pair.
-/

namespace KeyRelay.Json

/-- What a document says. A numeral stays as it is written; an object has its members in order,
repeated names included. -/
inductive Value where
  | null
  | boolean (b : Bool)
  | number (n : Numeral)
  | text (s : String)
  | list (items : List Value)
  | object (members : List (String × Value))

/-- The values of the members that have this name, in order. -/
def valuesOf (name : String) (members : List (String × Value)) : List Value :=
  (members.filter fun m => m.1 = name).map (·.2)

@[simp] theorem valuesOf_nil (name : String) : valuesOf name [] = [] := rfl

theorem valuesOf_cons_self (name : String) (v : Value) (ms : List (String × Value)) :
    valuesOf name ((name, v) :: ms) = v :: valuesOf name ms := by
  simp [valuesOf]

theorem valuesOf_cons_ne {name other : String} (h : other ≠ name) (v : Value)
    (ms : List (String × Value)) :
    valuesOf name ((other, v) :: ms) = valuesOf name ms := by
  simp [valuesOf, h]

theorem mem_valuesOf {name : String} {v : Value} {ms : List (String × Value)} :
    v ∈ valuesOf name ms ↔ (name, v) ∈ ms := by
  simp [valuesOf]

/-- Space, tab, line feed and carriage return, in any number. -/
def Blanks (gap : List UInt8) : Prop :=
  ∀ b ∈ gap, b = 0x20 ∨ b = 0x09 ∨ b = 0x0A ∨ b = 0x0D

/-! ### Strings -/

/-- The letters of the short escapes, each with the character it stands for. -/
def shortEscapes : List (Char × Char) :=
  [('"', '"'), ('\\', '\\'), ('/', '/'), ('b', '\x08'), ('f', '\x0C'), ('n', '\n'), ('r', '\r'),
    ('t', '\t')]

/-- A hexadecimal digit, with its letters in either case. -/
inductive HexDigit (n : Nat) (b : UInt8) : Prop where
  | digit (value : n < 10) (byte : b.toNat = 0x30 + n)
  | lower (low : 10 ≤ n) (high : n < 16) (byte : b.toNat = 0x61 + (n - 10))
  | upper (low : 10 ≤ n) (high : n < 16) (byte : b.toNat = 0x41 + (n - 10))

/-- Four hexadecimal digits. -/
inductive FourHex (n : Nat) : List UInt8 → Prop where
  | intro {x y z t : UInt8} (first : HexDigit (n / 0x1000) x)
      (second : HexDigit (n / 0x100 % 0x10) y)
      (third : HexDigit (n / 0x10 % 0x10) z) (fourth : HexDigit (n % 0x10) t) :
      FourHex n [x, y, z, t]

/-- How characters can be written between the quotation marks of a string. -/
inductive Spelled : List Char → List UInt8 → Prop where
  | done : Spelled [] []
  | raw {c : Char} {cs : List Char} {body : List UInt8}
      (plain : 0x20 ≤ c.toNat ∧ c ≠ '"' ∧ c ≠ '\\')
      (rest : Spelled cs body) : Spelled (c :: cs) (String.utf8EncodeChar c ++ body)
  | short {letter c : Char} {cs : List Char} {body : List UInt8}
      (escape : (letter, c) ∈ shortEscapes)
      (rest : Spelled cs body) : Spelled (c :: cs) (backslash :: UInt8.ofNat letter.toNat :: body)
  | numeric {c : Char} {cs : List Char} {digits body : List UInt8} (number : FourHex c.toNat digits)
      (rest : Spelled cs body) : Spelled (c :: cs) (backslash :: unicodeMark :: (digits ++ body))
  | pair {c : Char} {cs : List Char} {high low : Nat} {digits digits' body : List UInt8}
      (number : c.toNat = 0x10000 + high * 0x400 + low) (fits : low < 0x400)
      (first : FourHex (0xD800 + high) digits) (second : FourHex (0xDC00 + low) digits')
      (rest : Spelled cs body) :
      Spelled (c :: cs) (backslash :: unicodeMark ::
        (digits ++ backslash :: unicodeMark :: (digits' ++ body)))

/-- How a text can be written as a string. -/
inductive QuotedText (s : String) : List UInt8 → Prop where
  | intro {body : List UInt8} (spelled : Spelled s.toList body) :
      QuotedText s (quoteMark :: (body ++ [quoteMark]))

/-! ### Numerals -/

/-- At least one digit, and nothing else. -/
structure SomeDigits (ds : List UInt8) : Prop where
  nonempty : ds ≠ []
  digits : ∀ d ∈ ds, 0x30 ≤ d.toNat ∧ d.toNat ≤ 0x39

inductive WrittenFraction : Option (List UInt8) → List UInt8 → Prop where
  | none : WrittenFraction none []
  | some {ds : List UInt8} (digits : SomeDigits ds) : WrittenFraction (some ds) (0x2E :: ds)

/-- The sign of an exponent; `true` is for minus. -/
inductive WrittenSign : Bool → List UInt8 → Prop where
  | none : WrittenSign false []
  | plus : WrittenSign false [0x2B]
  | minus : WrittenSign true [minusSign]

inductive WrittenExponent : Option (Bool × List UInt8) → List UInt8 → Prop where
  | none : WrittenExponent none []
  | some {letter : UInt8} {down : Bool} {sign ds : List UInt8}
      (mark : letter = 0x65 ∨ letter = 0x45)
      (signed : WrittenSign down sign) (digits : SomeDigits ds) :
      WrittenExponent (some (down, ds)) (letter :: (sign ++ ds))

/-- How a numeral is written. A zero before the point stands alone. -/
inductive WrittenNumeral (n : Numeral) : List UInt8 → Prop where
  | intro {fraction exponent : List UInt8} (whole : SomeDigits n.whole)
      (zero : n.whole.head? = some 0x30 → n.whole = [0x30])
      (point : WrittenFraction n.fraction fraction)
      (power : WrittenExponent n.exponent exponent) :
      WrittenNumeral n ((if n.negative then [minusSign] else []) ++
        (n.whole ++ (fraction ++ exponent)))

/-! ### Values -/

mutual

/-- How a value can be written, without blanks around it. -/
inductive Written : Value → List UInt8 → Prop where
  | null : Written .null (letters "null")
  | true : Written (.boolean true) (letters "true")
  | false : Written (.boolean false) (letters "false")
  | number {n : Numeral} {w : List UInt8} (numeral : WrittenNumeral n w) : Written (.number n) w
  | text {s : String} {w : List UInt8} (quoted : QuotedText s w) : Written (.text s) w
  | emptyList {gap : List UInt8} (blank : Blanks gap) : Written (.list [])
      (openList :: (gap ++ [closeList]))
  | list {v : Value} {vs : List Value} {w : List UInt8} (items : WrittenItems (v :: vs) w) :
      Written (.list (v :: vs)) (openList :: (w ++ [closeList]))
  | emptyObject {gap : List UInt8} (blank : Blanks gap) : Written (.object [])
      (openObject :: (gap ++ [closeObject]))
  | object {m : String × Value} {ms : List (String × Value)} {w : List UInt8}
      (members : WrittenMembers (m :: ms) w) :
      Written (.object (m :: ms)) (openObject :: (w ++ [closeObject]))

/-- How the elements of a list can be written: at least one, with commas between them. -/
inductive WrittenItems : List Value → List UInt8 → Prop where
  | one {v : Value} {a w b : List UInt8} (before : Blanks a) (value : Written v w)
      (after : Blanks b) :
      WrittenItems [v] (a ++ (w ++ b))
  | cons {v : Value} {vs : List Value} {a w b ws : List UInt8} (before : Blanks a)
      (value : Written v w)
      (after : Blanks b) (rest : WrittenItems vs ws) : WrittenItems (v :: vs)
      (a ++ (w ++ (b ++ comma :: ws)))

/-- How the members of an object can be written: at least one, with commas between them. -/
inductive WrittenMembers : List (String × Value) → List UInt8 → Prop where
  | one {name : String} {v : Value} {a q b c w d : List UInt8} (before : Blanks a)
      (quoted : QuotedText name q)
      (named : Blanks b) (gap : Blanks c) (value : Written v w) (after : Blanks d) :
      WrittenMembers [(name, v)] (a ++ (q ++ (b ++ colon :: (c ++ (w ++ d)))))
  | cons {name : String} {v : Value} {ms : List (String × Value)} {a q b c w d ws : List UInt8}
      (before : Blanks a) (quoted : QuotedText name q) (named : Blanks b) (gap : Blanks c)
      (value : Written v w)
      (after : Blanks d) (rest : WrittenMembers ms ws) :
      WrittenMembers ((name, v) :: ms)
        (a ++ (q ++ (b ++ colon :: (c ++ (w ++ (d ++ comma :: ws))))))

end

/-- How a document can be written: one value with blanks around it. -/
inductive WrittenDocument (v : Value) : List UInt8 → Prop where
  | intro {a w b : List UInt8} (before : Blanks a) (value : Written v w) (after : Blanks b) :
      WrittenDocument v (a ++ (w ++ b))

end KeyRelay.Json
