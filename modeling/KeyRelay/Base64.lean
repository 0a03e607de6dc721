/-!
Base64 with the standard alphabet. `encode` writes three bytes as four symbols and pads the last
group with `=`; `decode` accepts the padded form with zero unused bits and otherwise says what is
wrong first.
-/

namespace KeyRelay.Base64

/-- The symbol for six bits. -/
def symbol (n : Nat) : UInt8 :=
  if n < 26 then UInt8.ofNat (65 + n)
  else if n < 52 then UInt8.ofNat (71 + n)
  else if n < 62 then UInt8.ofNat (n - 4)
  else if n = 62 then 43
  else 47

/-- The six bits of a symbol. -/
def value? (b : UInt8) : Option Nat :=
  let n := b.toNat
  if 65 ≤ n ∧ n ≤ 90 then some (n - 65)
  else if 97 ≤ n ∧ n ≤ 122 then some (n - 71)
  else if 48 ≤ n ∧ n ≤ 57 then some (n + 4)
  else if n = 43 then some 62
  else if n = 47 then some 63
  else none

/-- The padding symbol. -/
def pad : UInt8 := 61

/-- The padded text of a byte sequence. -/
def encode : List UInt8 → List UInt8
  | [] => []
  | [a] =>
    [symbol (a.toNat / 4), symbol (a.toNat % 4 * 16), pad, pad]
  | [a, b] =>
    [symbol (a.toNat / 4), symbol (a.toNat % 4 * 16 + b.toNat / 16), symbol (b.toNat % 16 * 4), pad]
  | a :: b :: c :: rest =>
    symbol (a.toNat / 4) :: symbol (a.toNat % 4 * 16 + b.toNat / 16) ::
      symbol (b.toNat % 16 * 4 + c.toNat / 64) :: symbol (c.toNat % 64) :: encode rest

/-- Why a text is no Base64. Offsets count bytes of the text. -/
inductive Fault where
  | badSymbol (byte : UInt8) (offset : Nat)
  | badLength (length : Nat)
  | badPadding
  /-- The last symbol carries bits that no byte uses. -/
  | badLastSymbol (byte : UInt8) (offset : Nat)
  deriving DecidableEq, Repr

def Fault.message : Fault → String
  | .badSymbol b i => "Invalid symbol " ++ toString b.toNat ++ ", offset " ++ toString i ++ "."
  | .badLength n => "Invalid input length: " ++ toString n
  | .badPadding => "Invalid padding"
  | .badLastSymbol b i => "Invalid last symbol " ++ toString b.toNat ++ ", offset " ++
    toString i ++ "."

/-- The six bits of the symbol at an offset. -/
def valueAt (offset : Nat) (b : UInt8) : Except Fault Nat :=
  match value? b with
  | some v => .ok v
  | none => .error (.badSymbol b offset)

/-- What the last group holds: its symbols and their values in order, and how much padding
follows. -/
structure Group where
  symbols : List (UInt8 × Nat)
  /-- Offset of the first padding symbol. -/
  firstPad : Nat
  pads : Nat
  deriving DecidableEq, Repr

/-- Sorts the last group, which starts at `offset`: padding counts from the third place on, and
nothing but padding follows it. -/
def sortGroup (offset : Nat) (g : Group) : List UInt8 → Except Fault Group
  | [] => .ok g
  | b :: rest =>
    let place := g.symbols.length + g.pads
    if b = pad then
      if place < 2 then .error (.badSymbol pad (offset + place))
      else if g.pads = 0 then sortGroup offset { g with firstPad := offset + place, pads := 1 } rest
      else sortGroup offset { g with pads := g.pads + 1 } rest
    else if g.pads ≠ 0 then .error (.badSymbol pad g.firstPad)
    else do
      let v ← valueAt (offset + place) b
      sortGroup offset { g with symbols := g.symbols ++ [(b, v)] } rest

/-- The bytes of the last group. -/
def lastGroup (offset : Nat) (text : List UInt8) : Except Fault (List UInt8) := do
  if text = [] then return []
  let g ← sortGroup offset ⟨[], 0, 0⟩ text
  let short (last : UInt8) (unused : Nat) (out : List UInt8) : Except Fault (List UInt8) :=
    if g.symbols.length + g.pads ≠ 4 then .error .badPadding
    else if unused ≠ 0 then .error (.badLastSymbol last (offset + g.symbols.length - 1))
    else .ok out
  match g.symbols with
  | [(_, v), (x, w)] => short x (w % 16) [UInt8.ofNat (v * 4 + w / 16)]
  | [(_, v), (_, w), (y, z)] =>
    short y (z % 4) [UInt8.ofNat (v * 4 + w / 16), UInt8.ofNat (w % 16 * 16 + z / 4)]
  | [(_, v), (_, w), (_, z), (t, u)] =>
    short t 0 [UInt8.ofNat (v * 4 + w / 16), UInt8.ofNat (w % 16 * 16 + z / 4),
      UInt8.ofNat (z % 4 * 64 + u)]
  | few => .error (.badLength (offset + few.length))

/-- Reads groups of four symbols up to the last one; `out` is reversed. -/
def groups (offset : Nat) (out : List UInt8) : List UInt8 → Except Fault (List UInt8)
  | a :: b :: c :: d :: e :: rest => do
    let v ← valueAt offset a
    let w ← valueAt (offset + 1) b
    let z ← valueAt (offset + 2) c
    let u ← valueAt (offset + 3) d
    groups (offset + 4)
      (UInt8.ofNat (z % 4 * 64 + u) :: UInt8.ofNat (w % 16 * 16 + z / 4) ::
        UInt8.ofNat (v * 4 + w / 16) :: out)
      (e :: rest)
  | last => return out.reverse ++ (← lastGroup offset last)

/-- The bytes a text stands for. One symbol too many that is none is reported before all else. -/
def decode (text : List UInt8) : Except Fault (List UInt8) :=
  match text.getLast? with
  | some b =>
    if text.length % 4 = 1 ∧ b ≠ pad ∧ value? b = none then .error (.badSymbol b (text.length - 1))
    else groups 0 [] text
  | none => .ok []

end KeyRelay.Base64
