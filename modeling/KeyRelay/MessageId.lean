/-!
Message identifiers: 128 bits, written as 32 lower-case hexadecimal digits in five groups. The
version is the digit after the second hyphen; `timeOrdered` makes identifiers of version 7.
-/

namespace KeyRelay

structure MessageId where
  bits : BitVec 128
  deriving DecidableEq, Repr

namespace MessageId

/-- The digits without hyphens. -/
def digits (id : MessageId) : List Char :=
  let cs := Nat.toDigits 16 id.bits.toNat
  List.replicate (32 - cs.length) '0' ++ cs

/-- Sizes of the groups of digits. -/
def groups : List Nat := [8, 4, 4, 4, 12]

def text (id : MessageId) : String :=
  let cut :=
    groups.foldl (fun (done, rest) n => (done ++ [String.ofList (rest.take n)], rest.drop n))
    (([] : List String), id.digits)
  "-".intercalate cut.1

/-- The identifier of version 7 with this time in milliseconds and this serial number. -/
def timeOrdered (millis serial : Nat) : MessageId :=
  let time := millis % Nat.pow 2 48 * Nat.pow 2 80
  ⟨BitVec.ofNat 128 (time + 7 * Nat.pow 2 76 + 2 * Nat.pow 2 62 + serial % Nat.pow 2 62)⟩

end MessageId

end KeyRelay
