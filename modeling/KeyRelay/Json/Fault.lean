import KeyRelay.Text.Quoted
import KeyRelay.Decimal

/-!
Why a JSON document is refused, and where. A fault is placed by the number of bytes that stand after
it, so that readers need not count; `Fault.message` turns that into line and column of the whole
document.
-/

namespace KeyRelay.Json

/-- What stands where another kind of value is wanted. -/
inductive Found where
  | null
  | boolean (b : Bool)
  | integer (n : Int)
  | float (x : Float)
  | text (s : String)
  | list
  | object

def Found.name : Found → String
  | .null => "null"
  | .boolean b => "boolean `" ++ (if b then "true" else "false") ++ "`"
  | .integer n => "integer `" ++ toString n ++ "`"
  | .float x => "floating point `" ++ Decimal.text x ++ "`"
  | .text s => "string " ++ Quoted.quote s
  | .list => "sequence"
  | .object => "map"

/-- What is wrong with a document. -/
inductive Reason where
  | endInValue
  | endInText
  | endInList
  | endInObject
  | notAValue
  | notAWord
  | notAKey
  | noColon
  | noListSeparator
  | noObjectSeparator
  | trailingComma
  | trailingCharacters
  | badNumber
  | numberTooLarge
  | controlCharacter
  | badEscape
  | loneSurrogate
  | cutEscape
  | notUtf8
  | wrongKind (found : Found) (wanted : String)
  | outOfRange (n : Int) (wanted : String)
  | unknownVariant (name : String) (variants : List String)
  | missingField (name : String)
  | duplicateField (name : String)
  | wrongLength (length : Nat) (wanted : String)

def Reason.message : Reason → String
  | .endInValue => "EOF while parsing a value"
  | .endInText => "EOF while parsing a string"
  | .endInList => "EOF while parsing a list"
  | .endInObject => "EOF while parsing an object"
  | .notAValue => "expected value"
  | .notAWord => "expected ident"
  | .notAKey => "key must be a string"
  | .noColon => "expected `:`"
  | .noListSeparator => "expected `,` or `]`"
  | .noObjectSeparator => "expected `,` or `\x7d`"
  | .trailingComma => "trailing comma"
  | .trailingCharacters => "trailing characters"
  | .badNumber => "invalid number"
  | .numberTooLarge => "number out of range"
  | .controlCharacter => "control character (\\u0000-\\u001F) found while parsing a string"
  | .badEscape => "invalid escape"
  | .loneSurrogate => "lone leading surrogate in hex escape"
  | .cutEscape => "unexpected end of hex escape"
  | .notUtf8 => "invalid unicode code point"
  | .wrongKind found wanted => "invalid type: " ++ found.name ++ ", expected " ++ wanted
  | .outOfRange n wanted => "invalid value: integer `" ++ toString n ++ "`, expected " ++ wanted
  | .unknownVariant name variants =>
    "unknown variant `" ++ name ++ "`, expected " ++ " or ".intercalate (variants.map fun v =>
      "`" ++ v ++ "`")
  | .missingField name => "missing field `" ++ name ++ "`"
  | .duplicateField name => "duplicate field `" ++ name ++ "`"
  | .wrongLength n wanted => "invalid length " ++ toString n ++ ", expected " ++ wanted

/-- A refusal: the reason and the number of bytes that stand after its place. -/
structure Fault where
  reason : Reason
  left : Nat

/-- A refusal just before `rest`. -/
def refuse {α : Type} (why : Reason) (rest : List UInt8) : Except Fault α :=
  .error ⟨why, rest.length⟩

/-- A refusal of the first byte of `rest`, which is placed after that byte. -/
def refuseNext {α : Type} (why : Reason) (rest : List UInt8) : Except Fault α :=
  .error ⟨why, rest.length - 1⟩

/-- Line, from one, and column, in bytes, of the place reached after `bytes`. -/
def place (bytes : List UInt8) : Nat × Nat :=
  bytes.foldl (fun spot (b : UInt8) => if b = 10 then (spot.1 + 1, 0)
    else (spot.1, spot.2 + 1)) (1, 0)

/-- The fault as it is reported for a document. -/
def Fault.message (f : Fault) (document : List UInt8) : String :=
  let (line, column) := place (document.take (document.length - f.left))
  f.reason.message ++ " at line " ++ toString line ++ " column " ++ toString column

end KeyRelay.Json
