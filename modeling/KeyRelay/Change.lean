import KeyRelay.Base64
import KeyRelay.Failure
import KeyRelay.Json.Printer
import KeyRelay.Json.Record
import KeyRelay.Text.Blank

/-!
A changed key: the payload a key/value watch hands over, the change it stands for, and the message
that announces the change. The value of a payload is Base64 of a text, with blanks around it
allowed.
-/

namespace KeyRelay

/-- The payload of a watch. The value is absent where the key holds none. -/
structure WatchPayload where
  key : String
  value : Option String
  deriving DecidableEq, Repr

/-- A decoded change. -/
structure KeyChange where
  key : String
  value : String
  deriving DecidableEq, Repr

/-- The message that announces a change. -/
structure ChangeMessage where
  key : String
  value : String
  deriving DecidableEq, Repr

/-- Why a payload or a message is refused. -/
inductive ChangeFault where
  | input (reason : String)
  | decode (reason : String)
  | serialization (reason : String)
  deriving DecidableEq, Repr

namespace ChangeFault

def message : ChangeFault → String
  | .input m => "invalid watch input: " ++ m
  | .decode m => "invalid value encoding: " ++ m
  | .serialization m => "serialization error: " ++ m

def kind : ChangeFault → String
  | .input _ => "Input"
  | .decode _ => "Decode"
  | .serialization _ => "Serialization"

/-- The failure of a delivery that meets the fault. -/
def toFailure : ChangeFault → Failure
  | .input m => .input m
  | .decode m => .decode m
  | .serialization m => .input m

end ChangeFault

/-! ### Payloads -/

namespace WatchPayload

/-- The fields of a payload. -/
def shape : Json.Shape WatchPayload where
  name := "RawWatchEvent"
  blank := ⟨"", none⟩
  fields := [
    .of "Key" .required (Json.aText "a string") fun p key => { p with key },
    .of "Value" .nullable (Json.anOption (Json.aText "a string")) fun p value => { p with value }]

/-- Reads a payload from a JSON document. -/
def ofJson (document : List UInt8) : Except Json.Fault WatchPayload :=
  Json.document shape.reader document

/-- The payload as a JSON document. -/
def toJson (p : WatchPayload) : String :=
  Json.object [("Key", Json.quoted p.key), ("Value", Json.quotedOption p.value)]

end WatchPayload

/-! ### Changes -/

namespace KeyChange

/-- The change a payload stands for. -/
def ofPayload (p : WatchPayload) : Except ChangeFault KeyChange :=
  match p.value with
  | none => .error (.input ("key " ++ p.key ++ " has no value"))
  | some encoded =>
    match Base64.decode (Utf8.bytes (Blank.trim encoded)) with
    | .error f => .error (.decode f.message)
    | .ok bytes =>
      match Utf8.decode bytes with
      | .error f => .error (.decode ("value is not UTF-8: " ++ f.message))
      | .ok value => .ok ⟨p.key, value⟩

/-- Space, tab, line feed, form feed and carriage return: what an input may hold and still count as
empty. -/
def isBlankByte (b : UInt8) : Bool :=
  b = 0x20 || b = 0x09 || b = 0x0A || b = 0x0C || b = 0x0D

/-- The change that the document handed over by a watch stands for. -/
def ofWatchJson (document : List UInt8) : Except ChangeFault KeyChange :=
  if document.all isBlankByte then .error (.input "empty input")
  else
    match Json.document (Json.anOption WatchPayload.shape.reader) document with
    | .error f => .error (.input (f.message document))
    | .ok none => .error (.input "watch payload is null")
    | .ok (some p) => ofPayload p

def toMessage (c : KeyChange) : ChangeMessage :=
  ⟨c.key, c.value⟩

end KeyChange

/-! ### Messages -/

namespace ChangeMessage

def shape : Json.Shape ChangeMessage where
  name := "ChangeMessage"
  blank := ⟨"", ""⟩
  fields := [
    .of "key" .required (Json.aText "a string") fun m key => { m with key },
    .of "value" .required (Json.aText "a string") fun m value => { m with value }]

/-- The message as a JSON document. -/
def toJson (m : ChangeMessage) : String :=
  Json.object [("key", Json.quoted m.key), ("value", Json.quoted m.value)]

/-- The bytes that are published. -/
def toBody (m : ChangeMessage) : List UInt8 :=
  Utf8.bytes m.toJson

/-- Reads a published body back. -/
def ofBody (body : List UInt8) : Except ChangeFault ChangeMessage :=
  match Json.document shape.reader body with
  | .error f => .error (.serialization (f.message body))
  | .ok m => .ok m

end ChangeMessage

/-- The body that announces a change. -/
def KeyChange.toBody (c : KeyChange) : List UInt8 :=
  c.toMessage.toBody

end KeyRelay
