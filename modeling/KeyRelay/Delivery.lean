import KeyRelay.Change
import KeyRelay.Delivery.Program

/-!
The delivery of one change. The settings are checked and the input is decoded before any secret is
looked up, and both secrets are known before the broker is contacted. A session that was opened is
always closed, and how that goes changes nothing about the outcome: the message is out by then.
-/

namespace KeyRelay

/-- What a successful delivery reports. -/
structure DeliveryReport where
  key : String
  value : String
  exchange : String
  messageId : MessageId
  /-- The broker acknowledged the message. -/
  confirmed : Bool
  deriving DecidableEq, Repr

namespace Delivery

/-- A step of a delivery, which may fail. -/
abbrev Step (α : Type) := Program (Except Failure α)

/-- Goes on where a step succeeds. -/
def Step.andThen {α β : Type} (step : Step α) (next : α → Step β) : Step β :=
  step.bind fun
    | .ok a => next a
    | .error f => .done (.error f)

def lookup (key : String) : Step String :=
  .ask (.lookup key) .done

def call (c : Call) : Step c.Answer :=
  .ask (.call c) .done

def say {α : Type} (level : Level) (text : String) (next : Step α) : Step α :=
  .say ⟨level, text⟩ next

/-- Looks up the username, then the password. -/
def fetchCredentials (s : SecretSettings) : Step Credentials :=
  (lookup s.usernameKey).andThen fun username =>
  (lookup s.passwordKey).andThen fun password =>
  .done (.ok ⟨username, password⟩)

/-- The lines that tell how far a delivery has come. -/
def changedLine (c : KeyChange) : String :=
  "Key " ++ c.key ++ " has been changed into " ++ c.value ++ "."

def credentialsLine (c : Credentials) : String :=
  "Retrieved broker credentials for " ++ c.username

def declaredLine (exchange : String) : String :=
  "Declared '" ++ exchange ++ "'"

def publishedLine (confirmed : Bool) : String :=
  if confirmed then "Message published and confirmed" else "Message published"

def closeFailedLine (f : Failure) : String :=
  "Closing broker connection failed: " ++ f.message

/-- Declares the exchange and publishes the message; gives whether the broker acknowledged it. -/
def announce (message : Message) : Step Bool :=
  (call (.declare (.durableFanout message.exchange))).andThen fun _ =>
  say .info (declaredLine message.exchange) <|
  (call (.publish message)).andThen fun confirmed =>
  say .info (publishedLine confirmed) <|
  .done (.ok confirmed)

/-- Closes the session and goes on, whatever comes of it. -/
def closing {α : Type} (next : Step α) : Step α :=
  .ask (.call .close) fun
    | .ok _ => next
    | .error f => say .warn (closeFailedLine f) next

/-- Delivers a change that is decoded. -/
def forwardChange (s : Settings) (change : KeyChange) (id : MessageId) : Step DeliveryReport :=
  say .info (changedLine change) <|
  (fetchCredentials s.secrets).andThen fun credentials =>
  say .debug (credentialsLine credentials) <|
  (call (.connect credentials s.publishMode)).andThen fun _ =>
  let message := Message.persistentJson s.broker.exchange change.toBody id
  (announce message).bind fun outcome =>
  closing <|
  .done (outcome.map fun confirmed =>
    ⟨change.key, change.value, message.exchange, message.id, confirmed⟩)

/-- The whole delivery for one input; `id` is the identifier of the message, if there comes to be
one. -/
def forward (s : Settings) (input : List UInt8) (id : MessageId) : Step DeliveryReport :=
  match s.check with
  | .error f => .done (.error f.toFailure)
  | .ok () =>
    match KeyChange.ofWatchJson input with
    | .error f => .done (.error f.toFailure)
    | .ok change => forwardChange s change id

end Delivery

end KeyRelay
