import KeyRelay.Broker.Memory

/-!
A broker in memory with any number of sessions, numbered as they are opened. A session can be closed
once, or dropped without being closed; after either it is gone.
-/

namespace KeyRelay

structure Desk where
  broker : MemoryBroker := {}
  /-- Every session ever opened; nothing in place of one that is gone. -/
  sessions : List (Option MemorySession) := []
  deriving DecidableEq

/-- What can be done at a desk. -/
inductive DeskStep where
  | acceptOnly (who : Credentials)
  | existing (spec : ExchangeSpec)
  | nack
  | connect (who : Credentials) (mode : PublishMode)
  | declare (session : Nat) (spec : ExchangeSpec)
  | publish (session : Nat) (message : Message)
  | close (session : Nat)
  | drop (session : Nat)
  deriving DecidableEq

/-- What comes of a step. -/
inductive DeskResult where
  | done
  | opened (session : Nat)
  | acknowledged (acked : Bool)
  | noSession
  | failed (f : Failure)
  deriving DecidableEq, Repr

namespace Desk

def session? (d : Desk) (n : Nat) : Option MemorySession :=
  d.sessions[n]?.join

/-- Forgets a session. -/
def forget (d : Desk) (n : Nat) : Desk :=
  { d with sessions := d.sessions.set n none }

def step (d : Desk) : DeskStep → DeskResult × Desk
  | .acceptOnly who => (.done, { d with broker := { d.broker with accepted := some who } })
  | .existing spec => (.done, { d with broker := d.broker.setExchange spec })
  | .nack => (.done, { d with broker := { d.broker with nacking := true } })
  | .connect who mode =>
    match d.broker.connect who mode with
    | (.ok s, b) => (.opened d.sessions.length, ⟨b, d.sessions ++ [some s]⟩)
    | (.error f, b) => (.failed f, { d with broker := b })
  | .declare n spec =>
    match d.session? n with
    | none => (.noSession, d)
    | some _ =>
      match d.broker.declare spec with
      | (.ok (), b) => (.done, { d with broker := b })
      | (.error f, b) => (.failed f, { d with broker := b })
  | .publish n m =>
    match d.session? n with
    | none => (.noSession, d)
    | some s =>
      match d.broker.publish s m with
      | (.ok acked, b) => (.acknowledged acked, { d with broker := b })
      | (.error f, b) => (.failed f, { d with broker := b })
  | .close n =>
    match d.session? n with
    | none => (.noSession, d)
    | some _ => (.done, { d.forget n with broker := d.broker.close })
  | .drop n =>
    match d.session? n with
    | none => (.noSession, d)
    | some _ => (.done, d.forget n)

/-- Steps one after another. -/
def run (d : Desk) (steps : List DeskStep) : Desk :=
  steps.foldl (fun d s => (d.step s).2) d

end Desk

end KeyRelay
