import KeyRelay.Broker

/-!
Disturbed brokers: some kinds of call fail with a given failure. A disturbed connect, declare or
publish never reaches the broker; a disturbed close does.
-/

namespace KeyRelay

structure Disturbance where
  connect : Option Failure := none
  declare : Option Failure := none
  publish : Option Failure := none
  close : Option Failure := none

/-- The failure that a call is made to end in. -/
def Disturbance.of (d : Disturbance) : Call → Option Failure
  | .connect .. => d.connect
  | .declare _ => d.declare
  | .publish _ => d.publish
  | .close => d.close

def Broker.disturbed {σ : Type} (b : Broker σ) (d : Disturbance) : Broker σ where
  answer c s :=
    match d.of c with
    | none => b.answer c s
    | some f => ⟨.error f, [], if c = .close then (b.answer c s).state else s⟩

end KeyRelay
