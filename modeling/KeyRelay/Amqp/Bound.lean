import KeyRelay.Failure

/-!
Waits with a limit. A result that is there at once counts whatever the limit; one that comes later
counts unless the limit is zero; one that never comes ends in the expiry of the limit.
-/

namespace KeyRelay.Amqp

/-- When a result is there. -/
inductive Wait (α : Type) where
  | now (a : α)
  /-- Within any limit that is not zero. -/
  | later (a : α)
  | never
  deriving DecidableEq, Repr

def Wait.map {α β : Type} (f : α → β) : Wait α → Wait β
  | .now a => .now (f a)
  | .later a => .later (f a)
  | .never => .never

/-- A limit in milliseconds. -/
structure Limit where
  millis : Nat
  deriving DecidableEq, Repr

namespace Limit

def ofSeconds (n : UInt64) : Limit :=
  ⟨n.toNat * 1000⟩

/-- Whole seconds. -/
def seconds (l : Limit) : Nat :=
  l.millis / 1000

end Limit

/-- What is said where a step takes too long. -/
def expiry (limit : Limit) (step : String) : String :=
  step ++ " timed out after " ++ toString limit.seconds ++ "s"

/-- Waits for a step's result; its expiry is reported through `expired`. -/
def bounded {α : Type} (limit : Limit) (step : String) (expired : String → Failure)
    (result : Wait (Except Failure α)) : Except Failure α :=
  match result with
  | .now r => r
  | .later r => if limit.millis = 0 then .error (expired (expiry limit step)) else r
  | .never => .error (expired (expiry limit step))

end KeyRelay.Amqp
