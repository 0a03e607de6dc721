import KeyRelay.Broker

/-!
Programs that write log lines, look secrets up and call a broker, and end in a value. A program is a
tree whose branches are the replies it may get; `run` follows one path, with a secret source and a
broker that answer from their states, and records what happens.
-/

namespace KeyRelay

/-- What a program asks for. -/
inductive Ask where
  | lookup (key : String)
  | call (c : Call)
  deriving DecidableEq

abbrev Ask.Answer : Ask → Type
  | .lookup _ => String
  | .call c => c.Answer

inductive Program (α : Type) where
  | done (a : α)
  | say (line : LogLine) (next : Program α)
  | ask (q : Ask) (next : Except Failure q.Answer → Program α)

namespace Program

def bind {α β : Type} : Program α → (α → Program β) → Program β
  | .done a, f => f a
  | .say line next, f => .say line (next.bind f)
  | .ask q next, f => .ask q fun reply => (next reply).bind f

instance : Monad Program where
  pure := .done
  bind := bind

end Program

/-- What happens in a run. -/
inductive Event where
  /-- The program writes a line. -/
  | said (line : LogLine)
  /-- Whoever answers writes a line. -/
  | noted (line : LogLine)
  | asked (q : Ask) (reply : Except Failure q.Answer)

def Event.line? : Event → Option LogLine
  | .said l | .noted l => some l
  | .asked .. => none

def Event.key? : Event → Option String
  | .asked (.lookup key) _ => some key
  | _ => none

def Event.call? : Event → Option Call
  | .asked (.call c) _ => some c
  | _ => none

/-- How a run ends. -/
structure Ran (α σ τ : Type) where
  result : α
  events : List Event
  secrets : σ
  broker : τ

namespace Ran

variable {α σ τ : Type}

/-- The log. -/
def lines (r : Ran α σ τ) : List LogLine :=
  r.events.filterMap Event.line?

/-- The keys that were looked up. -/
def keys (r : Ran α σ τ) : List String :=
  r.events.filterMap Event.key?

/-- The calls the broker got. -/
def calls (r : Ran α σ τ) : List Call :=
  r.events.filterMap Event.call?

/-- Puts events in front. -/
def after (events : List Event) (r : Ran α σ τ) : Ran α σ τ :=
  { r with events := events ++ r.events }

end Ran

/-- Runs a program. -/
def Program.run {α σ τ : Type} (source : SecretSource σ) (broker : Broker τ) :
    Program α → σ → τ → Ran α σ τ
  | .done a, s, t => ⟨a, [], s, t⟩
  | .say line next, s, t => (next.run source broker s t).after [.said line]
  | .ask (.lookup key) next, s, t =>
    let a := source.lookup key s
    ((next a.result).run source broker a.state t).after (a.lines.map .noted ++
      [.asked (.lookup key) a.result])
  | .ask (.call c) next, s, t =>
    let a := broker.answer c t
    ((next a.result).run source broker s a.state).after (a.lines.map .noted ++
      [.asked (.call c) a.result])

/-- A broker that can do nothing, for programs that only look up. -/
def Broker.absent : Broker Unit where
  answer _ _ := ⟨.error (.connection "no broker"), [], ()⟩

end KeyRelay
