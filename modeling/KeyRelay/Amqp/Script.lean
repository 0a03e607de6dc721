import KeyRelay.Amqp.Link

/-!
Servers that follow a script: for each kind of request a list of reactions, taken one per request,
the last of which repeats. The server records what it receives until it stops listening.
-/

namespace KeyRelay.Amqp

/-- Kinds of request. -/
inductive RequestKind where
  | start
  | startOk
  | openConnection
  | channel
  | confirm
  | declare
  | publish
  | channelClose
  | connectionClose
  deriving DecidableEq, Repr

def Method.kind : Method → RequestKind
  | .header => .start
  | .startOk .. => .startOk
  | .openConnection _ => .openConnection
  | .openChannel => .channel
  | .confirmSelect _ => .confirm
  | .declare _ => .declare
  | .publish _ => .publish
  | .closeChannel .. => .channelClose
  | .closeConnection .. => .connectionClose

inductive Scripted where
  | ok
  | nack
  | lose (loss : Loss)
  /-- Neither answers nor records any more. -/
  | hang
  /-- Does not answer this one. -/
  | ignore
  deriving DecidableEq, Repr

structure Script where
  /-- What the system says where no server listens. -/
  unreachable : Option String := none
  reactions : List (RequestKind × List Scripted) := []
  /-- Still recording and answering. -/
  listening : Bool := true
  /-- Everything received. -/
  received : List Method := []

namespace Script

/-- A server that takes the connection and never says or records anything. -/
def mute : Script := { listening := false }

/-- The reaction to the next request of a kind. -/
def next (s : Script) (k : RequestKind) : Scripted :=
  ((s.reactions.find? fun r => r.1 = k).bind (·.2.head?)).getD .ok

/-- Passes on to the following reaction of a kind, unless the present one is the last. -/
def advance (s : Script) (k : RequestKind) : Script :=
  { s with reactions := s.reactions.map fun r =>
      if r.1 = k ∧ 1 < r.2.length then (r.1, r.2.drop 1) else r }

def react (m : Method) (s : Script) : Reaction × Script :=
  if !s.listening then (.silent, s)
  else
    let reaction := s.next m.kind
    let s := { s.advance m.kind with received := s.received ++ [m] }
    match reaction with
    | .ok => (.accept none, s)
    | .nack => (.nack, s)
    | .ignore => (.silent, s)
    | .hang => (.silent, { s with listening := false })
    | .lose (.channel code text) => (.refuse (.channel code text), s)
    | .lose loss => (.refuse loss, { s with listening := false })

def server : Server Script where
  unreachable s := s.unreachable
  react := react

end Script

end KeyRelay.Amqp
