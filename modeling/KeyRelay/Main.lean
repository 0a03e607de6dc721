import KeyRelay.Amqp.Client
import KeyRelay.Amqp.Script
import KeyRelay.Handler
import KeyRelay.Shell.Machine

/-!
The command line program. Standard input is the payload, settings come from options and environment.
Lookup tools are scripts, run by the interpreter of this library; no network is at hand, so every
connection ends in the system's refusal.
-/

namespace KeyRelay.Main

/-- What the system says where there is no network. -/
def noNetwork : String := "Network is unreachable (os error 101)"

/-- Reads a stream to its end. -/
partial def readAll (stream : IO.FS.Stream) (chunks : List (List UInt8)) :
    IO (List (List UInt8)) := do
  let chunk ← stream.read 65536
  if chunk.isEmpty then return chunks.reverse else readAll stream (chunk.toList :: chunks)

/-- The values of the variables that options are read from. -/
def environment : IO (List (String × String)) := do
  let names := CommandLine.Opt.all.filterMap CommandLine.Opt.environmentName?
  names.filterMapM fun name => do return (← IO.getEnv name).map (name, ·)

/-- The usual machine, with the lookup tool if it is a readable script. -/
def machineWith (command : String) : IO Shell.Machine := do
  try
    let text ← IO.FS.readFile command
    return if text.startsWith "#!" then Shell.Machine.standard.addScript command text
      else Shell.Machine.standard
  catch _ => return Shell.Machine.standard

end KeyRelay.Main

open KeyRelay in
def main (argv : List String) : IO UInt32 := do
  let env ← Main.environment
  let now ← IO.monoMsNow
  let id := MessageId.timeOrdered now now
  let command := match CommandLine.parse env argv with
    | .ok choices => choices.settings.secrets.command
    | .error _ => ""
  let machine ← Main.machineWith command
  let chunks ← match CommandLine.parse env argv with
    | .ok _ => Main.readAll (← IO.getStdin) []
    | .error _ => pure []
  let (exit, _) := Handler.process env argv fun s =>
    let client : Amqp.Client := ⟨s.broker, s.confirmTimeout, now / 1000⟩
    Handler.run s ⟨chunks, none⟩ id (s.secrets.toolSource machine.run)
      (client.broker Amqp.Script.server) []
      { server := { unreachable := some Main.noNetwork } }
  for line in exit.output do IO.println line
  for line in exit.errors do IO.eprintln line
  return UInt32.ofNat exit.code
