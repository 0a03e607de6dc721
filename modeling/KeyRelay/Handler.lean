import KeyRelay.CommandLine.Parse
import KeyRelay.Delivery
import KeyRelay.Delivery.Input
import KeyRelay.Settings.Text

/-!
The handler of a watch: it reads the payload, delivers the change, and tells how that went in its
log and its exit code.
-/

namespace KeyRelay.Handler

/-- The outcome of a run. -/
abbrev Outcome := Except Trouble DeliveryReport

/-- Reads the input and delivers it. -/
def run {σ τ : Type} (s : Settings) (input : InputStream) (id : MessageId)
    (source : SecretSource σ) (broker : Broker τ) (secrets : σ) (state : τ) : Ran Outcome σ τ :=
  match input.readAll with
  | .error f => ⟨.error ((Trouble.ofFailure f).within "reading watch payload"), [], secrets, state⟩
  | .ok payload =>
    let r := (Delivery.forward s payload id).run source broker secrets state
    { r with
      result := r.result.mapError fun f => (Trouble.ofFailure f).within "forwarding key change" }

/-- The lines that tell how a run ended. -/
def closingLines : Outcome → List LogLine
  | .ok r =>
    [⟨.debug, "Forwarded " ++ r.key ++ " to " ++ r.exchange ++ " (message " ++
      r.messageId.text ++ ")"⟩]
  | .error t =>
    ⟨.error, t.message⟩ ::
      if t.brokerContacted then [] else [⟨.debug, "Broker was not contacted"⟩]

def exitCode : Outcome → Nat
  | .ok _ => 0
  | .error t => t.exitCode

/-- The line that shows the settings. -/
def settingsLine (s : Settings) : LogLine :=
  ⟨.debug, "Configuration: " ++ s.debug⟩

/-- What a process prints and how it ends. -/
structure Exit where
  code : Nat
  output : List String
  errors : List String
  deriving DecidableEq, Repr

/-- Controls that could drive a terminal are shown as escapes. -/
def shownChar (c : Char) : String :=
  let n := c.toNat
  if n = 0x1B ∨ n = 0x07 ∨ n = 0x08 ∨ n = 0x0C ∨ n = 0x7F then
    "\\x" ++ String.ofList (if n < 16 then '0' :: Nat.toDigits 16 n else Nat.toDigits 16 n)
  else if 0x80 ≤ n ∧ n ≤ 0x9F then "\\u\x7b" ++ String.ofList (Nat.toDigits 16 n) ++ "\x7d"
  else String.singleton c

/-- A log line as printed lines; each ends at a line feed, with or without a carriage return before
it. -/
def printed (l : LogLine) : List String :=
  let pieces := (l.level.name ++ " " ++ String.join (l.text.toList.map shownChar)).splitOn "\n"
  pieces.map fun line => if line.endsWith "\r" then String.ofList line.toList.dropLast else line

/-- The exit code of a command line that is refused. -/
def usageExit : Nat := 2

/-- The whole process. The run is given the settings that the command line comes to. -/
def process {σ τ : Type} (env : List (String × String)) (argv : List String)
    (run : Settings → Ran Outcome σ τ) : Exit × Option (Ran Outcome σ τ) :=
  match CommandLine.parse env argv with
  | .error .help => (⟨0, [], []⟩, none)
  | .error f => (⟨usageExit, [], [f.message]⟩, none)
  | .ok choices =>
    let s := choices.toSettings
    let r := run s
    let lines := settingsLine s :: r.lines ++ closingLines r.result
    (⟨exitCode r.result, (lines.filter (·.isShown choices.verbose)).flatMap printed, []⟩, some r)

end KeyRelay.Handler
