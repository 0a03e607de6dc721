import KeyRelay.Failure
import KeyRelay.Text.Blank

/-!
Settings of a delivery: where the broker is, where its credentials are looked up, how a message is
published, and how long each step may take. `Settings.check` names the first setting that cannot
work.
-/

namespace KeyRelay

/-- Where the broker is and what is declared there; time limits are in seconds. -/
structure BrokerSettings where
  host : String := "127.78.0.2"
  port : UInt16 := 20006
  /-- The virtual host. -/
  vhost : String := "/"
  /-- The fanout exchange. -/
  exchange : String := "KV_CHANGED_EXCHANGE"
  /-- Limit for connecting and for setting the channel up. -/
  connectTimeout : UInt64 := 10
  /-- Limit for each declare, publish and close. -/
  operationTimeout : UInt64 := 10
  deriving DecidableEq, Repr

/-- How credentials are looked up. -/
structure SecretSettings where
  /-- The lookup tool. -/
  command : String := "consul"
  /-- The file of the tool's token, as the path is shown to the tool. A path is a text here: what a
  path that is no text would be shown as, with replacement characters, stands for it. -/
  tokenFile : String := "/etc/carbonio/files/service-discover/token"
  /-- The first part of the key paths. -/
  keyPrefix : String := "carbonio-message-broker"
  /-- The part between prefix and name, if there is one. -/
  environment : Option String := some "default"
  /-- Limit for one lookup. -/
  timeout : UInt64 := 10
  deriving DecidableEq, Repr

namespace SecretSettings

/-- The path of a secret; an empty environment counts as none. -/
def keyPath (s : SecretSettings) (name : String) : String :=
  match s.environment with
  | some environment =>
    if environment = "" then s.keyPrefix ++ "/" ++ name
    else s.keyPrefix ++ "/" ++ environment ++ "/" ++ name
  | none => s.keyPrefix ++ "/" ++ name

def usernameKey (s : SecretSettings) : String :=
  s.keyPath "username"

def passwordKey (s : SecretSettings) : String :=
  s.keyPath "password"

end SecretSettings

/-- Whether a publish waits for the broker's acknowledgement. -/
inductive PublishMode where
  | confirmed
  | fireAndForget
  deriving DecidableEq, Repr

namespace PublishMode

def waitsForConfirm : PublishMode → Bool
  | .confirmed => true
  | .fireAndForget => false

/-- The name in documents and on the command line. -/
def name : PublishMode → String
  | .confirmed => "confirmed"
  | .fireAndForget => "fire-and-forget"

/-- Every mode with its name. -/
def named : List (String × PublishMode) :=
  [PublishMode.confirmed, .fireAndForget].map fun m => (m.name, m)

end PublishMode

structure Settings where
  broker : BrokerSettings := {}
  secrets : SecretSettings := {}
  publishMode : PublishMode := .confirmed
  /-- Limit for the wait for a confirmation. -/
  confirmTimeout : UInt64 := 10
  deriving DecidableEq, Repr

/-- A setting that cannot work. -/
inductive SettingsFault where
  | emptyHost
  | zeroPort
  | emptyExchange
  | zeroConnectTimeout
  | zeroOperationTimeout
  | emptyCommand
  | emptyKeyPrefix
  | zeroLookupTimeout
  | zeroConfirmTimeout
  deriving DecidableEq, Repr

def SettingsFault.message : SettingsFault → String
  | .emptyHost => "broker host is empty"
  | .zeroPort => "broker port must be non-zero"
  | .emptyExchange => "exchange name is empty"
  | .zeroConnectTimeout => "connect timeout must be non-zero"
  | .zeroOperationTimeout => "operation timeout must be non-zero"
  | .emptyCommand => "lookup command is empty"
  | .emptyKeyPrefix => "secret key prefix is empty"
  | .zeroLookupTimeout => "lookup timeout must be non-zero"
  | .zeroConfirmTimeout => "confirm timeout must be non-zero"

/-- The fault as a failure of the delivery. -/
def SettingsFault.toFailure (f : SettingsFault) : Failure :=
  .config f.message

namespace Settings

/-- Every check in the order of precedence: whether it fails, and the fault then. -/
def checks (s : Settings) : List (Bool × SettingsFault) :=
  [ (Blank.isBlankText s.broker.host, .emptyHost),
    (s.broker.port = 0, .zeroPort),
    (Blank.isBlankText s.broker.exchange, .emptyExchange),
    (s.broker.connectTimeout = 0, .zeroConnectTimeout),
    (s.broker.operationTimeout = 0, .zeroOperationTimeout),
    (Blank.isBlankText s.secrets.command, .emptyCommand),
    (Blank.isBlankText s.secrets.keyPrefix, .emptyKeyPrefix),
    (s.secrets.timeout = 0, .zeroLookupTimeout),
    (s.publishMode.waitsForConfirm && s.confirmTimeout = 0, .zeroConfirmTimeout) ]

/-- The first fault. A confirmation limit counts only where a confirmation is waited for. -/
def check (s : Settings) : Except SettingsFault Unit :=
  match s.checks.find? (·.1) with
  | some (_, fault) => .error fault
  | none => .ok ()

end Settings

end KeyRelay
