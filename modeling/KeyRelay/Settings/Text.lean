import KeyRelay.Settings
import KeyRelay.Text.Quoted

/-!
Settings as they are shown to a developer: every record by name with all its fields.
-/

namespace KeyRelay

open Quoted

def BrokerSettings.debug (s : BrokerSettings) : String :=
  record "BrokerConfig" [
    ("host", quote s.host),
    ("port", toString s.port.toNat),
    ("vhost", quote s.vhost),
    ("exchange", quote s.exchange),
    ("connect_timeout_secs", toString s.connectTimeout.toNat),
    ("operation_timeout_secs", toString s.operationTimeout.toNat)]

def SecretSettings.debug (s : SecretSettings) : String :=
  record "SecretConfig" [
    ("command", quote s.command),
    ("token_file", quote s.tokenFile),
    ("key_prefix", quote s.keyPrefix),
    ("environment", quoteOption s.environment),
    ("timeout_secs", toString s.timeout.toNat)]

def PublishMode.debug : PublishMode → String
  | .confirmed => "Confirmed"
  | .fireAndForget => "FireAndForget"

def Settings.debug (s : Settings) : String :=
  record "ForwarderConfig" [
    ("broker", s.broker.debug),
    ("secrets", s.secrets.debug),
    ("publish_mode", s.publishMode.debug),
    ("confirm_timeout_secs", toString s.confirmTimeout.toNat)]

end KeyRelay
