import KeyRelay.Json.Printer
import KeyRelay.Json.Record
import KeyRelay.Settings

/-!
Settings as JSON. Every field may be left out and then has its default; fields are written in the
order of declaration.
-/

namespace KeyRelay

open Json

namespace BrokerSettings

def shape : Shape BrokerSettings where
  name := "BrokerConfig"
  blank := {}
  fields := [
    .of "host" .defaulted (aText "a string") fun s host => { s with host },
    .of "port" .defaulted (anUnsigned 16) fun s n => { s with port := UInt16.ofNat n },
    .of "vhost" .defaulted (aText "a string") fun s vhost => { s with vhost },
    .of "exchange" .defaulted (aText "a string") fun s exchange => { s with exchange },
    .of "connect_timeout_secs" .defaulted (anUnsigned 64) fun s n =>
      { s with connectTimeout := UInt64.ofNat n },
    .of "operation_timeout_secs" .defaulted (anUnsigned 64) fun s n =>
      { s with operationTimeout := UInt64.ofNat n }]

def toJson (s : BrokerSettings) : String :=
  object [
    ("host", quoted s.host),
    ("port", toString s.port.toNat),
    ("vhost", quoted s.vhost),
    ("exchange", quoted s.exchange),
    ("connect_timeout_secs", toString s.connectTimeout.toNat),
    ("operation_timeout_secs", toString s.operationTimeout.toNat)]

end BrokerSettings

namespace SecretSettings

def shape : Shape SecretSettings where
  name := "SecretConfig"
  blank := {}
  fields := [
    .of "command" .defaulted (aText "a string") fun s command => { s with command },
    .of "token_file" .defaulted (aText "path string") fun s tokenFile => { s with tokenFile },
    .of "key_prefix" .defaulted (aText "a string") fun s keyPrefix => { s with keyPrefix },
    .of "environment" .defaulted (anOption (aText "a string")) fun s environment =>
      { s with environment },
    .of "timeout_secs" .defaulted (anUnsigned 64) fun s n => { s with timeout := UInt64.ofNat n }]

def toJson (s : SecretSettings) : String :=
  object [
    ("command", quoted s.command),
    ("token_file", quoted s.tokenFile),
    ("key_prefix", quoted s.keyPrefix),
    ("environment", quotedOption s.environment),
    ("timeout_secs", toString s.timeout.toNat)]

end SecretSettings

namespace Settings

def shape : Shape Settings where
  name := "ForwarderConfig"
  blank := {}
  fields := [
    .of "broker" .defaulted BrokerSettings.shape.reader fun s broker => { s with broker },
    .of "secrets" .defaulted SecretSettings.shape.reader fun s secrets => { s with secrets },
    .of "publish_mode" .defaulted (aVariant PublishMode.named) fun s publishMode =>
      { s with publishMode },
    .of "confirm_timeout_secs" .defaulted (anUnsigned 64) fun s n =>
      { s with confirmTimeout := UInt64.ofNat n }]

/-- Reads settings from a JSON document. -/
def ofJson (bytes : List UInt8) : Except Fault Settings :=
  document shape.reader bytes

/-- The settings as a JSON document. -/
def toJson (s : Settings) : String :=
  object [
    ("broker", s.broker.toJson),
    ("secrets", s.secrets.toJson),
    ("publish_mode", quoted s.publishMode.name),
    ("confirm_timeout_secs", toString s.confirmTimeout.toNat)]

end Settings

end KeyRelay
