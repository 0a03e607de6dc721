import KeyRelay.CommandLine.Number
import KeyRelay.Settings
import KeyRelay.Text.Unstyled

/-!
The options of the command line. Each has a long name and, but for two, an environment variable;
`Choices` holds what they were set to, and `set` says what a value of each option does to it.
-/

namespace KeyRelay.CommandLine

inductive Opt where
  | brokerHost
  | brokerPort
  | vhost
  | exchange
  | lookupCommand
  | tokenFile
  | keyPrefix
  | environment
  | noEnvironment
  | publishMode
  | connectTimeout
  | operationTimeout
  | lookupTimeout
  | confirmTimeout
  | verbose
  | help
  deriving DecidableEq, Repr

namespace Opt

/-- Every option in the order of declaration. -/
def all : List Opt :=
  [.brokerHost, .brokerPort, .vhost, .exchange, .lookupCommand, .tokenFile, .keyPrefix,
    .environment, .noEnvironment, .publishMode, .connectTimeout, .operationTimeout, .lookupTimeout,
    .confirmTimeout, .verbose, .help]

/-- The long name. -/
def name : Opt → String
  | .brokerHost => "broker-host"
  | .brokerPort => "broker-port"
  | .vhost => "vhost"
  | .exchange => "exchange"
  | .lookupCommand => "lookup-command"
  | .tokenFile => "token-file"
  | .keyPrefix => "key-prefix"
  | .environment => "environment"
  | .noEnvironment => "no-environment"
  | .publishMode => "publish-mode"
  | .connectTimeout => "connect-timeout-secs"
  | .operationTimeout => "operation-timeout-secs"
  | .lookupTimeout => "lookup-timeout-secs"
  | .confirmTimeout => "confirm-timeout-secs"
  | .verbose => "verbose"
  | .help => "help"

/-- The option of a long name, which has to be complete. -/
def ofName? (name : String) : Option Opt :=
  all.find? fun o => o.name = name

/-- The option of a letter. -/
def ofLetter? (c : Char) : Option Opt :=
  if c = 'v' then some .verbose else if c = 'h' then some .help else none

/-- Stands for itself and takes no value. -/
def isFlag : Opt → Bool
  | .noEnvironment | .verbose | .help => true
  | _ => false

/-- The name in capitals, words joined by underscores. -/
def capitals (o : Opt) : String :=
  o.name.map fun c => if c = '-' then '_' else c.toUpper

/-- The environment variable. -/
def environmentName? : Opt → Option String
  | .verbose | .help => none
  | o => some ("KVWATCH_" ++ o.capitals)

/-- The option as it is named in messages. -/
def usage (o : Opt) : String :=
  if o.isFlag then "--" ++ o.name else "--" ++ o.name ++ " <" ++ o.capitals ++ ">"

end Opt

/-- Why a command line is refused, or that help is asked for. -/
inductive UsageFault where
  | unknownArgument (shown : String)
  | missingValue (o : Opt)
  | invalidValue (o : Opt) (value : String)
  | badNumber (o : Opt) (value : String) (why : NumberFault)
  | tooManyValues (o : Opt) (value : String)
  | repeated (o : Opt)
  | help
  deriving DecidableEq, Repr

namespace UsageFault

def kind : UsageFault → String
  | .unknownArgument _ => "UnknownArgument"
  | .missingValue _ => "InvalidValue"
  | .invalidValue .. => "InvalidValue"
  | .badNumber .. => "ValueValidation"
  | .tooManyValues .. => "TooManyValues"
  | .repeated _ => "ArgumentConflict"
  | .help => "DisplayHelp"

/-- What is wrong, in the words shown to the user; the text of the help is not told here. Values are
shown without what only drives a terminal. -/
def text : UsageFault → String
  | .unknownArgument shown => "error: unexpected argument '" ++ Unstyled.strip shown ++ "' found"
  | .missingValue o => "error: a value is required for '" ++ o.usage ++ "' but none was supplied"
  | .invalidValue o v => "error: invalid value '" ++ Unstyled.strip v ++ "' for '" ++ o.usage ++ "'"
  | .badNumber o v why =>
    "error: invalid value '" ++ Unstyled.strip v ++ "' for '" ++ o.usage ++ "': " ++ why.message
  | .tooManyValues o v =>
    "error: unexpected value '" ++ Unstyled.strip v ++ "' for '" ++ o.usage ++
      "' found; no more were expected"
  | .repeated o => "error: the argument '" ++ o.usage ++ "' cannot be used multiple times"
  | .help => ""

/-- The first line of the text, which a value may break; a carriage return belongs to the line
end. -/
def message (f : UsageFault) : String :=
  let line := f.text.toList.takeWhile (· ≠ '\n')
  String.ofList (if line.length < f.text.length ∧ line.getLast? = some '\r' then line.dropLast
    else line)

end UsageFault

/-- What the options come to. -/
structure Choices where
  /-- The settings, with the environment named even where it is not used. -/
  settings : Settings := {}
  noEnvironment : Bool := false
  verbose : Bool := false
  deriving DecidableEq, Repr

namespace Choices

def toSettings (c : Choices) : Settings :=
  if c.noEnvironment then { c.settings with
    secrets := { c.settings.secrets with environment := none } }
  else c.settings

def updateBroker (c : Choices) (f : BrokerSettings → BrokerSettings) : Choices :=
  { c with settings := { c.settings with broker := f c.settings.broker } }

def updateSecrets (c : Choices) (f : SecretSettings → SecretSettings) : Choices :=
  { c with settings := { c.settings with secrets := f c.settings.secrets } }

end Choices

/-- A number of seconds. -/
def seconds (o : Opt) (v : String) : Except UsageFault UInt64 :=
  match readUnsigned 64 v with
  | .ok n => .ok (UInt64.ofNat n)
  | .error why => .error (.badNumber o v why)

/-- A value that must be one of these words. -/
def oneOf {α : Type} (o : Opt) (words : List (String × α)) (v : String) : Except UsageFault α :=
  match words.find? fun w => w.1 = v with
  | some w => .ok w.2
  | none => .error (if v = "" then .missingValue o else .invalidValue o v)

/-- The words for a flag that is set by its variable. -/
def switch : List (String × Bool) :=
  [("true", true), ("false", false)]

/-- Sets an option to a value. -/
def Opt.set (o : Opt) (v : String) (c : Choices) : Except UsageFault Choices :=
  match o with
  | .brokerHost => .ok (c.updateBroker fun s => { s with host := v })
  | .brokerPort =>
    match readUpTo 65535 v with
    | .ok n => .ok (c.updateBroker fun s => { s with port := UInt16.ofNat n })
    | .error why => .error (.badNumber o v why)
  | .vhost => .ok (c.updateBroker fun s => { s with vhost := v })
  | .exchange => .ok (c.updateBroker fun s => { s with exchange := v })
  | .lookupCommand => .ok (c.updateSecrets fun s => { s with command := v })
  | .tokenFile =>
    if v = "" then .error (.missingValue o)
      else .ok (c.updateSecrets fun s => { s with tokenFile := v })
  | .keyPrefix => .ok (c.updateSecrets fun s => { s with keyPrefix := v })
  | .environment => .ok (c.updateSecrets fun s => { s with environment := some v })
  | .noEnvironment => (oneOf o switch v).map fun b => { c with noEnvironment := b }
  | .publishMode =>
    (oneOf o PublishMode.named v).map fun m =>
      { c with settings := { c.settings with publishMode := m } }
  | .connectTimeout =>
    (seconds o v).map fun n => c.updateBroker fun s => { s with connectTimeout := n }
  | .operationTimeout =>
    (seconds o v).map fun n => c.updateBroker fun s => { s with operationTimeout := n }
  | .lookupTimeout => (seconds o v).map fun n => c.updateSecrets fun s => { s with timeout := n }
  | .confirmTimeout =>
    (seconds o v).map fun n => { c with settings := { c.settings with confirmTimeout := n } }
  | .verbose => .ok { c with verbose := true }
  | .help => .error .help

end KeyRelay.CommandLine
