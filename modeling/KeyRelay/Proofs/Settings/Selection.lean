import KeyRelay.Settings
import Mathlib.Data.Fintype.Basic

/-!
Settings one by one. `onto` takes some settings from one configuration and leaves the others as
another has them. Two selections from the same configuration add up, in either order, which is what
makes the order in which settings are read irrelevant.
-/

namespace KeyRelay

inductive Setting where
  | host
  | port
  | vhost
  | exchange
  | connectTimeout
  | operationTimeout
  | command
  | tokenFile
  | keyPrefix
  | environment
  | lookupTimeout
  | publishMode
  | confirmTimeout
  deriving DecidableEq, Repr

instance : Fintype Setting :=
  .ofList [.host, .port, .vhost, .exchange, .connectTimeout, .operationTimeout, .command,
    .tokenFile, .keyPrefix, .environment, .lookupTimeout, .publishMode,
    .confirmTimeout] fun x => by cases x <;> decide

/-- The part of the settings that a setting stands in, if it stands in one. -/
def Setting.within : Setting → Option String
  | .host | .port | .vhost | .exchange | .connectTimeout | .operationTimeout => some "broker"
  | .command | .tokenFile | .keyPrefix | .environment | .lookupTimeout => some "secrets"
  | .publishMode | .confirmTimeout => none

theorem Setting.within_broker {x : Setting} (h : x.within = some "broker") :
    x = .host ∨ x = .port ∨ x = .vhost ∨ x = .exchange ∨ x = .connectTimeout ∨
    x = .operationTimeout := by
  revert x
  decide

theorem Setting.within_secrets {x : Setting} (h : x.within = some "secrets") :
    x = .command ∨ x = .tokenFile ∨ x = .keyPrefix ∨ x = .environment ∨ x = .lookupTimeout := by
  revert x
  decide

theorem Setting.within_none {x : Setting} (h : x.within = none) :
    x = .publishMode ∨ x = .confirmTimeout := by
  revert x
  decide

variable {S T : Finset Setting}

namespace BrokerSettings

/-- The settings of `S` as in `c`, all others as in `base`. -/
def onto (c : BrokerSettings) (S : Finset Setting) (base : BrokerSettings) : BrokerSettings where
  host := if .host ∈ S then c.host else base.host
  port := if .port ∈ S then c.port else base.port
  vhost := if .vhost ∈ S then c.vhost else base.vhost
  exchange := if .exchange ∈ S then c.exchange else base.exchange
  connectTimeout := if .connectTimeout ∈ S then c.connectTimeout else base.connectTimeout
  operationTimeout := if .operationTimeout ∈ S then c.operationTimeout else base.operationTimeout

variable (c base : BrokerSettings)

theorem onto_congr (same : ∀ x : Setting, x.within = some "broker" → (x ∈ S ↔ x ∈ T)) :
    c.onto S base = c.onto T base := by
  simp only [onto, same .host rfl, same .port rfl, same .vhost rfl, same .exchange rfl,
    same .connectTimeout rfl, same .operationTimeout rfl]

@[simp] theorem onto_empty : c.onto ∅ base = base := by
  simp [onto]

@[simp] theorem onto_univ : c.onto .univ base = c := by
  simp [onto]

theorem onto_onto : c.onto S (c.onto T base) = c.onto (S ∪ T) base := by
  simp only [onto, Finset.mem_union, ite_or]

theorem onto_inter : (c.onto S base).onto T base = c.onto (T ∩ S) base := by
  simp only [onto, Finset.mem_inter, ite_and]

end BrokerSettings

namespace SecretSettings

/-- The settings of `S` as in `c`, all others as in `base`. -/
def onto (c : SecretSettings) (S : Finset Setting) (base : SecretSettings) : SecretSettings where
  command := if .command ∈ S then c.command else base.command
  tokenFile := if .tokenFile ∈ S then c.tokenFile else base.tokenFile
  keyPrefix := if .keyPrefix ∈ S then c.keyPrefix else base.keyPrefix
  environment := if .environment ∈ S then c.environment else base.environment
  timeout := if .lookupTimeout ∈ S then c.timeout else base.timeout

variable (c base : SecretSettings)

theorem onto_congr (same : ∀ x : Setting, x.within = some "secrets" → (x ∈ S ↔ x ∈ T)) :
    c.onto S base = c.onto T base := by
  simp only [onto, same .command rfl, same .tokenFile rfl, same .keyPrefix rfl,
    same .environment rfl, same .lookupTimeout rfl]

@[simp] theorem onto_empty : c.onto ∅ base = base := by
  simp [onto]

@[simp] theorem onto_univ : c.onto .univ base = c := by
  simp [onto]

theorem onto_onto : c.onto S (c.onto T base) = c.onto (S ∪ T) base := by
  simp only [onto, Finset.mem_union, ite_or]

theorem onto_inter : (c.onto S base).onto T base = c.onto (T ∩ S) base := by
  simp only [onto, Finset.mem_inter, ite_and]

end SecretSettings

namespace Settings

/-- The settings of `S` as in `c`, all others as in `base`. -/
def onto (c : Settings) (S : Finset Setting) (base : Settings) : Settings where
  broker := c.broker.onto S base.broker
  secrets := c.secrets.onto S base.secrets
  publishMode := if .publishMode ∈ S then c.publishMode else base.publishMode
  confirmTimeout := if .confirmTimeout ∈ S then c.confirmTimeout else base.confirmTimeout

variable (c base : Settings)

@[simp] theorem onto_empty : c.onto ∅ base = base := by
  simp [onto]

@[simp] theorem onto_univ : c.onto .univ base = c := by
  simp [onto]

theorem onto_onto : c.onto S (c.onto T base) = c.onto (S ∪ T) base := by
  simp only [onto, BrokerSettings.onto_onto, SecretSettings.onto_onto, Finset.mem_union, ite_or]

theorem onto_inter : (c.onto S base).onto T base = c.onto (T ∩ S) base := by
  simp only [onto, BrokerSettings.onto_inter, SecretSettings.onto_inter, Finset.mem_inter, ite_and]

end Settings

end KeyRelay
