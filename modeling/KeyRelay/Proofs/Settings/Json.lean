import KeyRelay.Proofs.Json.Printer
import KeyRelay.Proofs.Json.Scalar
import KeyRelay.Proofs.Settings.Selection
import KeyRelay.Settings.Json

/-!
Settings in a document. A document that holds some of the settings of a configuration, in any order
and among members of other names, is read as that configuration over the defaults; what is left out
keeps its default, one setting or a whole part. Each of the three records is read in the same way,
so the induction over the members of an object is done once, for any record that `Assembles`
settings.
-/

namespace KeyRelay

open Json

variable {ρ : Type}

/-! ### Records that settings are read into -/

namespace Setting

/-- The settings found under a name. -/
def under (key : Setting → String) (name : String) : Finset Setting :=
  Finset.univ.filter fun x => key x = name

/-- The settings found under the names of members. -/
def among (key : Setting → String) (ms : List (String × Value)) : Finset Setting :=
  Finset.univ.filter fun x => key x ∈ ms.map (·.1)

@[simp] theorem mem_under {key : Setting → String} {name : String} {x : Setting} :
    x ∈ under key name ↔ key x = name := by
  simp [under]

theorem mem_among {key : Setting → String} {ms : List (String × Value)} {x : Setting} :
    x ∈ among key ms ↔ valuesOf (key x) ms ≠ [] := by
  simp [among, valuesOf]

theorem among_nil (key : Setting → String) : among key [] = ∅ := by
  simp [among]

theorem among_cons (key : Setting → String) (m : String × Value) (ms : List (String × Value)) :
    among key (m :: ms) = among key ms ∪ under key m.1 := by
  ext x
  simp [among, or_comm]

end Setting

/-- A record that settings are read into. `put S` sets those of `S`. A setting is found under its
key; no field has to be there, and settings under other names than those of fields stand for
nothing. -/
structure Assembles (s : Shape ρ) (key : Setting → String)
    (put : Finset Setting → ρ → ρ) : Prop where
  optional : ∀ f ∈ s.fields, f.need ≠ .required
  nothing : ∀ r, put ∅ r = r
  both : ∀ S T r, put S (put T r) = put (S ∪ T) r
  own : ∀ S T, (∀ x, key x ∈ s.fields.map (·.name) → (x ∈ S ↔ x ∈ T)) → ∀ r, put S r = put T r

namespace Assembles

variable {s : Shape ρ} {key : Setting → String} {put : Finset Setting → ρ → ρ}
  {ms : List (String × Value)}

theorem strange (h : Assembles s key put) {name : String} (unknown : name ∉ s.fields.map (·.name))
    (r : ρ) :
    put (Setting.under key name) r = r := by
  have none : ∀ x, key x ∈ s.fields.map (·.name) →
      (x ∈ Setting.under key name ↔ x ∈ (∅ : Finset Setting)) := by
    intro x known
    have other : key x ≠ name := fun same => unknown (same ▸ known)
    simp [other]
  rw [h.own _ _ none, h.nothing]

/-- Where every value puts the settings found under its name, all members put those found under
theirs. -/
theorem gather_eq (h : Assembles s key put) {seen : List String} {r r' : ρ}
    (gathered : s.gather (fun name r _ => some (put (Setting.under key name) r)) seen r ms =
      some r') :
    r' = put (Setting.among key ms) r := by
  -- What the members before have put is in `r` already; puts add up, so their order is lost.
  induction ms generalizing seen r with
  | nil =>
    rw [Setting.among_nil, h.nothing]
    rw [Shape.gather] at gathered
    split at gathered
    · exact (Option.some.inj gathered).symm
    · cases gathered
  | cons m ms ih =>
    obtain ⟨name, v⟩ := m
    rw [Setting.among_cons, ← h.both]
    rw [Shape.gather] at gathered
    split at gathered
    · split at gathered
      · cases gathered
      · exact ih gathered
    · next unknown =>
      rw [h.strange (by simpa using unknown)]
      exact ih gathered

/-- An object with no field repeated puts the settings found under its names. -/
theorem gives (h : Assembles s key put)
    (reads : ∀ f ∈ s.fields, ∀ v ∈ valuesOf f.name ms, ∀ r,
      (f.update r).Gives v (some (put (Setting.under key f.name) r)))
    (once : ∀ f ∈ s.fields, (valuesOf f.name ms).length ≤ 1) :
    s.reader.Gives (.object ms) (some (put (Setting.among key ms) s.blank)) := by
  let meaning (name : String) (r : ρ) (_ : Value) : Option ρ :=
    some (put (Setting.under key name) r)
  have gives : s.reader.Gives (.object ms) (s.gather meaning [] s.blank ms) :=
    Shape.reader_gives_members fun f hf v hv => reads f hf v (mem_valuesOf.2 hv)
  have fits : ∀ f ∈ s.fields, Shape.Fits f.need (f.name ∈ []) (fun _ => true)
      (valuesOf f.name ms) := by
    intro f hf
    match values : valuesOf f.name ms with
    | [] => exact fun required => absurd required (h.optional f hf)
    | [v] => exact ⟨by simp, rfl⟩
    | v :: w :: vs =>
      have := once f hf
      simp [values] at this
  have comes : (s.gather meaning [] s.blank ms).isSome :=
    (@Shape.isSome_gather _ s meaning (fun _ _ => true) (fun _ _ _ => rfl) ms [] s.blank).2 fits
  obtain ⟨r, gathered⟩ := Option.isSome_iff_exists.1 comes
  rw [gathered, h.gather_eq gathered] at gives
  exact gives

end Assembles

/-! ### How settings stand in a document -/

namespace Setting

/-- The name of a setting in the object it stands in. -/
def name : Setting → String
  | .host => "host"
  | .port => "port"
  | .vhost => "vhost"
  | .exchange => "exchange"
  | .connectTimeout => "connect_timeout_secs"
  | .operationTimeout => "operation_timeout_secs"
  | .command => "command"
  | .tokenFile => "token_file"
  | .keyPrefix => "key_prefix"
  | .environment => "environment"
  | .lookupTimeout => "timeout_secs"
  | .publishMode => "publish_mode"
  | .confirmTimeout => "confirm_timeout_secs"

/-- The name of the outermost member that a setting is found in. -/
def place (x : Setting) : String :=
  x.within.getD x.name

/-- What a document says of a setting. -/
def value (c : Settings) : Setting → Value
  | .host => .text c.broker.host
  | .port => .ofNat c.broker.port.toNat
  | .vhost => .text c.broker.vhost
  | .exchange => .text c.broker.exchange
  | .connectTimeout => .ofNat c.broker.connectTimeout.toNat
  | .operationTimeout => .ofNat c.broker.operationTimeout.toNat
  | .command => .text c.secrets.command
  | .tokenFile => .text c.secrets.tokenFile
  | .keyPrefix => .text c.secrets.keyPrefix
  | .environment => c.secrets.environment.elim .null .text
  | .lookupTimeout => .ofNat c.secrets.timeout.toNat
  | .publishMode => .text c.publishMode.name
  | .confirmTimeout => .ofNat c.confirmTimeout.toNat

theorem name_injective : Function.Injective name := by
  intro x y
  cases x <;> cases y <;> simp [name]

theorem under_name (x : Setting) : under name x.name = {x} := by
  ext y
  simp [name_injective.eq_iff]

end Setting

namespace Settings

/-- Of the settings that stand in one object, an object lists those of `S` with their values in `c`.
What it has under other names is free. -/
def Lists (c : Settings) (S : Finset Setting) (part : Option String) (ms : List (String × Value)) :
    Prop :=
  ∀ x : Setting, x.within = part → valuesOf x.name ms = if x ∈ S then [x.value c] else []

/-- A part is an object that lists its settings of `S`; it may be left out where there are none. -/
def Encloses (c : Settings) (S : Finset Setting) (part : String) (ms : List (String × Value)) :
    Prop :=
  (valuesOf part ms = [] ∧ ∀ x ∈ S, x.within ≠ some part) ∨
    ∃ inner, valuesOf part ms = [.object inner] ∧ c.Lists S (some part) inner

/-- The members of a document that holds the settings of `S` as in `c` and no others. -/
structure Holds (c : Settings) (S : Finset Setting) (ms : List (String × Value)) : Prop where
  own : c.Lists S none ms
  broker : c.Encloses S "broker" ms
  secrets : c.Encloses S "secrets" ms

end Settings

/-! ### Reading the parts -/

section
variable {c : Settings} {S : Finset Setting} {ms : List (String × Value)}

theorem port_gives (n : UInt16) : (anUnsigned 16).Gives (.ofNat n.toNat) (some n.toNat) :=
  anUnsigned_gives n.toNat_lt (Nat.le_trans (Nat.le_of_lt n.toNat_lt) (by decide))

theorem seconds_gives (n : UInt64) : (anUnsigned 64).Gives (.ofNat n.toNat) (some n.toNat) :=
  anUnsigned_gives n.toNat_lt (Nat.le_sub_one_of_lt n.toNat_lt)

theorem Settings.Lists.mem {part : Option String} (h : c.Lists S part ms) {x : Setting}
    (within : x.within = part) {v : Value} (hv : v ∈ valuesOf x.name ms) :
    x ∈ S ∧ v = x.value c := by
  rw [h x within] at hv
  split at hv
  · next selected => exact ⟨selected, List.mem_singleton.1 hv⟩
  · cases hv

theorem Settings.Lists.once {part : Option String} (h : c.Lists S part ms) {x : Setting}
    (within : x.within = part) :
    (valuesOf x.name ms).length ≤ 1 := by
  rw [h x within]
  split <;> simp

/-- A record whose fields are the settings of one part is read from an object that lists them. -/
theorem Assembles.gives_listed {s : Shape ρ} {put : Finset Setting → ρ → ρ} {part : Option String}
    (h : Assembles s Setting.name put)
    (settings : ∀ f ∈ s.fields, ∃ x : Setting, x.within = part ∧ x.name = f.name ∧
      ∀ r, (f.update r).Gives (x.value c) (some (put {x} r)))
    (listed : c.Lists S part ms) : s.reader.Gives (.object ms) (some (put S s.blank)) := by
  have selected : ∀ x, x.name ∈ s.fields.map (·.name) →
      (x ∈ Setting.among Setting.name ms ↔ x ∈ S) := by
    intro x known
    obtain ⟨f, hf, named⟩ := List.mem_map.1 known
    obtain ⟨y, within, named', -⟩ := settings f hf
    obtain rfl := Setting.name_injective (named'.trans named)
    rw [Setting.mem_among, listed y within]
    simp
  rw [← h.own _ S selected]
  refine h.gives ?_ ?_
  · intro f hf v hv r
    obtain ⟨x, within, named, reads⟩ := settings f hf
    rw [← named] at hv ⊢
    rw [(listed.mem within hv).2, Setting.under_name]
    exact reads r
  · intro f hf
    obtain ⟨x, within, named, -⟩ := settings f hf
    rw [← named]
    exact listed.once within

namespace BrokerSettings

theorem assembles (b : BrokerSettings) : Assembles shape Setting.name b.onto where
  optional := by decide
  nothing := b.onto_empty
  both _ _ := b.onto_onto
  own S T same r := by
    have known : ∀ x : Setting, x.within = some "broker" →
      x.name ∈ shape.fields.map (·.name) := by decide
    exact b.onto_congr r fun x here => same x (known x here)

/-- Each field of the record is a setting of the part, and sets it. -/
theorem shape_settings (c : Settings) :
    ∀ f ∈ shape.fields, ∃ x : Setting, x.within = some "broker" ∧
    x.name = f.name ∧ ∀ r, (f.update r).Gives (x.value c) (some (c.broker.onto {x} r)) := by
  intro f hf
  simp only [shape, List.mem_cons, List.not_mem_nil, or_false] at hf
  rcases hf with rfl | rfl | rfl | rfl | rfl | rfl
  · exact ⟨.host, rfl, rfl, fun r => (aText_gives _ _).field (by simp [onto])⟩
  · exact ⟨.port, rfl, rfl, fun r => (port_gives _).field (by simp [onto])⟩
  · exact ⟨.vhost, rfl, rfl, fun r => (aText_gives _ _).field (by simp [onto])⟩
  · exact ⟨.exchange, rfl, rfl, fun r => (aText_gives _ _).field (by simp [onto])⟩
  · exact ⟨.connectTimeout, rfl, rfl, fun r => (seconds_gives _).field (by simp [onto])⟩
  · exact ⟨.operationTimeout, rfl, rfl, fun r => (seconds_gives _).field (by simp [onto])⟩

end BrokerSettings

namespace SecretSettings

theorem assembles (b : SecretSettings) : Assembles shape Setting.name b.onto where
  optional := by decide
  nothing := b.onto_empty
  both _ _ := b.onto_onto
  own S T same r := by
    have known : ∀ x : Setting, x.within = some "secrets" →
      x.name ∈ shape.fields.map (·.name) := by decide
    exact b.onto_congr r fun x here => same x (known x here)

theorem environment_gives (environment : Option String) :
    (anOption (aText "a string")).Gives (environment.elim .null .text) (some environment) := by
  cases environment with
  | none => exact anOption_null _
  | some e => exact anOption_aText_gives "a string" (.text e)

/-- Each field of the record is a setting of the part, and sets it. -/
theorem shape_settings (c : Settings) :
    ∀ f ∈ shape.fields, ∃ x : Setting, x.within = some "secrets" ∧
    x.name = f.name ∧ ∀ r, (f.update r).Gives (x.value c) (some (c.secrets.onto {x} r)) := by
  intro f hf
  simp only [shape, List.mem_cons, List.not_mem_nil, or_false] at hf
  rcases hf with rfl | rfl | rfl | rfl | rfl
  · exact ⟨.command, rfl, rfl, fun r => (aText_gives _ _).field (by simp [onto])⟩
  · exact ⟨.tokenFile, rfl, rfl, fun r => (aText_gives _ _).field (by simp [onto])⟩
  · exact ⟨.keyPrefix, rfl, rfl, fun r => (aText_gives _ _).field (by simp [onto])⟩
  · exact ⟨.environment, rfl, rfl, fun r => (environment_gives _).field (by simp [onto])⟩
  · exact ⟨.lookupTimeout, rfl, rfl, fun r => (seconds_gives _).field (by simp [onto])⟩

end SecretSettings

namespace Settings

theorem assembles (c : Settings) : Assembles shape Setting.place c.onto where
  optional := by decide
  nothing := c.onto_empty
  both _ _ := c.onto_onto
  own S T same r := by
    have known : ∀ x : Setting, x.place ∈ shape.fields.map (·.name) := by decide
    have all : S = T := Finset.ext fun x => same x (known x)
    rw [all]

theorem mode_gives (m : PublishMode) :
    (aVariant PublishMode.named).Gives (.text m.name) (some m) := by
  cases m <;> exact aVariant_gives (by decide)

/-- A part that is there is read to what it lists over its defaults. -/
theorem Encloses.gives {s : Shape ρ} {part : String} {put : Finset Setting → ρ → ρ}
    (h : c.Encloses S part ms)
    (listed : ∀ {inner}, c.Lists S (some part) inner →
      s.reader.Gives (.object inner) (some (put S s.blank))) :
    ∀ v ∈ valuesOf part ms, s.reader.Gives v (some (put S s.blank)) := by
  intro v hv
  rcases h with ⟨none, -⟩ | ⟨inner, one, lists⟩
  · rw [none] at hv
    cases hv
  · rw [one] at hv
    obtain rfl := List.mem_singleton.1 hv
    exact listed lists

theorem Encloses.once {part : String} (h : c.Encloses S part ms) :
    (valuesOf part ms).length ≤ 1 := by
  rcases h with ⟨none, -⟩ | ⟨inner, one, -⟩
  · simp [none]
  · simp [one]

theorem Encloses.found {part : String} (h : c.Encloses S part ms) {x : Setting}
    (within : x.within = some part) (selected : x ∈ S) : valuesOf part ms ≠ [] := by
  rcases h with ⟨-, others⟩ | ⟨inner, one, -⟩
  · exact absurd within (others x selected)
  · simp [one]

/-- Every setting of `S` is found in the document, on its own or in its part. -/
theorem Holds.found (h : c.Holds S ms) {x : Setting} (selected : x ∈ S) :
    valuesOf x.place ms ≠ [] := by
  have parts : x.within = none ∨ x.within = some "broker" ∨ x.within = some "secrets" := by
    cases x <;> decide
  rw [Setting.place]
  rcases parts with own | broker | secrets
  · rw [own, Option.getD_none, h.own x own, if_pos selected]
    simp
  · rw [broker]
    exact h.broker.found broker selected
  · rw [secrets]
    exact h.secrets.found secrets selected

/-- The settings found under the name of a field are the part of the record that the field sets. -/
theorem onto_places (t r : Settings) :
    t.onto (Setting.under Setting.place "broker") r = { r with broker := t.broker } ∧
    t.onto (Setting.under Setting.place "secrets") r = { r with secrets := t.secrets } ∧
    t.onto (Setting.under Setting.place "publish_mode") r =
      { r with publishMode := t.publishMode } ∧
    t.onto (Setting.under Setting.place "confirm_timeout_secs") r =
      { r with confirmTimeout := t.confirmTimeout } := by
  simp [onto, BrokerSettings.onto, SecretSettings.onto, Setting.place, Setting.within, Setting.name]

/-- What the reader makes of the members of a document. -/
theorem Holds.gives (h : c.Holds S ms) : shape.reader.Gives (.object ms) (some (c.onto S {})) := by
  have broker : ∀ v ∈ valuesOf "broker" ms,
      BrokerSettings.shape.reader.Gives v (some (c.onto S {}).broker) :=
    h.broker.gives (c.broker.assembles.gives_listed (BrokerSettings.shape_settings c))
  have secrets : ∀ v ∈ valuesOf "secrets" ms,
      SecretSettings.shape.reader.Gives v (some (c.onto S {}).secrets) :=
    h.secrets.gives (c.secrets.assembles.gives_listed (SecretSettings.shape_settings c))
  have mode : ∀ v ∈ valuesOf "publish_mode" ms,
      (aVariant PublishMode.named).Gives v (some (c.onto S {}).publishMode) := by
    intro v hv
    obtain ⟨selected, rfl⟩ := h.own.mem (x := .publishMode) rfl hv
    rw [onto, if_pos selected]
    exact mode_gives _
  have limit : ∀ v ∈ valuesOf "confirm_timeout_secs" ms,
      (anUnsigned 64).Gives v (some (c.onto S {}).confirmTimeout.toNat) := by
    intro v hv
    obtain ⟨selected, rfl⟩ := h.own.mem (x := .confirmTimeout) rfl hv
    rw [onto, if_pos selected]
    exact seconds_gives _
  have whole : (c.onto S {}).onto (Setting.among Setting.place ms) {} = c.onto S {} := by
    rw [onto_inter, Finset.inter_eq_right.2]
    exact fun x selected => Setting.mem_among.2 (h.found selected)
  rw [← whole]
  -- Every field now sets its part of one record, whichever settings that has been made of.
  generalize c.onto S {} = t at broker secrets mode limit ⊢
  refine t.assembles.gives ?_ ?_
  · intro f hf v hv r
    simp only [shape, List.mem_cons, List.not_mem_nil, or_false] at hf
    obtain ⟨inBroker, inSecrets, isMode, isLimit⟩ := onto_places t r
    rcases hf with rfl | rfl | rfl | rfl
    · exact (broker v hv).field inBroker.symm
    · exact (secrets v hv).field inSecrets.symm
    · exact (mode v hv).field isMode.symm
    · exact (limit v hv).field (by rw [UInt64.ofNat_toNat]; exact isLimit.symm)
  · intro f hf
    simp only [shape, List.mem_cons, List.not_mem_nil, or_false] at hf
    rcases hf with rfl | rfl | rfl | rfl
    · exact h.broker.once
    · exact h.secrets.once
    · exact h.own.once (x := .publishMode) rfl
    · exact h.own.once (x := .confirmTimeout) rfl

/-! ### Written settings -/

theorem broker_written (c : Settings) :
    ∃ inner, c.Lists .univ (some "broker") inner ∧
    Written (.object inner) (Utf8.bytes c.broker.toJson) := by
  have written := object_written [
    ("host", .text c.broker.host, quoted c.broker.host),
    ("port", .ofNat c.broker.port.toNat, toString c.broker.port.toNat),
    ("vhost", .text c.broker.vhost, quoted c.broker.vhost),
    ("exchange", .text c.broker.exchange, quoted c.broker.exchange),
    ("connect_timeout_secs", .ofNat c.broker.connectTimeout.toNat,
      toString c.broker.connectTimeout.toNat),
    ("operation_timeout_secs", .ofNat c.broker.operationTimeout.toNat,
        toString c.broker.operationTimeout.toNat)] (by
      simp only [List.forall_mem_cons]
      exact ⟨.text (quoted_written _), ofNat_written _, .text (quoted_written _),
        .text (quoted_written _), ofNat_written _, ofNat_written _, by simp⟩)
  refine ⟨_, ?_, written⟩
  intro x within
  rw [if_pos (Finset.mem_univ x)]
  rcases Setting.within_broker within with rfl | rfl | rfl | rfl | rfl | rfl <;> rfl

theorem environment_written (environment : Option String) :
    Written (environment.elim .null .text) (Utf8.bytes (quotedOption environment)) := by
  cases environment with
  | none => exact .null
  | some e => exact .text (quoted_written e)

theorem secrets_written (c : Settings) :
    ∃ inner, c.Lists .univ (some "secrets") inner ∧
    Written (.object inner) (Utf8.bytes c.secrets.toJson) := by
  have written := object_written [
    ("command", .text c.secrets.command, quoted c.secrets.command),
    ("token_file", .text c.secrets.tokenFile, quoted c.secrets.tokenFile),
    ("key_prefix", .text c.secrets.keyPrefix, quoted c.secrets.keyPrefix),
    ("environment", c.secrets.environment.elim .null .text, quotedOption c.secrets.environment),
    ("timeout_secs", .ofNat c.secrets.timeout.toNat, toString c.secrets.timeout.toNat)] (by
      simp only [List.forall_mem_cons]
      exact ⟨.text (quoted_written _), .text (quoted_written _), .text (quoted_written _),
        environment_written _, ofNat_written _, by simp⟩)
  refine ⟨_, ?_, written⟩
  intro x within
  rw [if_pos (Finset.mem_univ x)]
  rcases Setting.within_secrets within with rfl | rfl | rfl | rfl | rfl <;> rfl

/-- Written settings are a document that holds all of them. -/
theorem toJson_written (c : Settings) :
    ∃ ms, c.Holds .univ ms ∧ WrittenDocument (.object ms) (Utf8.bytes c.toJson) := by
  obtain ⟨broker, inBroker, brokerWritten⟩ := c.broker_written
  obtain ⟨secrets, inSecrets, secretsWritten⟩ := c.secrets_written
  have written := object_written [
    ("broker", .object broker, c.broker.toJson),
    ("secrets", .object secrets, c.secrets.toJson),
    ("publish_mode", .text c.publishMode.name, quoted c.publishMode.name),
    ("confirm_timeout_secs", .ofNat c.confirmTimeout.toNat, toString c.confirmTimeout.toNat)] (by
      simp only [List.forall_mem_cons]
      exact ⟨brokerWritten, secretsWritten, .text (quoted_written _), ofNat_written _, by simp⟩)
  have whole := WrittenDocument.intro blanks_nil written blanks_nil
  rw [List.nil_append, List.append_nil] at whole
  refine ⟨_, ⟨?_, .inr ⟨broker, rfl, inBroker⟩, .inr ⟨secrets, rfl, inSecrets⟩⟩, whole⟩
  intro x within
  rw [if_pos (Finset.mem_univ x)]
  rcases Setting.within_none within with rfl | rfl <;> rfl

/-- A document that holds some of the settings of a configuration is read as these settings over the
defaults: an environment that is not held stays the default one, even if the configuration has none,
and a part that is left out keeps all its defaults. A configuration that is written is read back. -/
theorem ofJson_selected (c : Settings) :
    (∀ (S : Finset Setting) (ms : List (String × Value)) (document : List UInt8),
      c.Holds S ms → WrittenDocument (.object ms) document →
        ofJson document = .ok (c.onto S {}) ∧
        (c.onto S {}).secrets.environment =
          (if .environment ∈ S then c.secrets.environment else some "default") ∧
        (valuesOf "broker" ms = [] → (c.onto S {}).broker = {}) ∧
        (valuesOf "secrets" ms = [] → (c.onto S {}).secrets = {})) ∧
    ofJson (Utf8.bytes c.toJson) = .ok c := by
  have reads {S : Finset Setting} {ms : List (String × Value)} {document : List UInt8}
      (holds : c.Holds S ms)
      (written : WrittenDocument (.object ms) document) : ofJson document = .ok (c.onto S {}) :=
    document_eq_ok holds.gives written
  constructor
  · intro S ms document holds written
    refine ⟨reads holds written, rfl, fun none => ?_, fun none => ?_⟩
    · have others : ∀ x : Setting, x.within = some "broker" →
          (x ∈ S ↔ x ∈ (∅ : Finset Setting)) := by
        intro x within
        have := fun selected => holds.broker.found within selected none
        simpa using this
      exact (c.broker.onto_congr {} others).trans (c.broker.onto_empty {})
    · have others : ∀ x : Setting, x.within = some "secrets" →
          (x ∈ S ↔ x ∈ (∅ : Finset Setting)) := by
        intro x within
        have := fun selected => holds.secrets.found within selected none
        simpa using this
      exact (c.secrets.onto_congr {} others).trans (c.secrets.onto_empty {})
  · obtain ⟨ms, holds, written⟩ := c.toJson_written
    rw [reads holds written, onto_univ]

/-- No environment, in a part of its own, and a member of another name. -/
theorem ofJson_selected_null :
    ofJson (Utf8.bytes "\x7b\"x\":[],\"secrets\":\x7b\"environment\":null\x7d\x7d") =
      .ok { secrets := { environment := none } } := by
  let c : Settings := { secrets := { environment := none } }
  let inner : List (String × Value) := [("environment", .null)]
  have lists : c.Lists {.environment} (some "secrets") inner := by
    intro x within
    rcases Setting.within_secrets within with rfl | rfl | rfl | rfl | rfl <;> rfl
  have own : c.Lists {.environment} none [("x", .list []), ("secrets", .object inner)] := by
    intro x within
    rcases Setting.within_none within with rfl | rfl <;> rfl
  have holds := Holds.mk own (.inl ⟨rfl, by decide⟩) (.inr ⟨inner, rfl, lists⟩)
  have secrets : Written (.object inner) (Utf8.bytes (object [("environment", "null")])) :=
    object_written [("environment", .null, "null")] (by
      simp only [List.forall_mem_cons]
      exact ⟨.null, by simp⟩)
  have written := object_written
    [("x", .list [], "[]"), ("secrets", .object inner, object [("environment", "null")])] (by
      simp only [List.forall_mem_cons]
      exact ⟨.emptyList blanks_nil, secrets, by simp⟩)
  have read := ((ofJson_selected c).1 _ _ _ holds (.intro blanks_nil written blanks_nil)).1
  exact (congrArg ofJson (by decide)).trans (read.trans rfl)

end Settings
end

end KeyRelay
