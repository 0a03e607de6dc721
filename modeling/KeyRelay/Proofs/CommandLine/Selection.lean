import KeyRelay.Proofs.CommandLine.Parse

/-!
Settings given by options. Each setting of a selection is given on the line or by its environment
variable; what comes out is the selection over the defaults, and every configuration with a token
file can be put on a line. An environment is given by one option and none at all by another, so the
two are told apart here.
-/

namespace KeyRelay

open CommandLine

/-- The settings with this environment instead of theirs. -/
def Settings.naming (c : Settings) (environment : String) : Settings :=
  { c with secrets := { c.secrets with environment := some environment } }

namespace CommandLine

/-- A line and an environment that give each setting of `S` its value in `c`, and no other setting
any. For none the environment may be named all the same, if the flag against it is up. -/
structure Supplies (c : Settings) (S : Finset Setting) (line : List (Opt × String))
    (env : List (String × String)) :
    Prop where
  once : (line.map (·.1)).Nodup
  known : ∀ i ∈ line, i.1 = .noEnvironment ∨ ∃ x : Setting, x.option = i.1
  settings : ∀ x ∈ S, x ≠ .environment → ∃ v, x.option.given? line env = some v ∧ x.Wording c v
  named : .environment ∈ S → ∀ e, c.secrets.environment = some e →
    Opt.environment.given? line env = some e
  unnamed : Opt.noEnvironment.given? line env =
    if .environment ∈ S ∧ c.secrets.environment = none then some "true" else none
  others : ∀ x ∉ S, x.option.given? line env = none

theorem option_or (o : Opt) :
    o = .noEnvironment ∨ (∃ x : Setting, x.option = o) ∨ o.variableName? = none := by
  cases o <;> decide

theorem wording_naming {c : Settings} {x : Setting} (h : x ≠ .environment) {v : String}
    (words : x.Wording c v) (e : String) : x.Wording (c.naming e) v := by
  cases x with
  | environment => exact absurd rfl h
  | _ => exact words

section
variable {c : Settings} {S : Finset Setting} {line : List (Opt × String)}
  {env : List (String × String)}

/-- The settings whose options were given are those of the selection, the environment aside. -/
theorem Supplies.given_iff (h : Supplies c S line env) {x : Setting} (other : x ≠ .environment) :
    (x.option.given? line env).isSome ↔ x ∈ S := by
  constructor
  · intro some
    by_contra out
    rw [h.others x out] at some
    cases some
  · intro selected
    obtain ⟨v, given, -⟩ := h.settings x selected other
    rw [given]
    rfl

theorem Supplies.suits (h : Supplies c S line env) {o : Opt} {v : String}
    (given : o.given? line env = some v) :
    Suits (c.naming ((Opt.environment.given? line env).getD "")) o v := by
  have option : o = .noEnvironment ∨ ∃ x : Setting, x.option = o := by
    rcases option_or o with flag | setting | unnamed
    · exact .inl flag
    · exact .inr setting
    · by_cases there : o ∈ line.map (·.1)
      · obtain ⟨i, hi, rfl⟩ := List.mem_map.1 there
        exact h.known i hi
      · rw [given?_of_notMem there, Opt.inherited?, unnamed] at given
        cases given
  rcases option with rfl | ⟨x, rfl⟩
  · have up := given
    rw [h.unnamed] at up
    split at up
    · cases up
      exact .noEnvironment
    · cases up
  · by_cases same : x = .environment
    · subst same
      refine .setting (show some _ = some v from ?_)
      rw [show Opt.environment.given? line env = some v from given]
      rfl
    · obtain ⟨v', given', words⟩ := h.settings x ((h.given_iff same).1 (by rw [given]; rfl)) same
      obtain rfl := Option.some.inj (given'.symm.trans given)
      exact .setting (wording_naming same words _)

/-- What is supplied is chosen: the environment by its name, or none by the flag. -/
theorem Supplies.toSettings_after (h : Supplies c S line env) {given : List Opt}
    (all : ∀ o, o ∈ given ↔ (o.given? line env).isSome) :
    (Choices.after (c.naming ((Opt.environment.given? line env).getD "")) given).toSettings =
      c.onto S {} := by
  have same : ∀ x : Setting, x ≠ .environment → (x ∈ chosen given ↔ x ∈ S) := by
    intro x other
    rw [mem_chosen, all, h.given_iff other]
  -- With the flag up the environment is dropped, whether one was named or not; else it counts like
  -- any setting.
  by_cases without : .environment ∈ S ∧ c.secrets.environment = none
  · have up : .noEnvironment ∈ given := by
      rw [all, h.unnamed, if_pos without]
      rfl
    have selected : insert .environment (chosen given) = S := by
      ext x
      by_cases environment : x = .environment
      · simp [environment, without.1]
      · simp [environment, ← same x environment]
    rw [← selected, Choices.toSettings, Choices.after]
    simp [up, Settings.onto, BrokerSettings.onto, SecretSettings.onto, Settings.naming, without.2]
  · have down : .noEnvironment ∉ given := by
      rw [all, h.unnamed, if_neg without]
      simp
    have named : .environment ∈ S →
        c.secrets.environment = some ((Opt.environment.given? line env).getD "") ∧
        .environment ∈ given := by
      intro selected
      obtain ⟨e, environment⟩ := Option.ne_none_iff_exists'.1 fun none => without ⟨selected, none⟩
      rw [all, h.named selected e environment]
      exact ⟨environment, rfl⟩
    have selected : chosen given = S := by
      ext x
      by_cases environment : x = .environment
      · subst environment
        refine ⟨fun member => ?_, fun selected => mem_chosen.2 (named selected).2⟩
        by_contra out
        rw [mem_chosen, all, h.others .environment out] at member
        cases member
      · exact same x environment
    rw [Choices.toSettings, Choices.after, selected]
    by_cases environment : .environment ∈ S
    · simp [down, Settings.naming, ← (named environment).1]
    · simp [down, Settings.onto, BrokerSettings.onto, SecretSettings.onto, Settings.naming,
        environment]

end

/-! ### A line for every configuration -/

/-- The text of a setting; for no environment there is none. -/
def text (c : Settings) : Setting → String
  | .host => c.broker.host
  | .port => toString c.broker.port.toNat
  | .vhost => c.broker.vhost
  | .exchange => c.broker.exchange
  | .connectTimeout => toString c.broker.connectTimeout.toNat
  | .operationTimeout => toString c.broker.operationTimeout.toNat
  | .command => c.secrets.command
  | .tokenFile => c.secrets.tokenFile
  | .keyPrefix => c.secrets.keyPrefix
  | .environment => c.secrets.environment.getD ""
  | .lookupTimeout => toString c.secrets.timeout.toNat
  | .publishMode => c.publishMode.name
  | .confirmTimeout => toString c.confirmTimeout.toNat

/-- The strings of a configuration. -/
def strings (c : Settings) : List String :=
  [c.broker.host, c.broker.vhost, c.broker.exchange, c.secrets.command, c.secrets.tokenFile,
    c.secrets.keyPrefix] ++ c.secrets.environment.toList

/-- Every setting that has a text in any configuration. -/
def texted : List Setting :=
  [.host, .port, .vhost, .exchange, .connectTimeout, .operationTimeout, .command, .tokenFile,
    .keyPrefix, .lookupTimeout, .publishMode, .confirmTimeout]

/-- The environment by its name, or the flag against one. -/
def environmentItem (c : Settings) : Opt × String :=
  match c.secrets.environment with
  | some e => (.environment, e)
  | none => (.noEnvironment, "true")

/-- A line of all settings. -/
def spelled (c : Settings) : List (Opt × String) :=
  texted.map (fun x => (x.option, text c x)) ++ [environmentItem c]

theorem text_wording (c : Settings) {x : Setting} (h : x ≠ .environment) :
    x.Wording c (text c x) := by
  cases x with
  | environment => exact absurd rfl h
  | port | connectTimeout | operationTimeout | lookupTimeout | confirmTimeout =>
    exact denotes_toString _
  | _ => exact rfl

theorem mem_texted {x : Setting} (h : x ≠ .environment) : x ∈ texted := by
  revert x
  decide

theorem mem_spelled (c : Settings) {x : Setting} (h : x ≠ .environment) :
    (x.option, text c x) ∈ spelled c :=
  List.mem_append_left _ (List.mem_map.2 ⟨x, mem_texted h, rfl⟩)

theorem environmentItem_mem (c : Settings) : environmentItem c ∈ spelled c :=
  List.mem_append_right _ (List.mem_singleton.2 rfl)

theorem spelled_options (c : Settings) :
    (spelled c).map (·.1) = texted.map Setting.option ++ [(environmentItem c).1] := by
  simp [spelled, Function.comp_def]

theorem spelled_once (c : Settings) : ((spelled c).map (·.1)).Nodup := by
  have each : (texted.map Setting.option ++ [Opt.environment]).Nodup ∧
      (texted.map Setting.option ++ [Opt.noEnvironment]).Nodup := by decide
  rw [spelled_options, environmentItem]
  cases c.secrets.environment with
  | some e => exact each.1
  | none => exact each.2

/-- The line gives every setting its value, and so supplies the whole configuration. -/
theorem spelled_supplies (c : Settings) : Supplies c .univ (spelled c) [] where
  once := spelled_once c
  known i hi := by
    rcases List.mem_append.1 hi with texted | last
    · obtain ⟨x, -, rfl⟩ := List.mem_map.1 texted
      exact .inr ⟨x, rfl⟩
    · rw [List.mem_singleton.1 last, environmentItem]
      cases c.secrets.environment with
      | some e => exact .inr ⟨.environment, rfl⟩
      | none => exact .inl rfl
  settings x _ other :=
    ⟨text c x, given?_of_mem (spelled_once c) (mem_spelled c other) [], text_wording c other⟩
  named _ e environment := by
    have given := given?_of_mem (spelled_once c) (environmentItem_mem c) []
    rwa [environmentItem, environment] at given
  unnamed := by
    cases environment : c.secrets.environment with
    | some e =>
      have absent : .noEnvironment ∉ (spelled c).map (·.1) := by
        rw [spelled_options, environmentItem, environment]
        exact (by decide : Opt.noEnvironment ∉ texted.map Setting.option ++ [Opt.environment])
      rw [given?_of_notMem absent]
      rfl
    | none =>
      have given := given?_of_mem (spelled_once c) (environmentItem_mem c) []
      rw [environmentItem, environment] at given
      simpa using given
  others x out := absurd (Finset.mem_univ x) out

theorem text_noNul {c : Settings} (plain : ∀ s ∈ strings c, '\x00' ∉ s.toList) (x : Setting) :
    '\x00' ∉ (text c x).toList := by
  have number (n : Nat) : '\x00' ∉ (toString n).toList := by
    intro h
    exact absurd (Digits.isDigit_of_mem_toString h) (by decide)
  cases x with
  | port | connectTimeout | operationTimeout | lookupTimeout | confirmTimeout => exact number _
  | publishMode =>
    show '\x00' ∉ c.publishMode.name.toList
    cases c.publishMode <;> decide
  | environment =>
    show '\x00' ∉ (c.secrets.environment.getD "").toList
    cases environment : c.secrets.environment with
    | none => decide
    | some e => exact plain e (by simp [strings, environment])
  | _ => exact plain _ (by simp [strings, text])

theorem argument_noNul {o : Opt} {v : String} (plain : '\x00' ∉ v.toList) :
    '\x00' ∉ (o.argument v).toList := by
  have name : '\x00' ∉ o.name.toList := by cases o <;> decide
  rw [Opt.argument]
  split <;> simp [name, plain]

end CommandLine
end KeyRelay
