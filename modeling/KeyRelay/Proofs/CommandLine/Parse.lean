import KeyRelay.CommandLine.Parse
import KeyRelay.Proofs.CommandLine.Number
import KeyRelay.Proofs.Settings.Selection
import Mathlib.Data.List.TakeWhile

/-!
What a command line and its environment come to. Options are given their values one after the other,
those on the line first. `Choices.after` says what they have come to then by the options alone, so
neither their order nor where a value came from is left in it: a step adds an option (`give_after`),
and the line, the variables and the whole follow.
-/

namespace KeyRelay

open CommandLine

/-! ### Options and settings -/

/-- The option that sets a setting. -/
def Setting.option : Setting → Opt
  | .host => .brokerHost
  | .port => .brokerPort
  | .vhost => .vhost
  | .exchange => .exchange
  | .connectTimeout => .connectTimeout
  | .operationTimeout => .operationTimeout
  | .command => .lookupCommand
  | .tokenFile => .tokenFile
  | .keyPrefix => .keyPrefix
  | .environment => .environment
  | .lookupTimeout => .lookupTimeout
  | .publishMode => .publishMode
  | .confirmTimeout => .confirmTimeout

theorem Setting.option_injective : Function.Injective option := by
  intro x y
  revert x y
  decide

theorem Setting.option_ne_noEnvironment (x : Setting) : x.option ≠ .noEnvironment := by
  revert x
  decide

theorem Setting.isFlag_option (x : Setting) : x.option.isFlag = false := by
  revert x
  decide

/-- The texts that give a setting its value in `c`. None gives no environment. -/
def Setting.Wording (c : Settings) (v : String) : Setting → Prop
  | .host => v = c.broker.host
  | .port => Denotes c.broker.port.toNat v
  | .vhost => v = c.broker.vhost
  | .exchange => v = c.broker.exchange
  | .connectTimeout => Denotes c.broker.connectTimeout.toNat v
  | .operationTimeout => Denotes c.broker.operationTimeout.toNat v
  | .command => v = c.secrets.command
  | .tokenFile => v = c.secrets.tokenFile
  | .keyPrefix => v = c.secrets.keyPrefix
  | .environment => c.secrets.environment = some v
  | .lookupTimeout => Denotes c.secrets.timeout.toNat v
  | .publishMode => v = c.publishMode.name
  | .confirmTimeout => Denotes c.confirmTimeout.toNat v

namespace CommandLine

theorem seconds_eq_ok {n : UInt64} {v : String} (h : Denotes n.toNat v) (o : Opt) :
    seconds o v = .ok n := by
  rw [seconds, h.readUnsigned_eq n.toNat_lt]
  simp

theorem readPort_eq_ok {n : UInt16} {v : String} (h : Denotes n.toNat v) :
    readUpTo 65535 v = .ok n.toNat := by
  have small := n.toNat_lt
  exact h.readUpTo_eq (by omega) (Nat.le_trans (Nat.le_of_lt small) (by decide))

theorem oneOf_mode (m : PublishMode) (o : Opt) : oneOf o PublishMode.named m.name = .ok m := by
  cases m <;> rfl

/-- An option sets its own setting and nothing else. -/
theorem set_wording {c : Settings} (token : c.secrets.tokenFile ≠ "") {x : Setting} {v : String}
    (h : x.Wording c v) (choices : Choices) :
    x.option.set v choices = .ok { choices with settings := c.onto {x} choices.settings } := by
  cases x with
  | host | vhost | exchange | command | keyPrefix =>
    obtain rfl : v = _ := h
    simp [Setting.option, Opt.set, Choices.updateBroker, Choices.updateSecrets, Settings.onto,
      BrokerSettings.onto, SecretSettings.onto]
  | tokenFile =>
    obtain rfl : v = _ := h
    simp [Setting.option, Opt.set, token, Choices.updateSecrets, Settings.onto, BrokerSettings.onto,
      SecretSettings.onto]
  | port =>
    simp [Setting.option, Opt.set, readPort_eq_ok h, Choices.updateBroker, Settings.onto,
      BrokerSettings.onto, SecretSettings.onto]
  | environment =>
    have named : c.secrets.environment = some v := h
    simp [Setting.option, Opt.set, named, Choices.updateSecrets, Settings.onto, BrokerSettings.onto,
      SecretSettings.onto]
  | connectTimeout | operationTimeout | lookupTimeout | confirmTimeout =>
    simp [Setting.option, Opt.set, seconds_eq_ok h, Except.map, Choices.updateBroker,
      Choices.updateSecrets, Settings.onto, BrokerSettings.onto, SecretSettings.onto]
  | publishMode =>
    obtain rfl : v = _ := h
    simp [Setting.option, Opt.set, oneOf_mode, Except.map, Settings.onto, BrokerSettings.onto,
      SecretSettings.onto]

/-! ### One option after the other -/

/-- The settings whose options were given. -/
def chosen (given : List Opt) : Finset Setting :=
  Finset.univ.filter fun x => x.option ∈ given

@[simp] theorem mem_chosen {given : List Opt} {x : Setting} :
    x ∈ chosen given ↔ x.option ∈ given := by
  simp [chosen]

/-- A value that an option takes as the setting it sets has it in `c`; the flag against an
environment is up. -/
inductive Suits (c : Settings) : Opt → String → Prop where
  | setting {x : Setting} {v : String} (worded : x.Wording c v) : Suits c x.option v
  | noEnvironment : Suits c .noEnvironment "true"

theorem Suits.eq_true {c : Settings} {o : Opt} {v : String} (h : Suits c o v)
    (flag : o.isFlag = true) :
    v = "true" := by
  cases h with
  | @setting x => exact absurd flag (by simp [x.isFlag_option])
  | noEnvironment => rfl

/-- What is chosen once these options were given their values in `c`. -/
def Choices.after (c : Settings) (given : List Opt) : Choices where
  settings := c.onto (chosen given) {}
  noEnvironment := decide (.noEnvironment ∈ given)

section
variable {c : Settings} (token : c.secrets.tokenFile ≠ "") {o : Opt} {v : String}
include token

theorem set_after (h : Suits c o v) (given : List Opt) :
    o.set v (.after c given) = .ok (.after c (o :: given)) := by
  cases h with
  | @setting x _ worded =>
    have more : chosen (x.option :: given) = {x} ∪ chosen given := by
      ext y
      simp [Setting.option_injective.eq_iff]
    rw [set_wording token worded, Choices.after, Choices.after, Settings.onto_onto, ← more]
    simp [x.option_ne_noEnvironment.symm]
  | noEnvironment =>
    have same : chosen (.noEnvironment :: given) = chosen given := by
      ext y
      simp [y.option_ne_noEnvironment]
    rw [Choices.after, Choices.after, same]
    simp [Opt.set, oneOf, switch, Except.map]

/-- The progress when these options were given their values in `c`, and nothing waits. -/
def Progress.after (c : Settings) (given : List Opt) : Progress where
  choices := .after c given
  given := given

theorem give_after (h : Suits c o v) {given : List Opt} (new : o ∉ given) :
    (Progress.after c given).give o v = .ok (.after c (o :: given)) := by
  have set := set_after token h given
  rw [Progress.give, if_neg (show o ∉ (Progress.after c given).given from new),
    show (Progress.after c given).choices = .after c given from rfl, set]
  rfl

end

/-! ### The line -/

/-- An option with its value as one argument; a flag stands for itself. -/
def Opt.argument (o : Opt) (v : String) : String :=
  if o.isFlag then "--" ++ o.name else "--" ++ o.name ++ "=" ++ v

theorem ofName?_name (o : Opt) : Opt.ofName? o.name = some o := by
  cases o <;> decide

theorem name_ne_nil (o : Opt) : o.name.toList ≠ [] := by
  cases o <;> decide

theorem name_ne_equality (o : Opt) : ∀ c ∈ o.name.toList, decide (c ≠ '=') = true := by
  rw [← List.all_eq_true]
  cases o <;> rfl

theorem argument_bare {p : Progress} (going : p.ended = false) {arg : String} {cs : List Char}
    (some' : cs ≠ []) (plain : ∀ c ∈ cs, decide (c ≠ '=') = true)
    (text : arg.toList = '-' :: '-' :: cs) :
    p.argument arg = p.long (String.ofList cs) none := by
  obtain ⟨c, cs, rfl⟩ := List.exists_cons_of_ne_nil some'
  rw [Progress.argument, going, text]
  simp only [Bool.false_eq_true, if_false, List.dropWhile_eq_nil_iff.2 plain,
    List.takeWhile_eq_self_iff.2 plain]

theorem argument_valued {p : Progress} (going : p.ended = false) {arg : String}
    {cs value : List Char} (some' : cs ≠ []) (plain : ∀ c ∈ cs, decide (c ≠ '=') = true)
    (text : arg.toList = '-' :: '-' :: (cs ++ '=' :: value)) :
    p.argument arg = p.long (String.ofList cs) (some (String.ofList value)) := by
  have name : (cs ++ '=' :: value).takeWhile (fun c => decide (c ≠ '=')) = cs := by
    rw [List.takeWhile_append_of_pos plain]
    simp
  have rest : (cs ++ '=' :: value).dropWhile (fun c => decide (c ≠ '=')) = '=' :: value := by
    rw [List.dropWhile_append_of_pos plain]
    simp
  obtain ⟨c, cs, rfl⟩ := List.exists_cons_of_ne_nil some'
  rw [List.cons_append] at name rest text
  rw [Progress.argument, going, text]
  simp only [Bool.false_eq_true, if_false, rest, name]

/-- Where nothing waits, an argument gives its option the value. -/
theorem argument_eq_give {p : Progress} (going : p.ended = false) (idle : p.pending = none)
    {o : Opt} {v : String} (flag : o.isFlag = true → v = "true") :
    p.argument (o.argument v) = p.give o v := by
  have settled : p.settle = .ok p := by rw [Progress.settle, idle]
  cases flagged : o.isFlag with
  | true =>
    have text : (o.argument v).toList = '-' :: '-' :: o.name.toList := by
      simp [Opt.argument, flagged]
    rw [argument_bare going (name_ne_nil o) (name_ne_equality o) text, String.ofList_toList]
    simp only [Progress.long, ofName?_name, flagged, if_true, Progress.flag, settled, flag flagged]
  | false =>
    have text : (o.argument v).toList = '-' :: '-' :: (o.name.toList ++ '=' :: v.toList) := by
      simp [Opt.argument, flagged]
    rw [argument_valued going (name_ne_nil o) (name_ne_equality o) text, String.ofList_toList,
      String.ofList_toList]
    simp only [Progress.long, ofName?_name, flagged, Bool.false_eq_true, if_false,
      Progress.attached, settled]

section
variable {c : Settings} (token : c.secrets.tokenFile ≠ "")
include token

/-- Arguments with unlike options give each its value. -/
theorem arguments_after {line : List (Opt × String)} (suits : ∀ i ∈ line, Suits c i.1 i.2)
    (once : (line.map (·.1)).Nodup) {given : List Opt} (new : ∀ i ∈ line, i.1 ∉ given) :
    (Progress.after c given).arguments (line.map fun i => i.1.argument i.2) =
      .ok (.after c ((line.map (·.1)).reverse ++ given)) := by
  -- On the line, from whatever was given before it: each argument adds its option, and later ones
  -- are still unlike.
  induction line generalizing given with
  | nil => rfl
  | cons i line ih =>
    obtain ⟨o, v⟩ := i
    have first : Suits c o v := suits (o, v) (by simp)
    have read : (Progress.after c given).argument (o.argument v) = .ok (.after c (o :: given)) := by
      rw [argument_eq_give rfl rfl first.eq_true]
      exact give_after token first (new (o, v) (by simp))
    rw [List.map_cons, List.nodup_cons] at once
    have later : ∀ i ∈ line, i.1 ∉ o :: given := by
      intro i hi old
      rcases List.mem_cons.1 old with same | old
      · exact once.1 (List.mem_map.2 ⟨i, hi, same⟩)
      · exact new i (by simp [hi]) old
    rw [List.map_cons, Progress.arguments, read]
    have rest := ih (fun i hi => suits i (by simp [hi])) once.2 later
    simpa using rest

end

/-! ### The variables -/

/-- The names of the environment variables, written out. -/
def Opt.variableName? : Opt → Option String
  | .brokerHost => some "KVWATCH_BROKER_HOST"
  | .brokerPort => some "KVWATCH_BROKER_PORT"
  | .vhost => some "KVWATCH_VHOST"
  | .exchange => some "KVWATCH_EXCHANGE"
  | .lookupCommand => some "KVWATCH_LOOKUP_COMMAND"
  | .tokenFile => some "KVWATCH_TOKEN_FILE"
  | .keyPrefix => some "KVWATCH_KEY_PREFIX"
  | .environment => some "KVWATCH_ENVIRONMENT"
  | .noEnvironment => some "KVWATCH_NO_ENVIRONMENT"
  | .publishMode => some "KVWATCH_PUBLISH_MODE"
  | .connectTimeout => some "KVWATCH_CONNECT_TIMEOUT_SECS"
  | .operationTimeout => some "KVWATCH_OPERATION_TIMEOUT_SECS"
  | .lookupTimeout => some "KVWATCH_LOOKUP_TIMEOUT_SECS"
  | .confirmTimeout => some "KVWATCH_CONFIRM_TIMEOUT_SECS"
  | .verbose | .help => none

theorem environmentName?_eq (o : Opt) : o.environmentName? = o.variableName? := by
  have capitals : o.capitals.toList = o.name.toList.map fun c =>
    if c = '-' then '_' else c.toUpper := by
    rw [Opt.capitals, String.toList_map]
  cases o with
  | verbose | help => rfl
  | _ =>
    refine congrArg some (String.toList_inj.1 ?_)
    rw [String.toList_append, capitals]
    decide
/-- What the environment variable of an option holds. -/
def Opt.inherited? (o : Opt) (env : List (String × String)) : Option String :=
  o.variableName?.bind fun name => (env.find? fun e => e.1 = name).map (·.2)

section
variable {c : Settings} (token : c.secrets.tokenFile ≠ "") {env : List (String × String)}

theorem inherit_eq (p : Progress) (o : Opt) :
    p.inherit env o =
      if o ∈ p.given then .ok p
      else
        match o.inherited? env with
        | none => .ok p
        | some v => p.give o v := by
  rw [Progress.inherit, Opt.inherited?, environmentName?_eq]
  cases o.variableName? with
  | none => rfl
  | some name =>
    cases found : env.find? fun e => e.1 = name with
    | none => simp [found]
    | some e => simp [found]

include token

/-- The variable of an option counts where the option was not given. -/
theorem inherit_step {o : Opt} {given : List Opt}
    (suits : o ∉ given → ∀ v, o.inherited? env = some v → Suits c o v) :
    ∃ more, (Progress.after c given).inherit env o = .ok (.after c more) ∧
      ∀ o', o' ∈ more ↔ o' ∈ given ∨ (o' = o ∧ (o.inherited? env).isSome) := by
  rw [inherit_eq, show (Progress.after c given).given = given from rfl]
  by_cases old : o ∈ given
  · refine ⟨given, if_pos old, fun o' => ⟨.inl, ?_⟩⟩
    rintro (given | ⟨rfl, -⟩)
    · exact given
    · exact old
  · rw [if_neg old]
    cases held : o.inherited? env with
    | none => exact ⟨given, rfl, by simp⟩
    | some v =>
      refine ⟨o :: given, give_after token (suits old v held) old, fun o' => ?_⟩
      rw [List.mem_cons, or_comm]
      simp

/-- All variables together add the options that have one. -/
theorem inherit_run {os given : List Opt}
    (suits : ∀ o ∈ os, o ∉ given → ∀ v, o.inherited? env = some v → Suits c o v) :
    ∃ more, os.foldlM (Progress.inherit env) (Progress.after c given) = .ok (.after c more) ∧
      ∀ o, o ∈ more ↔ o ∈ given ∨ (o ∈ os ∧ (o.inherited? env).isSome) := by
  induction os generalizing given with
  | nil => exact ⟨given, rfl, by simp⟩
  | cons o os ih =>
    obtain ⟨next, step, grown⟩ := inherit_step token (suits o (by simp))
    have later : ∀ o' ∈ os, o' ∉ next → ∀ v, o'.inherited? env = some v → Suits c o' v := by
      intro o' ho new
      exact suits o' (List.mem_cons_of_mem _ ho) fun old => new ((grown o').2 (.inl old))
    obtain ⟨more, run, all⟩ := ih later
    refine ⟨more, by rw [List.foldlM_cons, step]; exact run, fun o' => ?_⟩
    rw [all, grown, List.mem_cons, or_assoc, or_and_right]
    refine or_congr_right (or_congr_left ?_)
    constructor
    · rintro ⟨rfl, some⟩
      exact ⟨rfl, some⟩
    · rintro ⟨rfl, some⟩
      exact ⟨rfl, some⟩

end

/-! ### Both -/

/-- What an option is given: its value on the line, or else what its variable holds. -/
def Opt.given? (o : Opt) (line : List (Opt × String)) (env : List (String × String)) :
    Option String :=
  match line.find? fun i => i.1 = o with
  | some (_, v) => some v
  | none => o.inherited? env

theorem given?_of_mem {line : List (Opt × String)} (once : (line.map (·.1)).Nodup)
    {i : Opt × String} (h : i ∈ line) (env : List (String × String)) :
    i.1.given? line env = some i.2 := by
  have found : (line.find? fun j => j.1 = i.1) = some i := by
    induction line with
    | nil => cases h
    | cons j line ih =>
      rw [List.map_cons, List.nodup_cons] at once
      rcases List.mem_cons.1 h with rfl | later
      · simp
      · have other : j.1 ≠ i.1 := fun same => once.1 (List.mem_map.2 ⟨i, later, same.symm⟩)
        simpa [other] using ih once.2 later
  rw [Opt.given?, found]

theorem given?_of_notMem {line : List (Opt × String)} {o : Opt} (h : o ∉ line.map (·.1))
    (env : List (String × String)) : o.given? line env = o.inherited? env := by
  have absent : (line.find? fun i => i.1 = o) = none := by
    rw [List.find?_eq_none]
    intro i hi same
    exact h (List.mem_map.2 ⟨i, hi, by simpa using same⟩)
  rw [Opt.given?, absent]

theorem mem_all (o : Opt) : o ∈ Opt.all := by
  cases o <;> decide

theorem Progress.after_nil (c : Settings) : Progress.after c [] = {} := by
  have none : chosen [] = ∅ := by simp [chosen]
  rw [Progress.after, Choices.after, none, Settings.onto_empty]
  rfl

/-- A line and an environment that give options their values in `c` come to just that. -/
theorem parse_after {c : Settings} (token : c.secrets.tokenFile ≠ "") {line : List (Opt × String)}
    {env : List (String × String)} (once : (line.map (·.1)).Nodup)
    (suits : ∀ o v, o.given? line env = some v → Suits c o v) :
    ∃ given, parse env (line.map fun i => i.1.argument i.2) = .ok (.after c given) ∧
      ∀ o, o ∈ given ↔ (o.given? line env).isSome := by
  have read := arguments_after token (fun i hi => suits i.1 i.2 (given?_of_mem once hi env)) once
    (fun i _ => List.not_mem_nil)
  rw [Progress.after_nil, List.append_nil] at read
  have held : ∀ o ∈ Opt.all, o ∉ (line.map (·.1)).reverse → ∀ v, o.inherited? env = some v →
      Suits c o v := by
    intro o _ new v held
    rw [List.mem_reverse] at new
    exact suits o v ((given?_of_notMem new env).trans held)
  obtain ⟨given, inherited, all⟩ := inherit_run token held
  refine ⟨given, by rw [parse, read]; simp only [inherited]; rfl, fun o => ?_⟩
  rw [all, List.mem_reverse]
  by_cases there : o ∈ line.map (·.1)
  · obtain ⟨i, hi, rfl⟩ := List.mem_map.1 there
    simp [there, given?_of_mem once hi env]
  · rw [given?_of_notMem there]
    simp [there, mem_all]

end CommandLine
end KeyRelay
