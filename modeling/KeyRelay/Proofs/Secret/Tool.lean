import KeyRelay.Proofs.Delivery.Contact
import KeyRelay.Proofs.Secret.Credentials
import KeyRelay.Proofs.Text.Utf8

/-!
Secrets looked up by running a tool. The tool gives a secret in one way only: it ends well and
prints text with more than blanks in it. What it prints is worth as much as the same text in a
table, so a table stands in for a tool in every program that looks up no more than the table holds
(`Program.run_like_table`), in particular in deliveries.
-/

namespace KeyRelay

/-- A tool ends well with this text printed. -/
def ToolEnd.Prints (e : ToolEnd) (output : String) : Prop :=
  ∃ err, e = .exited 0 (Utf8.bytes output) err

namespace SecretSettings

theorem secretOf_printed {s : SecretSettings} {key output : String} {e : ToolEnd}
    (printed : e.Prints output) :
    s.secretOf key e = SecretTable.resolve key output := by
  obtain ⟨err, rfl⟩ := printed
  simp [secretOf, Utf8.decode_bytes, SecretTable.resolve]

/-- A tool that gives a secret has printed it. -/
theorem printed_of_secretOf {s : SecretSettings} {key secret : String} {e : ToolEnd}
    (given : s.secretOf key e = .ok secret) : ∃ output, e.Prints output := by
  cases e with
  | exited code out err =>
    simp only [secretOf] at given
    split at given
    · cases given
    · next zero =>
      split at given
      · cases given
      · next output text =>
        rw [Decidable.not_not.1 zero, Utf8.decode_eq_ok.1 text]
        exact ⟨output, err, rfl⟩
  | _ => cases given

theorem secretOf_eq_ok {s : SecretSettings} {key secret : String} {e : ToolEnd} :
    s.secretOf key e = .ok secret ↔ ∃ output, e.Prints output ∧ secret = Blank.trim output ∧
    secret ≠ "" := by
  constructor
  · intro given
    obtain ⟨output, printed⟩ := printed_of_secretOf given
    rw [secretOf_printed printed, SecretTable.resolve_eq_ok] at given
    obtain ⟨solid, rfl⟩ := given
    refine ⟨output, printed, rfl, fun empty => ?_⟩
    rw [Blank.trim_eq_empty.1 empty] at solid
    cases solid
  · rintro ⟨output, printed, rfl, filled⟩
    rw [secretOf_printed printed, SecretTable.resolve_eq_ok]
    refine ⟨?_, rfl⟩
    rw [← Bool.not_eq_true, ← Blank.trim_eq_empty]
    exact filled

/-- What a tool prints is worth as much as the same text in a table. -/
theorem toolSource_like_table {s : SecretSettings} {run : ToolRunner} {key output : String}
    (printed : (run (s.invocation key) s.timeout).Prints output) {t : SecretTable}
    (held : t.get? key = some output) (started : List (Invocation × UInt64)) :
    ((s.toolSource run).lookup key started).result = (SecretTable.source.lookup key t).result := by
  have read : t.lookup key = SecretTable.resolve key output := by rw [SecretTable.lookup, held]
  exact (secretOf_printed printed).trans read.symm

/-- A lookup runs the configured command with four arguments, of which the key is the last, as it
is. It gives a secret exactly if the tool ends well and prints a text that is more than blanks,
namely that text without the blanks around it, and fails of that key in every other case. Where the
tool prints a text, blank or not, the lookup ends as one does in a table that holds the text at the
key. -/
theorem toolSource_reads_output (s : SecretSettings) (run : ToolRunner) (key : String)
    (started : List (Invocation × UInt64)) :
    let invocation : Invocation := ⟨s.command, ["kv", "get", "-token-file=" ++ s.tokenFile, key]⟩
    let e := run invocation s.timeout
    let a := (s.toolSource run).lookup key started
    a.state = started ++ [(invocation, s.timeout)] ∧
    (∀ secret, a.result = .ok secret ↔ ∃ output, e.Prints output ∧ secret = Blank.trim output ∧
      secret ≠ "") ∧
    (∀ f, a.result = .error f → ∃ reason, f = .secretLookup key reason) ∧
    ∀ output, e.Prints output → ∀ t : SecretTable, t.get? key = some output →
      a.result = (SecretTable.source.lookup key t).result := by
  intro invocation e a
  refine ⟨rfl, fun secret => secretOf_eq_ok, fun f failed => secretOf_blames failed, ?_⟩
  intro output printed t held
  exact toolSource_like_table printed held started

end SecretSettings

/-- A program fares the same with a tool as with a table, if the tool prints what the table holds at
every key that the program looks up. It runs the tool once for each of them. -/
theorem Program.run_like_table {α τ : Type} (p : Program α) (s : SecretSettings) (run : ToolRunner)
    (broker : Broker τ)
    (t : SecretTable) (started : List (Invocation × UInt64)) (state : τ)
    (printed : ∀ key ∈ (p.run SecretTable.source broker t state).keys,
      ∃ output, t.get? key = some output ∧ (run (s.invocation key) s.timeout).Prints output) :
    let r := p.run (s.toolSource run) broker started state
    let r' := p.run SecretTable.source broker t state
    r.result = r'.result ∧ r.broker = r'.broker ∧ r.acts = r'.acts ∧
      r.secrets = started ++ r'.keys.map fun key => (s.invocation key, s.timeout) := by
  dsimp only
  simp only [Ran.keys_eq] at printed ⊢
  induction p generalizing t started state with
  | done a => exact ⟨rfl, rfl, rfl, (List.append_nil _).symm⟩
  | say line next ih =>
    rw [run_say, Ran.acts_said] at printed
    obtain ⟨result, left, acts, ran⟩ := ih t started state printed
    rw [run_say, run_say, Ran.acts_said, Ran.acts_said, acts]
    exact ⟨result, left, rfl, ran⟩
  | ask q next ih =>
    cases q with
    | lookup key =>
      rw [run_lookup, Ran.acts_asked] at printed
      obtain ⟨output, held, ended⟩ := printed key List.mem_cons_self
      have alike := SecretSettings.toolSource_like_table ended held started
      obtain ⟨result, left, acts, ran⟩ := ih _ { t with lookups := t.lookups ++ [key] }
        (started ++ [(s.invocation key, s.timeout)]) state fun key member =>
          printed key (List.mem_cons_of_mem _ member)
      rw [run_lookup, run_lookup, Ran.acts_asked, Ran.acts_asked, alike]
      exact ⟨result, left, congrArg _ acts, ran.trans (List.append_assoc ..)⟩
    | call c =>
      rw [run_call, Ran.acts_asked] at printed
      obtain ⟨result, left, acts, ran⟩ := ih _ t started (broker.answer c state).state printed
      rw [run_call, run_call, Ran.acts_asked, Ran.acts_asked, acts]
      exact ⟨result, left, rfl, ran⟩

/-- A delivery whose tool prints two texts at the keys of the credentials goes as with a table made
for these texts, whether they are fit for credentials or not. -/
theorem Delivery.forward_like_table {τ : Type} (s : Settings) (input : List UInt8) (id : MessageId)
    (run : ToolRunner) (broker : Broker τ) (u p : String) (started : List (Invocation × UInt64))
    (state : τ)
    (username : (run (s.secrets.invocation s.secrets.usernameKey) s.secrets.timeout).Prints u)
    (password : (run (s.secrets.invocation s.secrets.passwordKey) s.secrets.timeout).Prints p) :
    let r := (forward s input id).run (s.secrets.toolSource run) broker started state
    let r' :=
      (forward s input id).run SecretTable.source broker (.ofCredentials s.secrets u p) state
    r.result = r'.result ∧ r.broker = r'.broker ∧ r.acts = r'.acts := by
  intro r r'
  have keys : r'.keys ⊆ [s.secrets.usernameKey, s.secrets.passwordKey] := by
    rcases forward_stage SecretTable.source_blames broker s input id
        (.ofCredentials s.secrets u p) state with
      ⟨f, -, -, lookedUp, -⟩ | ⟨-, -, -, -, -, -, keys, -, -⟩
    · exact lookedUp.subset
    · rw [show r'.keys = _ from keys]
      exact List.Subset.refl _
  have printed : ∀ key ∈ r'.keys, ∃ output, (SecretTable.ofCredentials s.secrets u p).get? key =
      some output ∧
      (run (s.secrets.invocation key) s.secrets.timeout).Prints output := by
    intro key asked
    rw [SecretTable.ofCredentials, SecretTable.get?_ofList]
    rcases List.mem_cons.1 (keys asked) with rfl | asked
    · exact ⟨u, SecretTable.latest?_username .., username⟩
    · rw [List.mem_singleton.1 asked]
      exact ⟨p, SecretTable.latest?_password .., password⟩
  obtain ⟨result, left, acts, -⟩ :=
    Program.run_like_table _ s.secrets run broker _ started state printed
  exact ⟨result, left, acts⟩

end KeyRelay
