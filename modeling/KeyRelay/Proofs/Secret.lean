import KeyRelay.Secret.Table
import KeyRelay.Secret.Tool
import KeyRelay.Proofs.Delivery.Course
import KeyRelay.Proofs.Text.Blank

/-!
Sources of secrets. Both of them blame the key that a lookup was for. A table keeps its entries and
remembers every key a program looked up; it gives a secret exactly where there is more than blanks
to give.
-/

namespace KeyRelay

variable {σ τ α : Type}

/-- A lookup fails of the key it was for. -/
def SecretSource.Blames (source : SecretSource σ) : Prop :=
  ∀ key secrets f, (source.lookup key secrets).result = .error f →
    ∃ reason, f = .secretLookup key reason

namespace SecretSettings

theorem keyPath_eq (s : SecretSettings) : ∃ front, ∀ name, s.keyPath name = front ++ name := by
  unfold keyPath
  split
  · split
    · exact ⟨_, fun _ => rfl⟩
    · exact ⟨_, fun _ => rfl⟩
  · exact ⟨_, fun _ => rfl⟩

theorem usernameKey_ne_passwordKey (s : SecretSettings) : s.usernameKey ≠ s.passwordKey := by
  obtain ⟨front, path⟩ := s.keyPath_eq
  intro same
  rw [usernameKey, passwordKey, path, path] at same
  have ends : "username".toList = "password".toList := by
    simpa only [String.toList_append, List.append_cancel_left_eq] using congrArg String.toList same
  exact absurd ends (by decide)

theorem secretOf_blames {s : SecretSettings} {key : String} {e : ToolEnd} {f : Failure}
    (failed : s.secretOf key e = .error f) : ∃ reason, f = .secretLookup key reason := by
  cases e with
  | exited code out err =>
    simp only [secretOf] at failed
    split at failed
    · cases failed
      exact ⟨_, rfl⟩
    · split at failed
      · cases failed
        exact ⟨_, rfl⟩
      · split at failed
        · cases failed
          exact ⟨_, rfl⟩
        · cases failed
  | _ =>
    cases failed
    exact ⟨_, rfl⟩

theorem toolSource_blames (s : SecretSettings) (run : ToolRunner) : (s.toolSource run).Blames :=
  fun _ _ _ failed => secretOf_blames failed

end SecretSettings

namespace SecretTable

theorem resolve_eq_ok {key output secret : String} :
    resolve key output = .ok secret ↔ Blank.isBlankText output = false ∧
    secret = Blank.trim output := by
  rw [← Bool.not_eq_true, ← Blank.trim_eq_empty, resolve]
  split
  · next blank => simp [blank]
  · next solid => simp [solid, eq_comm]

theorem source_blames : source.Blames := by
  intro key t f failed
  replace failed : t.lookup key = .error f := failed
  rw [lookup] at failed
  split at failed
  · rw [resolve] at failed
    split at failed
    · cases failed
      exact ⟨_, rfl⟩
    · cases failed
  · cases failed
    exact ⟨_, rfl⟩

/-- An entry changes the lookup of its own key alone. -/
theorem lookup_insert (t : SecretTable) (key value other : String) :
    (t.insert key value).lookup other = if other = key then resolve other value
      else t.lookup other := by
  split
  · next same => simp [lookup, get?, insert, same]
  · next distinct => simp [lookup, get?, insert, Ne.symm distinct]

/-- A program leaves a table as it is, with the keys it looked up added to those asked for
before. -/
theorem secrets_run (p : Program α) (broker : Broker τ) (t : SecretTable) (s : τ) :
    let r := p.run source broker t s
    r.secrets = { t with lookups := t.lookups ++ r.keys } := by
  dsimp only
  induction p generalizing t s with
  | done a => simp [Program.run, Ran.keys]
  | say line next ih =>
    rw [Program.run_say, Ran.secrets_after, ih]
    rfl
  | ask q next ih =>
    cases q with
    | lookup key =>
      rw [Program.run_lookup, Ran.secrets_after, ih, Ran.keys_eq, Ran.keys_eq, Ran.acts_asked]
      simp [source, Event.key?]
    | call c =>
      rw [Program.run_call, Ran.secrets_after, ih, Ran.keys_eq, Ran.keys_eq, Ran.acts_asked]
      rfl

end SecretTable

end KeyRelay
