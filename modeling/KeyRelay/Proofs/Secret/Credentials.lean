import KeyRelay.Proofs.Secret

/-!
Credentials fetched from a table. What a table holds is read off the entries it was built from, the
last one for a key counting; `source_lookup` ties that to the lookup, and the fetch stops at the
first key that has no secret.
-/

namespace KeyRelay

namespace SecretTable

/-- What a list of entries says of a key: the last one for it does. -/
def latest? (entries : List (String × String)) (key : String) : Option String :=
  ((entries.filter fun e => e.1 = key).getLast?).map (·.2)

/-- The secret at a key: what is left of the latest value without blanks at its ends, if anything
is. -/
def secret? (entries : List (String × String)) (key : String) : Option String :=
  ((latest? entries key).filter fun value => !Blank.isBlankText value).map Blank.trim

/-- The failure of a key that has no secret. -/
def absence (entries : List (String × String)) (key : String) : Failure :=
  .secretLookup key (if (latest? entries key).isSome then "empty output" else "key not found")

theorem ofList_concat (entries : List (String × String)) (e : String × String) :
    ofList (entries ++ [e]) = (ofList entries).insert e.1 e.2 := by
  rw [ofList, List.foldl_append]
  rfl

theorem get?_insert (t : SecretTable) (key value other : String) :
    (t.insert key value).get? other = if key = other then some value else t.get? other := by
  by_cases same : key = other <;> simp [get?, insert, same]

theorem latest?_concat (entries : List (String × String)) (e : String × String) (key : String) :
    latest? (entries ++ [e]) key = if e.1 = key then some e.2 else latest? entries key := by
  by_cases same : e.1 = key <;> simp [latest?, List.filter_append, same]

/-- A table holds the latest of its entries. -/
theorem get?_ofList (entries : List (String × String)) (key : String) :
    (ofList entries).get? key = latest? entries key := by
  induction entries using List.reverseRecOn with
  | nil => rfl
  | append_singleton entries e ih => rw [ofList_concat, get?_insert, latest?_concat, ih]

/-- Looking a key up gives its secret, or fails of there being none. -/
theorem source_lookup (entries : List (String × String)) (asked : List String) (key : String) :
    source.lookup key { ofList entries with lookups := asked } =
      ⟨match secret? entries key with
        | some secret => .ok secret
        | none => .error (absence entries key),
        [], { ofList entries with lookups := asked ++ [key] }⟩ := by
  have held : get? { ofList entries with lookups := asked } key = latest? entries key :=
    get?_ofList entries key
  simp only [source, lookup, held, secret?, absence]
  cases latest? entries key with
  | none => rfl
  | some value =>
    cases blank : Blank.isBlankText value with
    | true => simp [resolve, Blank.trim_eq_empty.2 blank, Option.filter, blank]
    | false => simp [resolve_eq_ok.2 ⟨blank, rfl⟩, Option.filter, blank]

/-- A later entry takes the place of an earlier one, even where it is blank. -/
example : secret? [("k", "a"), ("k", " b\n")] "k" = some "b" ∧
    secret? [("k", "a"), ("k", " ")] "k" = none := by decide

/-- A secret is neither empty nor blank at either end. -/
theorem secret?_solid {entries : List (String × String)} {key secret : String}
    (held : secret? entries key = some secret) : secret ≠ "" ∧ Blank.Stripped secret := by
  obtain ⟨value, solid, rfl⟩ := Option.map_eq_some_iff.1 held
  have filled := (Option.filter_eq_some_iff.1 solid).2
  refine ⟨fun empty => ?_, Blank.trim_stripped value⟩
  rw [Blank.trim_eq_empty.1 empty] at filled
  cases filled

/-! ### Tables of two secrets -/

section
variable (s : SecretSettings) (u p : String)

theorem latest?_username :
    latest? [(s.usernameKey, u), (s.passwordKey, p)] s.usernameKey = some u := by
  have other := s.usernameKey_ne_passwordKey.symm
  simp [latest?, other]

theorem latest?_password :
    latest? [(s.usernameKey, u), (s.passwordKey, p)] s.passwordKey = some p := by
  simp [latest?]

theorem secret?_username :
    secret? [(s.usernameKey, u), (s.passwordKey, p)] s.usernameKey =
      if Blank.isBlankText u then none else some (Blank.trim u) := by
  rw [secret?, latest?_username]
  cases blank : Blank.isBlankText u <;> simp [Option.filter, blank]

theorem secret?_password :
    secret? [(s.usernameKey, u), (s.passwordKey, p)] s.passwordKey =
      if Blank.isBlankText p then none else some (Blank.trim p) := by
  rw [secret?, latest?_password]
  cases blank : Blank.isBlankText p <;> simp [Option.filter, blank]

end

end SecretTable

namespace Delivery

open SecretTable (secret? absence)

variable {τ : Type} (s : SecretSettings) (broker : Broker τ) (state : τ)

/-- A fetch from a table looks the username up and, where there is one, the password. -/
theorem fetchCredentials_run (entries : List (String × String)) (asked : List String) :
    let t : SecretTable := { SecretTable.ofList entries with lookups := asked }
    let r := (fetchCredentials s).run SecretTable.source broker t state
    r.secrets = { t with lookups := asked ++ r.keys } ∧
    match secret? entries s.usernameKey, secret? entries s.passwordKey with
    | none, _ => r.result = .error (absence entries s.usernameKey) ∧ r.keys = [s.usernameKey]
    | some _, none =>
      r.result = .error (absence entries s.passwordKey) ∧ r.keys = [s.usernameKey, s.passwordKey]
    | some username, some password =>
      r.result = .ok ⟨username, password⟩ ∧ r.keys = [s.usernameKey, s.passwordKey] := by
  intro t r
  refine ⟨SecretTable.secrets_run _ broker t state, ?_⟩
  have asks (asked : List String) (key : String) := SecretTable.source_lookup entries asked key
  have fetch : r = (fetchCredentials s).run SecretTable.source broker t state := rfl
  rw [fetchCredentials] at fetch
  rcases username : secret? entries s.usernameKey with _ | name
  · have failed := asks asked s.usernameKey
    rw [username] at failed
    rw [run_lookup_error SecretTable.source broker failed] at fetch
    rw [fetch, Ran.keys_eq, Ran.acts_asked]
    exact ⟨rfl, rfl⟩
  have found := asks asked s.usernameKey
  rw [username] at found
  rw [run_lookup_ok SecretTable.source broker found] at fetch
  rcases password : secret? entries s.passwordKey with _ | word
  · have failed := asks (asked ++ [s.usernameKey]) s.passwordKey
    rw [password] at failed
    rw [run_lookup_error SecretTable.source broker failed] at fetch
    rw [fetch, Ran.keys_eq, Ran.acts_asked, Ran.acts_asked]
    exact ⟨rfl, rfl⟩
  · have found := asks (asked ++ [s.usernameKey]) s.passwordKey
    rw [password] at found
    rw [run_lookup_ok SecretTable.source broker found] at fetch
    rw [fetch, Ran.keys_eq, Ran.acts_asked, Ran.acts_asked]
    exact ⟨rfl, rfl⟩

/-- Fetching credentials from a table. The two keys differ whatever the settings are, so a table
made for two texts gives both of them, without the blanks around them, exactly if neither is blank;
else the fetch fails of the first key that is blank and looks up none after it. From any table,
whatever was entered and looked up before, it gives two secrets with no blanks at their ends or
fails of the first key that has none, and all it leaves are the keys it tried, in order. -/
theorem fetchCredentials_tries_in_order :
    let fetch (t : SecretTable) := (fetchCredentials s).run SecretTable.source broker t state
    s.usernameKey ≠ s.passwordKey ∧
    (∀ u p : String,
      let r := fetch (.ofCredentials s u p)
      (r.result = .ok ⟨Blank.trim u, Blank.trim p⟩ ↔ Blank.isBlankText u = false ∧
        Blank.isBlankText p = false) ∧
      (Blank.isBlankText u = true →
        (∃ reason, r.result = .error (.secretLookup s.usernameKey reason)) ∧
        r.secrets.lookups = [s.usernameKey]) ∧
      (Blank.isBlankText u = false → Blank.isBlankText p = true →
        (∃ reason, r.result = .error (.secretLookup s.passwordKey reason)) ∧
          r.secrets.lookups = [s.usernameKey, s.passwordKey])) ∧
    ∀ (entries : List (String × String)) (asked : List String),
      let t : SecretTable := { SecretTable.ofList entries with lookups := asked }
      let r := fetch t
      r.secrets = { t with lookups := asked ++ r.keys } ∧
      match secret? entries s.usernameKey, secret? entries s.passwordKey with
      | none, _ => r.result = .error (absence entries s.usernameKey) ∧ r.keys = [s.usernameKey]
      | some _, none =>
        r.result = .error (absence entries s.passwordKey) ∧ r.keys = [s.usernameKey, s.passwordKey]
      | some username, some password =>
        r.result = .ok ⟨username, password⟩ ∧ r.keys = [s.usernameKey, s.passwordKey] ∧
          (username ≠ "" ∧ Blank.Stripped username) ∧
            (password ≠ "" ∧ Blank.Stripped password) := by
  refine ⟨s.usernameKey_ne_passwordKey, fun u p => ?_, fun entries asked => ?_⟩
  -- a table made for two texts: two entries, none of them hidden by the other
  · intro r
    obtain ⟨left, course⟩ :=
      fetchCredentials_run s broker state [(s.usernameKey, u), (s.passwordKey, p)] []
    rw [SecretTable.secret?_username, SecretTable.secret?_password] at course
    have tried : r.secrets.lookups = r.keys := congrArg (·.lookups) left
    rw [tried]
    cases username : Blank.isBlankText u with
    | true =>
      rw [username] at course
      obtain ⟨result, keys⟩ : r.result = _ ∧ r.keys = _ := course
      rw [result, keys]
      exact ⟨by simp, fun _ => ⟨⟨_, rfl⟩, rfl⟩, by simp⟩
    | false =>
      cases password : Blank.isBlankText p with
      | true =>
        rw [username, password] at course
        obtain ⟨result, keys⟩ : r.result = _ ∧ r.keys = _ := course
        rw [result, keys]
        exact ⟨by simp, by simp, fun _ _ => ⟨⟨_, rfl⟩, rfl⟩⟩
      | false =>
        rw [username, password] at course
        rw [show r.result = _ from course.1]
        exact ⟨by simp, by simp, by simp⟩
  -- any table
  · obtain ⟨left, course⟩ := fetchCredentials_run s broker state entries asked
    refine ⟨left, ?_⟩
    rcases username : secret? entries s.usernameKey with _ | name
    · rw [username] at course
      exact course
    rcases password : secret? entries s.passwordKey with _ | word
    · rw [username, password] at course
      exact course
    · rw [username, password] at course
      exact ⟨course.1, course.2, SecretTable.secret?_solid username,
        SecretTable.secret?_solid password⟩

end Delivery

end KeyRelay
