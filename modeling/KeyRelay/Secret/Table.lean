import KeyRelay.Broker
import KeyRelay.Text.Blank

/-!
Secrets held in a table, which remembers every key it was asked for. The latest entry of a key
counts.
-/

namespace KeyRelay

structure SecretTable where
  secrets : List (String × String) := []
  /-- Keys asked for so far, in order. -/
  lookups : List String := []
  deriving DecidableEq

namespace SecretTable

/-- The entry of a key. -/
def get? (t : SecretTable) (key : String) : Option String :=
  (t.secrets.find? fun e => e.1 = key).map (·.2)

def insert (t : SecretTable) (key value : String) : SecretTable :=
  { t with secrets := (key, value) :: t.secrets }

def ofList (entries : List (String × String)) : SecretTable :=
  entries.foldl (fun t e => t.insert e.1 e.2) {}

/-- A table that holds the credentials at the keys the settings name. -/
def ofCredentials (s : SecretSettings) (username password : String) : SecretTable :=
  ofList [(s.usernameKey, username), (s.passwordKey, password)]

/-- The secret an output stands for: the output without blanks at its ends, if anything is left. -/
def resolve (key : String) (output : String) : Except Failure String :=
  let secret := Blank.trim output
  if secret = "" then .error (.secretLookup key "empty output") else .ok secret

def lookup (t : SecretTable) (key : String) : Except Failure String :=
  match t.get? key with
  | some value => resolve key value
  | none => .error (.secretLookup key "key not found")

/-- Looks up in the table and remembers the key. -/
def source : SecretSource SecretTable where
  lookup key t := ⟨t.lookup key, [], { t with lookups := t.lookups ++ [key] }⟩

end SecretTable

end KeyRelay
