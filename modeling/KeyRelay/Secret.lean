import KeyRelay.Text.Quoted

/-!
Broker credentials. The text shown to a developer hides the password.
-/

namespace KeyRelay

structure Credentials where
  username : String
  password : String
  deriving DecidableEq

/-- The password never shows. -/
def Credentials.debug (c : Credentials) : String :=
  Quoted.record "Credentials" [
    ("username", Quoted.quote c.username),
    ("password", Quoted.quote "<redacted>")]

end KeyRelay
