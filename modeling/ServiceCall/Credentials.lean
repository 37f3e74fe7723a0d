import ServiceCall.Text.Quoted

/-! Credentials and where they come from. -/

namespace ServiceCall

structure Credentials where
  keyId : String
  secret : String
  token : Option String := none
  deriving DecidableEq

namespace Credentials

/-- The secret and the token are not shown. -/
def inspect (c : Credentials) : String :=
  Inspect.record "Credentials" [
    ("access_key_id", Inspect.string c.keyId),
    ("secret_access_key", Inspect.string "<redacted>"),
    ("session_token", Inspect.option (fun _ => Inspect.string "<redacted>") c.token)]

end Credentials

/-- Asked before every attempt; a refusal is told in words. -/
abbrev CredentialsSource (σ : Type) := StateM σ (Except String Credentials)

namespace CredentialsSource

variable {σ : Type}

/-- Gives the same credentials every time. -/
def fixed (c : Credentials) : CredentialsSource σ := fun world => (.ok c, world)

end CredentialsSource

end ServiceCall
