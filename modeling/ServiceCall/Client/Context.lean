import ServiceCall.Hook
import ServiceCall.Metrics
import ServiceCall.Signing
import ServiceCall.Surroundings

/-! The collaborators of one call, and what is known of it afterwards. -/

namespace ServiceCall

structure CallContext (σ : Type) where
  cancel : CancelToken
  credentials : Option (CredentialsSource σ) := none
  hooks : List (Hook σ) := []
  signers : SignerSource σ := .fixed none
  authRetry : Option (AuthRetryRule σ) := none
  metrics : CallMetrics := {}
  tookCapacity : Bool := false

namespace CallContext

variable {σ : Type}

def withHook (c : CallContext σ) (hook : Hook σ) : CallContext σ :=
  { c with hooks := c.hooks ++ [hook] }

def inspect (c : CallContext σ) : String :=
  Inspect.record "ExecutionContext" [
    ("has_credentials", Inspect.bool c.credentials.isSome),
    ("hooks", Hook.inspectAll c.hooks),
    ("has_auth_error_retry", Inspect.bool c.authRetry.isSome),
    ("retry_capacity_consumed", Inspect.bool c.tookCapacity),
    ("metrics", c.metrics.inspect)]

end CallContext

end ServiceCall
