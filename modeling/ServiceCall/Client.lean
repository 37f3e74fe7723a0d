import ServiceCall.Client.Config
import ServiceCall.Client.Context
import ServiceCall.Handler

/-! Clients, and the state that the calls of a client share. -/

namespace ServiceCall

structure Client (σ : Type) where
  config : ClientConfig σ
  transport : Transport σ
  surroundings : Surroundings σ
  credentials : Option (CredentialsSource σ) := none
  signers : SignerSource σ := .fixed none
  hooks : List (Hook σ) := []
  authRetry : Option (AuthRetryRule σ) := none
  /-- Told the metrics of every call that ends. -/
  collector : Option (CallMetrics → StateM σ Unit) := none

structure ClientState where
  pool : RetryPool
  metadata : MetadataCache
  clockOffset : Int := 0
  metrics : ClientMetrics := {}
  isShutDown : Bool := false

namespace ClientState

instance : Inhabited ClientState := ⟨{ pool := default, metadata := default }⟩

/-- Metadata of the last successful response to the request or to a copy of it. -/
def metadata? {σ : Type} (s : ClientState) (r : ServiceRequest σ) : Option Metadata :=
  s.metadata.get? r.root

end ClientState

namespace Client

variable {σ : Type}

/-- The state of a client that has not run a call. -/
def start (c : Client σ) (clockOffset : Int) : ClientState where
  pool := .ofPolicy c.config.throttledRetries c.config.capacityPolicy
  metadata := { capacity := c.config.metadataCacheSize }
  clockOffset := clockOffset

/-- A context with the collaborators of the client. -/
def context (c : Client σ) (cancel : CancelToken) : CallContext σ where
  cancel := cancel
  credentials := c.credentials
  hooks := c.hooks
  signers := c.signers
  authRetry := c.authRetry

/-- No call is accepted any more. A client is shut down once; after that nothing happens. -/
def shutdown (c : Client σ) (s : ClientState) : StateM σ ClientState := fun world =>
  if s.isShutDown then (s, world)
  else
    let ((), world) := c.transport.shutdown world
    ({ s with isShutDown := true }, world)

def inspect (c : Client σ) (s : ClientState) : String :=
  Inspect.record "ServiceClient" [
    ("config", c.config.inspect),
    ("hooks", Hook.inspectAll c.hooks),
    ("retry_capacity", s.pool.inspect),
    ("clock_offset", s!"{s.clockOffset}"),
    ("shut_down", Inspect.bool s.isShutDown)]

end Client

end ServiceCall
