import ServiceCall.Response.Metadata
import ServiceCall.Retry.Policy

/-! Settings of a client. The time limits of a request go before those of its client. -/

namespace ServiceCall

inductive Preset where
  | standard
  | lowLatency
  deriving DecidableEq, Repr

structure ClientConfig (σ : Type) where
  maxErrorRetry : Option Nat := none
  retryPolicy : RetryPolicy σ
  throttledRetries : Bool := true
  capacityPolicy : CapacityPolicy := .standard
  requestTimeout : Option Duration := none
  executionTimeout : Option Duration := none
  maxRedirects : Nat := 10
  maxAuthRetries : Nat := 3
  userAgent : String := "sdkcall-rust/0.1.0"
  metadataCacheSize : Nat := MetadataCache.defaultCapacity
  metricsEnabled : Bool := true

namespace ClientConfig

variable {σ : Type}

/-- Replaces the time limits and the retry policy by those of the preset, whose pauses are
drawn with the random numbers. -/
def withPreset (c : ClientConfig σ) (random : StateM σ Nat) : Preset → ClientConfig σ
  | .standard =>
    { c with
      requestTimeout := some (.ofSecs 50)
      executionTimeout := none
      retryPolicy := .standard random }
  | .lowLatency =>
    { c with
      requestTimeout := some (.ofSecs 2)
      executionTimeout := some (.ofSecs 5)
      retryPolicy := .lowLatency random }

def ofPreset (random : StateM σ Nat) (p : Preset) : ClientConfig σ :=
  withPreset { retryPolicy := .none } random p

def standard (random : StateM σ Nat) : ClientConfig σ := ofPreset random .standard

/-- The shortest limit is a millisecond. -/
def atLeastMilli (d : Duration) : Duration := max d (.ofMillis 1)

def withRequestTimeout (c : ClientConfig σ) (d : Duration) : ClientConfig σ :=
  { c with requestTimeout := some (atLeastMilli d) }

def withExecutionTimeout (c : ClientConfig σ) (d : Duration) : ClientConfig σ :=
  { c with executionTimeout := some (atLeastMilli d) }

/-- How many failures of a call may be retried. -/
def maxRetries (c : ClientConfig σ) : Nat := c.retryPolicy.effectiveMax c.maxErrorRetry

def inspect (c : ClientConfig σ) : String :=
  let count := fun n : Nat => s!"{n}"
  Inspect.record "ClientConfig" [
    ("max_error_retry", Inspect.option count c.maxErrorRetry),
    ("retry_policy", c.retryPolicy.inspect),
    ("throttled_retries", Inspect.bool c.throttledRetries),
    ("retry_capacity_policy", c.capacityPolicy.inspect),
    ("request_timeout", Inspect.option Duration.inspect c.requestTimeout),
    ("client_execution_timeout", Inspect.option Duration.inspect c.executionTimeout),
    ("max_redirects", count c.maxRedirects),
    ("max_auth_retries", count c.maxAuthRetries),
    ("user_agent", Inspect.string c.userAgent),
    ("response_metadata_cache_size", count c.metadataCacheSize),
    ("metrics_enabled", Inspect.bool c.metricsEnabled)]

end ClientConfig

end ServiceCall
