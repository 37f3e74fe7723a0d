import ServiceCall.Error
import ServiceCall.Request.Service
import ServiceCall.Retry.Backoff

/-! Whether a failed attempt is tried again, and after which pause. -/

namespace ServiceCall

/-- What is known when a retry is considered. `attempts` counts the one that failed. -/
structure FailedAttempt (σ : Type) where
  request : ServiceRequest σ
  error : Error
  attempts : Nat
  retries : Nat
  repeatable : Bool

abbrev RetryRule (σ : Type) := FailedAttempt σ → StateM σ Bool

abbrev PauseRule (σ : Type) := FailedAttempt σ → StateM σ Duration

namespace RetryRule

variable {σ : Type}

/-- Failures below the level of responses, and failures of the service that are transient or due
to throttling or to the clock. -/
def holds (d : FailedAttempt σ) : Bool :=
  d.repeatable
    && (d.error.isIo
      || d.error.service?.any fun e => e.isTransient || e.isThrottling || e.isClockSkew)

def standard : RetryRule σ := fun d world => (holds d, world)

def never : RetryRule σ := fun _ world => (false, world)

end RetryRule

namespace PauseRule

variable {σ : Type}

def none : PauseRule σ := fun _ world => (.zero, world)

/-- Draws with random numbers of the surroundings; a longest pause of zero draws none. -/
def jitter (j : FullJitter) (random : StateM σ Nat) : PauseRule σ := fun d world =>
  if (j.ceiling d.attempts).millis = 0 then (.zero, world)
  else
    let (n, world) := random world
    (j.drawn d.attempts n, world)

end PauseRule

structure RetryPolicy (σ : Type) where
  condition : RetryRule σ
  backoff : PauseRule σ
  maxRetries : Nat
  honorsClient : Bool

namespace RetryPolicy

variable {σ : Type}

def none : RetryPolicy σ := ⟨.never, .none, 0, false⟩

def standard (random : StateM σ Nat) : RetryPolicy σ :=
  ⟨.standard, .jitter .standard random, 1, true⟩

/-- Overrides the limit of the client. -/
def withMaxRetries (random : StateM σ Nat) (maxRetries : Nat) : RetryPolicy σ :=
  ⟨.standard, .jitter .standard random, maxRetries, false⟩

def lowLatency (random : StateM σ Nat) : RetryPolicy σ :=
  ⟨.standard, .jitter .lowLatency random, 1, true⟩

/-- The limit of the client counts where there is one and the policy honors it. -/
def effectiveMax (p : RetryPolicy σ) (client : Option Nat) : Nat :=
  match client with
  | some limit => if p.honorsClient then limit else p.maxRetries
  | .none => p.maxRetries

def inspect (p : RetryPolicy σ) : String :=
  Inspect.record "RetryPolicy" [
    ("max_error_retry", s!"{p.maxRetries}"),
    ("honor_client_max_error_retry", Inspect.bool p.honorsClient)]

end RetryPolicy

end ServiceCall
