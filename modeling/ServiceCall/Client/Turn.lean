import ServiceCall.Client.Attempt

/-!
Turns: an attempt with what has to be done before and after it. Every attempt but the first
starts from the header fields, the parameters and the body that the first one had. A call goes
on only as long as its limits allow, so it ends.
-/

namespace ServiceCall

/-- What every attempt starts from. -/
structure Origin where
  headers : Headers
  parameters : Parameters
  repeatable : Bool

namespace Origin

variable {σ : Type}

def of (r : HttpRequest σ) : Origin := ⟨r.headers, r.parameters, r.body.isRepeatable⟩

def restore (o : Origin) (r : HttpRequest σ) : HttpRequest σ :=
  { r with headers := o.headers, parameters := o.parameters, redirectTarget := none }

end Origin

inductive Turn (σ α : Type) (l : CallLimits) (t : Tally) where
  | finished (response : Response α)
  | again (tally : Tally) (directive : Directive σ) (less : tally.left l < t.left l)

namespace CallM

variable {σ α : Type}

/-! ### Before an attempt -/

def markBody : CallM σ Unit := do
  let body ← ofExcept .streamReset (← request).body.mark
  revise fun r => { r with body }

def resetBody : CallM σ Unit := do
  let body ← ofExcept .streamReset (← request).body.reset
  revise fun r => { r with body }

/-- The address of the next attempt. A redirect sets endpoint and path, and is itself the
address once; an authentication retry may name another endpoint. -/
def direct : Directive σ → CallM σ Unit
  | .redirect target =>
    match target.root? with
    | some endpoint =>
      revise fun r => { r with endpoint, path := target.path, redirectTarget := some target }
    | none => throw (.invalidUri target.text)
  | .authRetry parameters =>
    match parameters.endpoint with
    | some endpoint => revise fun r => { r with endpoint }
    | none => pure ()
  | .start => pure ()
  | .retry _ => pure ()

def prepare (o : Origin) (directive : Directive σ) : CallM σ Unit := do
  unless directive.isStart do
    revise o.restore
    resetBody
    direct directive
  if (← request).body.isRemarked then markBody

/-! ### After an attempt -/

/-- Takes the cost of a retry from the pool. -/
def takeCapacity (s : CallSetting σ α) : CallM σ Bool := do
  let (taken, pool) := (← get).client.pool.acquire s.retryCost
  modify fun run => { run with client := { run.client with pool } }
  if taken then
    record (.capacityTaken s.retryCost)
    modify fun run => { run with tookCapacity := true }
    count fun m => m.addCapacity s.retryCost
  else
    record (.capacityRefused s.retryCost)
    countForClient s fun m => { m with refusedCapacity := m.refusedCapacity + 1 }
  return taken

def askCondition (s : CallSetting σ α) (failed : FailedAttempt σ) : CallM σ Bool := do
  let admitted ← perform (s.client.config.retryPolicy.condition failed)
  record (.conditionAsked failed admitted)
  return admitted

/-- Whether a failure that the limits let pass is retried: the body has to be repeatable, a
failure that is not throttling has to be paid for, and the condition has to hold. -/
def admits (s : CallSetting σ α) (o : Origin) (failure : Error) (number : Nat) : CallM σ Bool := do
  if !o.repeatable then return false
  unless failure.isThrottling do
    unless ← takeCapacity s do return false
  askCondition s {
    request := (← request).subject
    error := failure
    attempts := number
    retries := number - 1
    repeatable := o.repeatable }

def countException : CallM σ Unit := count fun m => { m with exceptions := m.exceptions + 1 }

/-! ### The turn -/

def startAttempt (s : CallSetting σ α) (directive : Directive σ) (number : Nat) :
    CallM σ Unit := do
  record (.attemptStarted number directive)
  count fun m => { m with requests := m.requests + 1 }
  countForClient s fun m => { m with attempts := m.attempts + 1 }

/-- Whether the outcome of an attempt ends the call, and how it goes on if not. -/
def conclude (s : CallSetting σ α) (o : Origin) (tally : Tally) :
    Outcome σ α (decide (tally.authRetries < s.limits.authRetries)) →
      CallM σ (Turn σ α s.limits tally)
  | .success response => return .finished response
  | .redirect target => do
    if h : tally.redirects < s.limits.redirects then
      countForClient s fun m => { m with redirects := m.redirects + 1 }
      return .again tally.redirected (.redirect target) (Tally.left_redirected h)
    else
      let r ← request
      throw (.redirectLimitExceeded s.limits.redirects r.method r.loggedUri)
  | .authRetry parameters h =>
    return .again tally.authRetried (.authRetry parameters)
      (Tally.left_authRetried (of_decide_eq_true h))
  | .retryable failure => do
    countException
    if h : tally.attempts < s.limits.retries then
      if ← admits s o failure (tally.attempts + 1) then
        countForClient s fun m => { m with retries := m.retries + 1 }
        return .again tally.retried (.retry failure) (Tally.left_retried h)
      else throw failure
    else throw failure

def countFailedAttempt (run : Run σ) : Run σ :=
  { run with metrics := { run.metrics with exceptions := run.metrics.exceptions + 1 } }

def turn (s : CallSetting σ α) (o : Origin) (tally : Tally) (directive : Directive σ) :
    CallM σ (Turn σ α s.limits tally) := do
  checkInterruption s
  startAttempt s directive (tally.attempts + 1)
  prepare o directive
  conclude s o tally (← onFailure (attempt s directive (tally.attempts + 1)) countFailedAttempt)

/-- Turns until one has finished the call. -/
def turns (s : CallSetting σ α) (o : Origin) (tally : Tally) (directive : Directive σ) :
    CallM σ (Response α) := do
  match ← turn s o tally directive with
  | .finished response => return response
  | .again tally directive _ => turns s o tally directive
termination_by tally.left s.limits

end CallM

end ServiceCall
