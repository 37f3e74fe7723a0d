import ServiceCall.Client.Failure
import ServiceCall.ClockOffset

/-!
Attempts: credentials, pause, signature, one exchange with the service, and what its answer
means. An attempt that fails in the sense of `CallM` has failed for good; any other failure is
an outcome.
-/

namespace ServiceCall

/-- What an attempt came to. An authentication retry is granted only if it is allowed. -/
inductive Outcome (σ α : Type) (authAllowed : Bool) where
  | success (response : Response α)
  | redirect (target : Uri)
  | authRetry (parameters : AuthRetry σ) (allowed : authAllowed = true)
  | retryable (failure : Error)

namespace CallM

variable {σ α : Type}

/-! ### Before the exchange -/

/-- The source that the request names goes before the one of the context. -/
def loadCredentials (s : CallSetting σ α) : CallM σ (Option Credentials) := do
  match (← request).subject.credentials <|> s.context.credentials with
  | none => return none
  | some source =>
    record .credentialsAsked
    return some (← ofExcept .credentials (← perform source))

/-- How long to wait for the delay, and whether that is up to the end of the call. A call without
time limit does not look at the clock. -/
def planWait (s : CallSetting σ α) (delay : Duration) : CallM σ (Duration × Bool) := do
  match s.budget.callLimit with
  | some _ => return s.budget.wait (← readClock s) delay
  | none => return (delay, false)

/-- Waits as long as the rule for pauses says. A pause that ends with the time of the call, or
is cut short, ends the call. -/
def pauseAfter (s : CallSetting σ α) (failure : Error) (number : Nat) : CallM σ Unit := do
  let r ← request
  let failed : FailedAttempt σ := {
    request := r.subject
    error := failure
    attempts := number - 1
    retries := number - 2
    repeatable := r.body.isRepeatable }
  let delay ← perform (s.client.config.retryPolicy.backoff failed)
  record (.backoffAsked failed delay)
  modify fun run => { run with lastBackoff := delay }
  let (wait, reachesEnd) ← planWait s delay
  let cancelled ← perform (s.client.surroundings.pause s.context.cancel wait)
  record (.paused wait cancelled)
  if ← timeIsUp s then throw (deadlineExceeded s (← request))
  if cancelled then throw (interrupted (← request))
  if reachesEnd then throw (deadlineExceeded s (← request))

/-- Only a retry is paused for; redirects and authentication retries go on at once. -/
def beginAgain (s : CallSetting σ α) (directive : Directive σ) (number : Nat) : CallM σ Unit := do
  unless directive.isStart do
    announce .retryStarted
    match directive with
    | .retry failure => pauseAfter s failure number
    | _ => pure ()

/-- What an attempt does before it looks at its request. -/
def approach (s : CallSetting σ α) (directive : Directive σ) (number : Nat) :
    CallM σ (Option Credentials) := do
  checkInterruption s
  let credentials ← loadCredentials s
  beginAgain s directive number
  return credentials

def retryHeader : String := "x-sdk-retry"

/-- The number of earlier attempts, the last pause in milliseconds, and the capacity that is
left, if it is limited. -/
def retryHeaderValue (number : Nat) (lastBackoff : Duration) (pool : RetryPool) : String :=
  let available := match pool.available? with
    | some n => s!"{n}"
    | none => ""
  s!"{number - 1}/{lastBackoff.millis}/{available}"

def stampRetryHeader (number : Nat) : CallM σ Unit := do
  let run ← get
  stampHeader retryHeader (retryHeaderValue number run.lastBackoff run.client.pool)

def bindSigner (s : CallSetting σ α) (directive : Directive σ) : CallM σ (Option (Signer σ)) := do
  let run ← get
  let binding ← match run.binding.plan run.request.endpoint directive with
    | .settled binding => pure binding
    | .ask address =>
      record (.signerAsked address)
      pure (.bound (some address) (← perform (s.context.signers address)))
  record (.signerBound binding)
  modify fun run => { run with binding }
  return binding.signer?

/-- Signs with the clock offset of the client, unless that is 0. -/
def sign (signer : Signer σ) (credentials : Credentials) : CallM σ Unit := do
  let offset := (← get).client.clockOffset
  unless offset = 0 do revise fun r => { r with timeOffset := offset }
  record (.signing signer offset (← request))
  let answer ← performOnRequest fun r => signer.sign r credentials
  let r ← request
  ofExcept (.signing r.method r.loggedUri) answer

/-- A request is signed if there are both a signer and credentials. -/
def signWith : Option (Signer σ) → Option Credentials → CallM σ Unit
  | some signer, some credentials => sign signer credentials
  | _, _ => pure ()

/-! ### The exchange -/

/-- The limit of the exchange; a call whose time is up fails. -/
def exchangeLimit (s : CallSetting σ α) : CallM σ (Option Duration) := do
  match s.budget.callLimit with
  | none => return s.budget.attemptLimit
  | some _ =>
    match s.budget.exchangeLimit? (← readClock s) with
    | some limit => return limit
    | none => throw (deadlineExceeded s (← request))

def dispatch (s : CallSetting σ α) (limit : Option Duration) :
    CallM σ (Except TransportError HttpResponse) := do
  record (.dispatched (← request) limit (← get).client.metrics.inFlight)
  performOnRequest fun r => s.client.transport.send r limit

def transportFailure (e : TransportError) (limit : Option Duration) (r : HttpRequest σ) : Error :=
  match e with
  | .timeout => .timeout (limit.getD .zero).millis r.method r.loggedUri
  | .io kind source => .transport kind r.method r.loggedUri source

/-! ### Success -/

/-- Hooks see the response in reverse order, each the one that the hook before it left. -/
def beforeUnmarshal (s : CallSetting σ α) (r : HttpResponse) : CallM σ HttpResponse :=
  s.context.hooks.zipIdx.reverse.foldlM (fun r (hook, position) => do
    record (.hook .beforeUnmarshal position)
    perform (hook.beforeUnmarshal (← request) r)) r

/-- A call that took capacity gives the cost of one retry back, any other call 1. -/
def returnCapacity (s : CallSetting σ α) : CallM σ Unit := do
  let returned := if (← get).tookCapacity then s.retryCost else 1
  record (.capacityReturned returned)
  modify fun run =>
    { run with client := { run.client with pool := run.client.pool.release returned } }

def remember (metadata : Option Metadata) : CallM σ Unit := do
  if let some metadata := metadata then
    modify fun run => { run with client := { run.client with
      metadata := run.client.metadata.add run.request.subject.root metadata } }

/-- The handler's result with the status of the response and the header fields that hooks and
handler left. -/
def complete (s : CallSetting σ α) (status : Status) (handled : Handled α) (r : HttpResponse) :
    CallM σ (Response α) := do
  let metadata := handled.metadata <|> r.requestId?.map fun id => { requestId := some id }
  remember metadata
  returnCapacity s
  announce .responseCompleted
  return { value := handled.result, status, headers := r.headers, metadata }

variable {authAllowed : Bool}

def handleResult (s : CallSetting σ α) (status : Status) (reason : Option String)
    (r : HttpResponse) : CallM σ (Outcome σ α authAllowed) := do
  record (.handled r)
  match ← perform (s.handlers.response.handle r) with
  | (.ok handled, r) => return .success (← complete s status handled r)
  | (.error (.failure e), _) => throw e
  | (.error (.io source), _) => return .retryable (.readBody source)
  | (.error e, _) => throw (.unmarshall status.code reason e.text (some e.text))

def onSuccess (s : CallSetting σ α) (r : HttpResponse) : CallM σ (Outcome σ α authAllowed) := do
  let (buffered, r) := if s.handlers.response.keepsOpen then (.ok [], r) else r.buffer
  match buffered with
  | .error source => return .retryable (.readBody source)
  | .ok _ =>
    announce .responseStarted
    if let some length := r.headers.contentLength? then announce (.responseLength length)
    handleResult s r.status r.reason (← beforeUnmarshal s r)

/-! ### Redirects -/

/-- Where a temporary redirect leads to, as far as it says. -/
def location? (r : HttpResponse) : Option String :=
  if r.status = .temporaryRedirect then (r.headers.text? "location").filter (!·.isEmpty) else none

def onRedirect (location : String) : CallM σ (Outcome σ α authAllowed) := do
  let r ← request
  if !r.body.isRepeatable then
    return .retryable (.service (.cannotFollow r.subject.service location))
  match r.fullUri.toOption.bind (Address.resolve? · location) with
  | some target => return .redirect target
  | none => throw (.invalidUri location)

/-! ### Failures -/

def countThrottle (s : CallSetting σ α) (e : ServiceError) : CallM σ Unit := do
  if e.isThrottling then
    count fun m => { m with throttles := m.throttles + 1 }
    countForClient s fun m => { m with throttles := m.throttles + 1 }

/-- Learns the offset of the clock from a failure that is due to it. -/
def correctClock (s : CallSetting σ α) (headers : Headers) (e : ServiceError) : CallM σ Unit := do
  if e.isClockSkew then
    let now ← perform s.client.surroundings.timeOfDay
    record (.clockSkewed headers e now)
    let (offset, correction) :=
      ClockOffset.correct (← get).client.clockOffset headers e.message now
    modify fun run => { run with client := { run.client with clockOffset := offset } }
    unless correction = 0 do
      revise fun r => { r with timeOffset := correction }
      countForClient s fun m => { m with clockCorrections := m.clockCorrections + 1 }

/-- The rule is asked only about requests that can be sent again. -/
def askAuthRetry (s : CallSetting σ α) (e : ServiceError) : CallM σ (Outcome σ α authAllowed) := do
  match s.context.authRetry with
  | none => return .retryable (.service e)
  | some rule =>
    let r ← request
    if h : r.body.isRepeatable = true ∧ authAllowed = true then
      let answer ← perform (rule r e)
      record (.authAsked e answer.isSome)
      match answer with
      | some parameters => return .authRetry parameters h.2
      | none => return .retryable (.service e)
    else return .retryable (.service e)

def onFailureResponse (s : CallSetting σ α) (r : HttpResponse) :
    CallM σ (Outcome σ α authAllowed) := do
  match ← readFailure s r with
  | (.error e, _) => if e.isIo then return .retryable e else throw e
  | (.ok e, r) =>
    countThrottle s e
    correctClock s r.headers e
    askAuthRetry s e

/-! ### The attempt -/

def onResponse (s : CallSetting σ α) (r : HttpResponse) : CallM σ (Outcome σ α authAllowed) := do
  announce .dispatchCompleted
  record (.answered r.status)
  count fun m => { m with status := some r.status.code }
  if r.status.isSuccess then onSuccess s r
  else
    match location? r with
    | some location => onRedirect location
    | none => onFailureResponse s r

/-- Without a response the attempt may be repeated, unless the time of the call is up. -/
def onNoResponse (s : CallSetting σ α) (e : TransportError) (limit : Option Duration) :
    CallM σ (Outcome σ α authAllowed) := do
  if ← timeIsUp s then throw (deadlineExceeded s (← request))
  return .retryable (transportFailure e limit (← request))

def exchange (s : CallSetting σ α) : CallM σ (Outcome σ α authAllowed) := do
  let limit ← exchangeLimit s
  announce .dispatchStarted
  match ← dispatch s limit with
  | .ok response => onResponse s response
  | .error e => onNoResponse s e limit

def attempt (s : CallSetting σ α) (directive : Directive σ) (number : Nat) :
    CallM σ (Outcome σ α authAllowed) := do
  let credentials ← approach s directive number
  stampRetryHeader number
  let signer ← bindSigner s directive
  signWith signer credentials
  exchange s

end CallM

end ServiceCall
