import ServiceCall.Client.Turn

/-!
Calls: a request is completed with what the client knows, sent by as many attempts as it takes,
and reported on. A call that fails gives capacity back if it took some, and leaves a repeatable
body where it was. Where sums are checked, a call that leaves the bits of one does not report at
all.
-/

namespace ServiceCall

/-- A sum that has left its bits. -/
inductive Overflow where
  | capacityConsumed
  deriving DecidableEq, Repr

structure CallReport (σ α : Type) where
  result : Except Error (Response α)
  request : HttpRequest σ
  context : CallContext σ
  client : ClientState
  journal : Journal σ

namespace CallM

variable {σ α : Type}

/-! ### The request -/

def invocationIdHeader : String := "x-sdk-invocation-id"

def stampAll : List (String × String) → CallM σ Unit
  | [] => pure ()
  | (name, value) :: rest => do
    stampHeader name value
    stampAll rest

def addCustomParameters (p : Parameters) (r : HttpRequest σ) : HttpRequest σ :=
  p.entries.foldl (fun r (name, values) => values.foldl (·.addParameter name ·) r) r

def userAgent (s : CallSetting σ α) (subject : ServiceRequest σ) : String :=
  match subject.userAgentMarker with
  | some marker => s!"{s.client.config.userAgent} {marker}"
  | none => s.client.config.userAgent

/-- Enters what the caller asked for, then the name of the call and the user agent. -/
def enrich (s : CallSetting σ α) : CallM σ Unit := do
  let subject := (← request).subject
  stampAll subject.customHeaders.entries
  revise (addCustomParameters subject.customParameters)
  stampHeader invocationIdHeader (← perform s.client.surroundings.invocationId)
  stampHeader "user-agent" (userAgent s subject)

def beforeSend (s : CallSetting σ α) : CallM σ Unit :=
  s.context.hooks.zipIdx.forM fun (hook, position) => do
    record (.hook .beforeSend position)
    performOnRequest fun r world =>
      let (r, world) := hook.beforeSend r world
      (((), r), world)

/-! ### The attempts -/

/-- Sets the mark to which the body goes back, unless every attempt sets one, and makes the
attempts. -/
def attempts (s : CallSetting σ α) : CallM σ (Response α) := do
  let r ← request
  unless r.body.isRemarked do markBody
  turns s (.of r) {} .start

def giveCapacityBack (s : CallSetting σ α) (run : Run σ) : Run σ :=
  if run.tookCapacity then
    { run with
      client := { run.client with pool := run.client.pool.release s.retryCost }
      journal := run.journal ++ [.capacityReturned s.retryCost] }
  else run

/-- A body that cannot go back stays as it is. -/
def rewind (run : Run σ) : Run σ :=
  if run.request.body.isRepeatable then
    match run.request.body.reset with
    | .ok body => { run with request := { run.request with body } }
    | .error _ => run
  else run

def conduct (s : CallSetting σ α) : CallM σ (Response α) := do
  enrich s
  beforeSend s
  onFailure (attempts s) fun run => rewind (giveCapacityBack s run)

/-! ### The report -/

def afterResponse (s : CallSetting σ α) (response : Response α) : CallM σ Unit :=
  s.context.hooks.zipIdx.reverse.forM fun (hook, position) => do
    record (.hook .afterResponse position)
    perform (hook.afterResponse (← request) response.status response.headers)

def afterError (s : CallSetting σ α) (e : Error) : CallM σ Unit :=
  s.context.hooks.zipIdx.reverse.forM fun (hook, position) => do
    record (.hook .afterError position)
    perform (hook.afterError (← request) e)

def collect (s : CallSetting σ α) : CallM σ Unit := do
  if let some tell := s.client.collector then perform (tell (← get).metrics)

def begin (s : CallSetting σ α) (listener : Option (MilestoneListener σ)) : CallM σ Unit := do
  countForClient s .begun
  announceTo listener .callStarted
  if let some length := (← request).body.length? then announceTo listener (.requestLength length)

/-- Runs the actions and gives what they came to as a value. -/
def settle {β : Type} (act : CallM σ β) : CallM σ (Except Error β) := fun run =>
  match act run with
  | .ok value run => .ok (.ok value) run
  | .error e run => .ok (.error e) run

def finish (s : CallSetting σ α) (listener : Option (MilestoneListener σ)) :
    Except Error (Response α) → CallM σ Unit
  | .ok response => do
    afterResponse s response
    announceTo listener .callSucceeded
    let status := (← get).metrics.status
    countForClient s (·.completedOk status)
  | .error e => do
    afterError s e
    announceTo listener .callFailed
    countForClient s (·.completedError e)

def call (s : CallSetting σ α) : CallM σ (Except Error (Response α)) := do
  let listener := (← request).subject.listener
  begin s listener
  let result ← settle (conduct s)
  finish s listener result
  collect s
  countForClient s .ended
  return result

end CallM

namespace Client

variable {σ α : Type}

/-- The setting of a call that starts at the reading of the clock. Limits of the request go
before those of the client. -/
def setting (c : Client σ) (context : CallContext σ) (handlers : Handlers σ α)
    (subject : ServiceRequest σ) (startedAt : Nat) : CallSetting σ α where
  client := c
  context := context
  handlers := handlers
  budget := {
    attemptLimit := subject.requestTimeout <|> c.config.requestTimeout
    callLimit := subject.executionTimeout <|> c.config.executionTimeout
    startedAt }

/-- The run of a call before it has done anything. -/
def run (state : ClientState) (request : HttpRequest σ) (world : σ) : Run σ where
  world := world
  client := state
  request := request
  metrics := { service := request.subject.service, action := request.subject.action }

/-- One call, from the request to its result. A client that has been shut down refuses it and
touches nothing. -/
def call (c : Client σ) (handlers : Handlers σ α) (context : CallContext σ) (state : ClientState)
    (request : HttpRequest σ) : StateM σ (CallReport σ α) := fun world =>
  if state.isShutDown then
    ({ result := .error .clientShutdown, request, context, client := state, journal := [] }, world)
  else
    let (now, world) := c.surroundings.now world
    let setting := c.setting context handlers request.subject now
    let report (result : Except Error (Response α)) (run : Run σ) : CallReport σ α × σ :=
      ({ result
         request := run.request
         context := { context with metrics := run.metrics, tookCapacity := run.tookCapacity }
         client := run.client
         journal := run.journal }, run.world)
    match CallM.call setting (run state request world) with
    | .ok result run => report result run
    | .error e run => report (.error e) run

/-- The call where sums are checked. One that leaves its 64 bits ends the call on the spot: there is
no report, and nobody is told. -/
def checkedCall (c : Client σ) (handlers : Handlers σ α) (context : CallContext σ)
    (state : ClientState) (request : HttpRequest σ) :
    StateT σ (Except Overflow) (CallReport σ α) := fun world =>
  let (report, world) := c.call handlers context state request world
  if !state.isShutDown && report.context.metrics.overflowed then .error .capacityConsumed
  else .ok (report, world)

end Client

end ServiceCall
