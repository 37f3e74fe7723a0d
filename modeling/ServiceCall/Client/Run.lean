import ServiceCall.Client
import ServiceCall.Client.Budget
import ServiceCall.Client.Journal

/-!
Runs: the state of a call under way, and the actions of which a call is made. An action either
has a result or ends the call with a failure; the state is kept in both cases.
-/

namespace ServiceCall

structure Run (σ : Type) where
  world : σ
  client : ClientState
  request : HttpRequest σ
  metrics : CallMetrics := {}
  tookCapacity : Bool := false
  binding : BoundSigner σ := .unbound
  lastBackoff : Duration := .zero
  journal : Journal σ := []

/-- What stays the same during a call. -/
structure CallSetting (σ α : Type) where
  client : Client σ
  context : CallContext σ
  handlers : Handlers σ α
  budget : CallBudget

namespace CallSetting

variable {σ α : Type}

def limits (s : CallSetting σ α) : CallLimits where
  redirects := s.client.config.maxRedirects
  authRetries := s.client.config.maxAuthRetries
  retries := s.client.config.maxRetries

def retryCost (s : CallSetting σ α) : Nat := s.client.config.capacityPolicy.cost

end CallSetting

abbrev CallM (σ : Type) := EStateM Error (Run σ)

namespace CallM

variable {σ α β : Type}

def record (event : Event σ) : CallM σ Unit := fun run =>
  .ok () { run with journal := run.journal ++ [event] }

/-- Lets a collaborator act. -/
def perform (act : StateM σ β) : CallM σ β := fun run =>
  let (value, world) := act run.world
  .ok value { run with world }

def request : CallM σ (HttpRequest σ) := fun run => .ok run.request run

def revise (f : HttpRequest σ → HttpRequest σ) : CallM σ Unit := fun run =>
  .ok () { run with request := f run.request }

/-- Lets a collaborator act on the request. -/
def performOnRequest (act : HttpRequest σ → StateM σ (β × HttpRequest σ)) : CallM σ β := fun run =>
  let ((value, request), world) := act run.request run.world
  .ok value { run with world, request }

def count (f : CallMetrics → CallMetrics) : CallM σ Unit := fun run =>
  .ok () { run with metrics := f run.metrics }

/-- Changes the metrics of the client, if it keeps any. -/
def countForClient (s : CallSetting σ α) (f : ClientMetrics → ClientMetrics) : CallM σ Unit :=
  fun run =>
    if s.client.config.metricsEnabled then
      .ok () { run with client := { run.client with metrics := f run.client.metrics } }
    else .ok () run

/-- The value, or the failure under a name of its own. -/
def ofExcept {ε : Type} (name : ε → Error) : Except ε β → CallM σ β
  | .ok value => fun run => .ok value run
  | .error e => fun run => .error (name e) run

/-- Runs `undo` after a failure, which stays the same. -/
def onFailure (act : CallM σ β) (undo : Run σ → Run σ) : CallM σ β := fun run =>
  match act run with
  | .ok value run => .ok value run
  | .error e run => .error e (undo run)

/-! ### Milestones and hooks -/

def announceTo (listener : Option (MilestoneListener σ)) (event : Milestone) : CallM σ Unit := do
  record (.milestone event)
  match listener with
  | some tell => perform (tell event)
  | none => pure ()

def announce (event : Milestone) : CallM σ Unit := do
  announceTo (← request).subject.listener event

@[irreducible]
def stampHeader (name value : String) : CallM σ Unit := do
  let stamped ← ofExcept id ((← request).setHeader name value)
  revise fun _ => stamped

/-! ### Time -/

def readClock (s : CallSetting σ α) : CallM σ Nat := do
  let now ← perform s.client.surroundings.now
  record (.clockRead now)
  return now

def readFlag (s : CallSetting σ α) : CallM σ Bool := do
  let cancelled ← perform (s.client.surroundings.isCancelled s.context.cancel)
  record (.cancelRead cancelled)
  return cancelled

/-- A call without time limit does not look at the clock. -/
def timeIsUp (s : CallSetting σ α) : CallM σ Bool := do
  match s.budget.callLimit with
  | some _ => return s.budget.isOver (← readClock s)
  | none => return false

def deadlineExceeded (s : CallSetting σ α) (r : HttpRequest σ) : Error :=
  .deadlineExceeded (s.budget.callLimit.getD .zero).millis r.method r.loggedUri

def interrupted (r : HttpRequest σ) : Error := .interrupted r.method r.loggedUri

/-- Fails if the time is up, or else if the call has been cancelled. -/
def checkInterruption (s : CallSetting σ α) : CallM σ Unit := do
  if ← timeIsUp s then throw (deadlineExceeded s (← request))
  if ← readFlag s then throw (interrupted (← request))

end CallM

end ServiceCall
