import ServiceCall.Handler
import ServiceCall.Hook
import ServiceCall.Metrics
import ServiceCall.Rehearsal.Stage
import ServiceCall.Retry.Policy
import ServiceCall.Signing

/-! The collaborators of a rehearsal, each played from a script and written down in one log. -/

namespace ServiceCall.Rehearsal

/-! ### Listener and collector -/

def milestone : Milestone → String
  | .callStarted => "ClientRequestStarted"
  | .requestLength n => s!"RequestContentLength={n}"
  | .retryStarted => "ClientRequestRetry"
  | .dispatchStarted => "HttpRequestStarted"
  | .dispatchCompleted => "HttpRequestCompleted"
  | .responseStarted => "HttpResponseStarted"
  | .responseLength n => s!"ResponseContentLength={n}"
  | .responseCompleted => "HttpResponseCompleted"
  | .callSucceeded => "ClientRequestSucceeded"
  | .callFailed => "ClientRequestFailed"

def listener : MilestoneListener Stage := fun event => say ("event:" ++ milestone event)

def collector (m : CallMetrics) : Act Unit :=
  let status := (m.status.map fun n => s!"{n}").getD "none"
  say (s!"collect:{m.service}:{m.action}:requests={m.requests}:throttles={m.throttles}"
    ++ s!":capacity={m.capacityConsumed}:exceptions={m.exceptions}:status={status}")

/-! ### Credentials and signers -/

structure CredentialsScript where
  credentials : Credentials
  lasts : Duration := .zero
  refusal : Option String := none

def CredentialsScript.ask (c : CredentialsScript) : Act (Except String Credentials) := do
  say ("credentials:" ++ c.credentials.keyId)
  pass c.lasts
  match c.refusal with
  | some text => return .error text
  | none => return .ok c.credentials

def CredentialsScript.source (c : CredentialsScript) : CredentialsSource Stage := c.ask

def SignerScript.sign (r : HttpRequest Stage) (c : Credentials) :
    SignerScript → Act (Except String Unit × HttpRequest Stage)
  | .idle => return (.ok (), r)
  | .named name lasts refusal addsParameter => do
    let token := c.token.getD "-"
    let target := match r.fullUri with
      | .ok u => u.text
      | .error _ => ""
    say s!"sign:{name}:{c.keyId}:{c.secret}:{token}:offset={r.timeOffset}:{target}"
    pass lasts
    match refusal, r.setHeader "authorization" s!"{name} {c.keyId} {r.timeOffset}" with
    | some text, _ => return (.error text, r)
    | none, .error e => return (.error e.text, r)
    | none, .ok signed =>
      return (.ok (), if addsParameter then signed.addParameter "Signature" name else signed)

def SignerScript.signer (s : SignerScript) : Signer Stage := ⟨fun r c => s.sign r c⟩

/-- Signers by host; addresses without a host share the empty one. -/
def signersByHost (signers : List (String × SignerScript)) : SignerSource Stage := fun uri => do
  say ("signer_for:" ++ uri.text)
  return (signers.lookup (uri.host?.getD "")).map SignerScript.signer

/-- Gives its answers one by one, and then none. -/
def authRetry (rule : Nat) : AuthRetryRule Stage := fun r e => do
  say s!"auth:{e.status}:{e.code}:{r.endpoint.text}"
  match (← get).replies.find? rule with
  | some (reply :: rest) =>
    modify fun s => { s with replies := s.replies.insert rule rest }
    return reply.map fun reply => ⟨reply.signer.map SignerScript.signer, reply.endpoint⟩
  | _ => return none

/-! ### Retries -/

def failedText (d : FailedAttempt Stage) : String :=
  s!"{d.request.action}:attempts={d.attempts}:retries={d.retries}"
    ++ s!":repeatable={d.repeatable}:{d.error.code.name}"

inductive ConditionScript where
  | standard | never | always
  | codes (listed : List String)

def ConditionScript.holds (d : FailedAttempt Stage) : ConditionScript → Act Bool
  | .standard => RetryRule.standard d
  | .never => RetryRule.never d
  | .always => return true
  | .codes listed =>
    return listed.contains ((d.error.service?.map ServiceError.code).getD d.error.code.name)

def ConditionScript.condition (c : ConditionScript) : RetryRule Stage := fun d => do
  let admitted ← c.holds d
  say s!"condition:{failedText d}:{admitted}"
  return admitted

/-- The pause after the first attempt, after the second and so on; each may cancel the call. -/
def delays (script : List (Duration × Bool)) : PauseRule Stage := fun d => do
  say s!"backoff:{failedText d}"
  match d.attempts with
  | 0 => return .zero
  | n + 1 =>
    let (delay, cancels) := script.getD n (.zero, false)
    if cancels then cancelRunning
    return delay

/-! ### Hooks -/

structure HookScript where
  name : String
  customHeader : Option (String × String) := none
  setHeader : Option (String × String) := none
  addParameter : Option (String × String) := none
  setPath : Option String := none
  readBody : Option Nat := none
  timeOffset : Option Int := none
  leavesTrail : Bool := false
  cancels : Bool := false
  responseHeader : Option (String × HeaderValue) := none
  replacement : Option HttpResponse := none

namespace HookScript

def trail : String := "trail"

/-- The names on the trail and the length of the payload that is left. -/
def positionText (r : HttpRequest Stage) : String :=
  let names := "+".intercalate ((r.notes.filter (·.1 = trail)).map Prod.snd)
  let left := (r.body.length?.map fun n => s!"{n}").getD "unknown"
  s!"trail={names}:left={left}"

def line (h : HookScript) (phase : String) (r : HttpRequest Stage) (rest : String) : Act Unit :=
  say s!"hook:{phase}:{h.name}:{positionText r}:{rest}"

def stamp (h : HookScript) (r : HttpRequest Stage) : Act (HttpRequest Stage) := do
  match h.setHeader with
  | none => return r
  | some (name, value) =>
    match r.setHeader name value with
    | .ok r => return r
    | .error e =>
      say s!"hook:failed:{h.name}:{e.text}"
      return r

/-- A read that fails counts as one that gave nothing. -/
def read (h : HookScript) (r : HttpRequest Stage) : Act (HttpRequest Stage) := do
  match h.readBody with
  | none => return r
  | some n =>
    let (got, body) := r.body.readUpTo n
    let taken := match got with
      | .ok got => got.length
      | .error _ => 0
    say s!"hook:read:{h.name}:{taken}"
    return { r with body }

def beforeSend (h : HookScript) (r : HttpRequest Stage) : Act (HttpRequest Stage) := do
  h.line "send" r s!"{r.headers.size}"
  let r ← h.stamp r
  let r := match h.addParameter with
    | some (name, value) => r.addParameter name value
    | none => r
  let r ← h.read { r with path := h.setPath.getD r.path }
  if h.cancels then cancelRunning
  return { r with
    timeOffset := h.timeOffset.getD r.timeOffset
    notes := if h.leavesTrail then r.notes ++ [(trail, h.name)] else r.notes }

def beforeUnmarshal (h : HookScript) (r : HttpRequest Stage) (response : HttpResponse) :
    Act HttpResponse := do
  h.line "unmarshal" r s!"{response.status.code}"
  let headers := match h.responseHeader with
    | some (name, value) => response.headers.set name value
    | none => response.headers
  return h.replacement.getD { response with headers }

def hook (h : HookScript) : Hook Stage where
  beforeMarshal r := do
    say s!"hook:marshal:{h.name}:{r.action}"
    return (h.customHeader.map fun (name, value) => r.withHeader name value).getD r
  beforeSend := h.beforeSend
  beforeUnmarshal := h.beforeUnmarshal
  afterResponse r status headers := h.line "response" r s!"{status.code}:{headers.size}"
  afterError r e := h.line "error" r e.code.name

end HookScript

/-! ### Handlers -/

/-- Writes down whether the response is still to be read. -/
def responseHandler {α : Type} (keepsOpen : Bool)
    (handle : HttpResponse → Except HandlerFailure (Handled α) × HttpResponse) :
    ResultHandler Stage α where
  keepsOpen := keepsOpen
  handle r := do
    say s!"handle:streaming={r.isStreaming}"
    return handle r

def errorHandler (handle : HttpResponse → Except HandlerFailure ServiceError × HttpResponse) :
    FailureHandler Stage := fun r => do
  say s!"handle_error:{r.status.code}"
  return handle r

end ServiceCall.Rehearsal
