import ServiceCall.Client.Run

/-!
Failures told by responses. The status and the service of such a failure are those of the
response and of the call, whatever its handler says. A response that is too large or comes from
a failing server always tells a failure, even if nobody can read it.
-/

namespace ServiceCall

namespace ServiceError

def tooLargeText : String := "Request entity too large"

def tooLarge : ServiceError where
  status := 413
  code := tooLargeText
  message := tooLargeText
  party := .client

/-- The failure of a server that tells no more than its status. -/
def ofServer (status : Status) (reason : Option String) : ServiceError :=
  let text := reason.getD s!"{status.code}"
  { status := status.code, code := text, message := text, party := .service }

/-- The failure of a request that should go elsewhere but cannot be sent again. -/
def cannotFollow (service location : String) : ServiceError where
  service := service
  status := 307
  code := "TemporaryRedirect"
  message := s!"redirect to {location} needs a repeatable request body"
  party := .client

/-- What the response says about a failure goes before what its handler says, the identifier of
the request apart. -/
def settled (e : ServiceError) (service : String) (status : Status) (requestId : Option String) :
    ServiceError :=
  { e with service, status := status.code, requestId := e.requestId <|> requestId }

end ServiceError

/-- What becomes of the failure of an error handler. -/
def HandlerFailure.asFailure (status : Status) (reason : Option String) (e : HandlerFailure) :
    Except Error ServiceError :=
  if status = .payloadTooLarge then .ok .tooLarge
  else if status.isServerError then .ok (.ofServer status reason)
  else
    match e with
    | .failure error => .error error
    | .io source => .error (.readBody source)
    | _ =>
      .error (.unmarshall status.code reason
        s!"unable to unmarshall error response: {e.text}" (some e.text))

namespace CallM

variable {σ α : Type}

/-- Reads the failure that a response tells. -/
def readFailure (s : CallSetting σ α) (r : HttpResponse) :
    CallM σ (Except Error ServiceError × HttpResponse) := do
  let (answer, read) ← perform (s.handlers.error r)
  let failure : Except Error ServiceError := match answer with
    | .ok failure => .ok failure
    | .error e => e.asFailure r.status r.reason
  let service := (← request).subject.service
  return (failure.map (·.settled service r.status read.requestId?), read)

end CallM

end ServiceCall
