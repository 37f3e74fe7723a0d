import ServiceCall.Client.Call
import ServiceCall.Rehearsal.Script

/-! Whole clients for rehearsals: everything but the script is as plain as it can be. -/

namespace ServiceCall.Rehearsal

/-- A pause is never drawn, and a failure is retried up to three times. -/
def config : ClientConfig Stage where
  retryPolicy :=
    { condition := .standard, backoff := .none, maxRetries := 3, honorsClient := false }

def client : Client Stage where
  config := config
  transport := transport
  surroundings := surroundings

/-- Every response is a success without a result, or else the failure. -/
def handlers (failure : ServiceError) : Handlers Stage Unit where
  response := { handle := fun r => return (.ok { result := () }, r) }
  error := fun r => return (.ok failure, r)

def subject : ServiceRequest Stage where
  root := ⟨0⟩
  service := "kec"
  action := "RunInstances"

def request : HttpRequest Stage where
  subject := subject
  method := .post
  endpoint := (Uri.ofString? "https://kec.api.example.com").getD default

/-- Everybody is who he says he is. -/
def context (signers : SignerSource Stage) (authRetry : Option (AuthRetryRule Stage)) :
    CallContext Stage where
  cancel := ⟨0⟩
  credentials := some (.fixed { keyId := "AKID", secret := "SECRET" })
  signers := signers
  authRetry := authRetry

/-- The clocks differ too much. -/
def expired : ServiceError where
  status := 403
  code := "RequestExpired"
  message := "expired"

/-- A response without content. -/
def response (status : Status) (headers : Headers) : HttpResponse :=
  .of status headers (.buffered [])

def Step.answering (status : Status) (headers : Headers) : Step where
  answer := .ok (response status headers)

def Step.timeout : Step where
  answer := .error .timeout

/-- The report of a call that is answered by the steps. -/
def rehearse (c : Client Stage) (failure : ServiceError) (context : CallContext Stage)
    (state : ClientState) (r : HttpRequest Stage) (steps : List Step) : CallReport Stage Unit :=
  (c.call (handlers failure) context state r { steps }).1

end ServiceCall.Rehearsal
