import ServiceCall.Address
import ServiceCall.Body
import ServiceCall.Headers
import ServiceCall.Request.Service

/-!
Requests as they are sent. A request without payload that is posted carries its parameters as a
form; all others carry them in their address. While a redirect is followed its target is the
address, whatever endpoint, path and parameters say.
-/

namespace ServiceCall

/-- Values that hooks leave for each other under a name; they are never sent. -/
abbrev Notes := List (String × String)

structure HttpRequest (σ : Type) where
  subject : ServiceRequest σ
  method : Method
  endpoint : Uri
  path : String := ""
  headers : Headers := {}
  parameters : Parameters := {}
  body : Body := .empty
  timeOffset : Int := 0
  notes : Notes := []
  redirectTarget : Option Uri := none

namespace HttpRequest

variable {σ : Type}

instance : Inhabited (HttpRequest σ) :=
  ⟨{ subject := default, method := default, endpoint := default }⟩

/-- Reads the endpoint. -/
def parse (subject : ServiceRequest σ) (method : Method) (endpoint : String) :
    Except Error (HttpRequest σ) :=
  match Uri.ofString? endpoint with
  | some endpoint => .ok { subject, method, endpoint }
  | none => .error (.invalidUri endpoint)

/-- Replaces all values under a name. -/
def setHeader (r : HttpRequest σ) (name value : String) : Except Error (HttpRequest σ) :=
  match HeaderName.ofString? name with
  | none => .error (.invalidHeaderName name)
  | some key =>
    match HeaderValue.ofString? value with
    | none => .error (.invalidHeaderValue name)
    | some v => .ok { r with headers := r.headers.set key v }

def addParameter (r : HttpRequest σ) (name value : String) : HttpRequest σ :=
  { r with parameters := r.parameters.add name value }

/-! ### Addresses -/

def encodedParameters? (r : HttpRequest σ) : Option String := Form.encode? r.parameters

def addressText (r : HttpRequest σ) (withParameters : Bool) : List Char :=
  Address.withQuery (Address.below r.endpoint r.path)
    (if withParameters then r.encodedParameters? else none)

def address (r : HttpRequest σ) (withParameters : Bool) : Except Error Uri :=
  match r.redirectTarget with
  | some target => .ok target
  | none =>
    let text := String.ofList (r.addressText withParameters)
    match Uri.ofString? text with
    | some u => .ok u
    | none => .error (.invalidUri text)

/-- The address with the parameters. -/
def fullUri (r : HttpRequest σ) : Except Error Uri := r.address true

/-- The address without the parameters. -/
def bareUri (r : HttpRequest σ) : Except Error Uri := r.address false

/-- Whether the parameters are sent as a form. -/
def sendsForm (r : HttpRequest σ) : Bool :=
  r.method = Method.post && r.redirectTarget.isNone && r.body.isEmpty && !r.parameters.isEmpty

/-- The address for messages. -/
def loggedUri (r : HttpRequest σ) : String :=
  match r.fullUri with
  | .ok u => Address.redact u.text
  | .error _ => Address.redact r.endpoint.text

def inspect (r : HttpRequest σ) : String :=
  Inspect.record "WireRequest" [
    ("service_name", Inspect.string r.subject.service),
    ("method", r.method.name),
    ("endpoint", r.endpoint.text),
    ("resource_path", Inspect.string r.path),
    ("parameters", Inspect.table (Inspect.list Inspect.string) r.parameters.entries),
    ("body", r.body.inspect),
    ("time_offset", s!"{r.timeOffset}")]

end HttpRequest

end ServiceCall
