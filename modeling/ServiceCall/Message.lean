import ServiceCall.Request.Http

/-!
Messages: what goes over the wire for a request. The parameters go either into the payload or
into the address, and never into both.
-/

namespace ServiceCall

namespace HttpRequest

variable {σ : Type}

/-- The form of the parameters, if they are sent as one. -/
def form? (r : HttpRequest σ) : Option String := if r.sendsForm then r.encodedParameters? else none

/-- The address that is dialled. -/
def dialled (r : HttpRequest σ) : Except Error Uri :=
  if r.form?.isSome then r.bareUri else r.fullUri

/-- The form, or else the rest of the body, which is used up by reading it. -/
def payload (r : HttpRequest σ) : Except IoError Bytes × HttpRequest σ :=
  match r.form? with
  | some form => (.ok (Bytes.ofString form), r)
  | none =>
    let (bytes, body) := r.body.readRemaining
    (bytes, { r with body })

end HttpRequest

structure Message where
  method : Method
  address : Uri
  headers : Headers
  payload : Bytes

namespace Message

def contentType : String := "application/x-www-form-urlencoded; charset=utf-8"

def usualPort (u : Uri) : Nat := if u.scheme = some .https then 443 else 80

/-- The host, with its port unless it is the usual one. -/
def host? (u : Uri) : Option String :=
  u.host?.map fun host =>
    match u.port? with
    | some port => if port = usualPort u then host else s!"{host}:{port}"
    | none => host

/-- Enters a field that the headers do not have yet. -/
def supply (h : Headers) (name : String) (value : Option String) : Headers :=
  if h.contains name then h
  else
    match value.bind HeaderValue.ofString? with
    | some v => h.set name v
    | none => h

variable {σ : Type}

/-- The message for a request, and the request with its body read. -/
def of (r : HttpRequest σ) : Except TransportError Message × HttpRequest σ :=
  match r.dialled with
  | .error e => (.error (.io .other e.text), r)
  | .ok address =>
    match r.payload with
    | (.error e, r) => (.error (.ofIo e), r)
    | (.ok payload, r) =>
      let headers := supply (supply r.headers "host" (host? address)) "content-type" contentType
      (.ok { method := r.method, address, headers, payload }, r)

end Message

end ServiceCall
