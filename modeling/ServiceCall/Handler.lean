import ServiceCall.Json
import ServiceCall.Response

/-!
Handlers turn responses into results or into failures. The handlers for JSON read the document
of a response and the envelope of a failure.
-/

namespace ServiceCall

structure Handled (α : Type) where
  result : α
  metadata : Option Metadata := none

/-- Reads a successful response. With `keepsOpen` the body is not read into memory first. -/
structure ResultHandler (σ α : Type) where
  keepsOpen : Bool := false
  handle : HttpResponse → StateM σ (Except HandlerFailure (Handled α) × HttpResponse)

/-- Reads the failure that a response tells. -/
abbrev FailureHandler (σ : Type) :=
  HttpResponse → StateM σ (Except HandlerFailure ServiceError × HttpResponse)

structure Handlers (σ α : Type) where
  response : ResultHandler σ α
  error : FailureHandler σ

namespace JsonHandler

def malformed : HandlerFailure := .json "not a document of the expected form"

/-! ### Results -/

/-- The result and the request identifier, which the document gives before the header does. -/
def readResult {α : Type} (decode : Json → Option α) (r : HttpResponse) :
    Except HandlerFailure (Handled α) × HttpResponse :=
  match r.buffer with
  | (.error e, r) => (.error (.io e), r)
  | (.ok body, r) =>
    match Json.ofBytes? body with
    | none => (.error malformed, r)
    | some document =>
      match decode document with
      | none => (.error malformed, r)
      | some result =>
        let requestId := (document.get? "RequestId").bind Json.string? <|> r.requestId?
        (.ok { result, metadata := some { requestId } }, r)

/-! ### Failures -/

structure Detail where
  code : Option String
  message : Option String
  party : Option String

structure Envelope where
  requestId : Option String
  detail : Option Detail

def optionalText? : Json.Tree → Option (Option String)
  | .null => some none
  | .string raw => (Json.readString? raw).map some
  | _ => none

/-- The names of the members, read as text. -/
def readNames? (members : List (Bytes × Json.Tree)) : Option (List (String × Json.Tree)) :=
  members.mapM fun (raw, t) => (Json.readString? raw).map (·, t)

/-- The one member of a name: absent, present, or refused if there is more than one. -/
def member? {α : Type} (members : List (String × Json.Tree)) (name : String)
    (read : Json.Tree → Option (Option α)) : Option (Option α) :=
  match members.filter (·.1 = name) with
  | [] => some none
  | [(_, t)] => read t
  | _ => none

def readDetail? : Json.Tree → Option (Option Detail)
  | .null => some none
  | .array [code, message, party] => do
    some (some ⟨← optionalText? code, ← optionalText? message, ← optionalText? party⟩)
  | .object members => do
    let members ← readNames? members
    let code ← member? members "Code" optionalText?
    let message ← member? members "Message" optionalText?
    let party ← member? members "Type" optionalText?
    some (some ⟨code, message, party⟩)
  | _ => none

def readEnvelope? : Json.Tree → Option Envelope
  | .array [requestId, detail] => do
    some ⟨← optionalText? requestId, ← readDetail? detail⟩
  | .object members => do
    let members ← readNames? members
    let requestId ← member? members "RequestId" optionalText?
    let detail ← member? members "Error" readDetail?
    some ⟨requestId, detail⟩
  | _ => none

/-- Blanks of any kind that may fill an empty body. -/
def isBlank (b : UInt8) : Bool := b = 0x20 || b = 0x09 || b = 0x0A || b = 0x0C || b = 0x0D

def excerptLength : Nat := 2048

/-- The beginning of a body as text. -/
def excerpt (body : Bytes) : String :=
  let cs := (Bytes.toStringLossy body).toList
  if cs.length ≤ excerptLength then String.ofList cs
  else String.ofList (cs.take excerptLength) ++ "...(truncated)"

/-- The side that is to blame: as told, or else by the status. -/
def party (told : Option String) (status : Nat) : Party :=
  if told = some "Sender" ∨ told = some "Client" then .client
  else if told = some "Receiver" ∨ told = some "Service" then .service
  else if 500 ≤ status then .service
  else .client

def failureOf (service : String) (r : HttpResponse) (requestId : Option String) (d : Detail) :
    ServiceError :=
  { service
    status := r.status.code
    code := d.code.getD s!"{r.status.code}"
    party := party d.party r.status.code
    requestId := requestId <|> r.requestId?
    message := d.message.getD "" }

/-- The failure in an envelope with the members `RequestId` and `Error`. -/
def readFailure (service : String) (r : HttpResponse) :
    Except HandlerFailure ServiceError × HttpResponse :=
  match r.buffer with
  | (.error e, r) => (.error (.io e), r)
  | (.ok body, r) =>
    if body.all isBlank then (.error (.other "empty error response body"), r)
    else
      match (Json.Tree.ofBytes? body).bind readEnvelope? with
      | none => (.error malformed, r)
      | some ⟨_, none⟩ =>
        (.error (.other s!"error response has no Error element: {excerpt body}"), r)
      | some ⟨requestId, some detail⟩ => (.ok (failureOf service r requestId detail), r)

def inspect : String := "JsonResponseHandler"

end JsonHandler

end ServiceCall
