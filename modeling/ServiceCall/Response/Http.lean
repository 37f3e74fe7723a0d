import ServiceCall.Body.Source
import ServiceCall.Headers
import ServiceCall.Text.Quoted

/-! Responses as a transport hands them over, before anything has read them. -/

namespace ServiceCall

inductive ResponseContent where
  | buffered (data : Bytes)
  | streaming (source : Source)

namespace ResponseContent

def inspect : ResponseContent → String
  | .buffered data => s!"Buffered({data.length})"
  | .streaming _ => "Stream"

end ResponseContent

structure HttpResponse where
  status : Status
  reason : Option String
  headers : Headers
  body : ResponseContent

namespace HttpResponse

instance : Inhabited HttpResponse := ⟨⟨.ok, none, {}, .buffered []⟩⟩

/-- The reason is the registered phrase of the status. -/
def of (status : Status) (headers : Headers) (body : ResponseContent) : HttpResponse :=
  ⟨status, status.phrase?, headers, body⟩

def requestIdHeader : String := "x-ksc-request-id"

def requestId? (r : HttpResponse) : Option String := r.headers.text? requestIdHeader

def isStreaming (r : HttpResponse) : Bool :=
  match r.body with
  | .streaming _ => true
  | .buffered _ => false

/-- Reads a stream into memory. -/
def buffer (r : HttpResponse) : Except IoError Bytes × HttpResponse :=
  match r.body with
  | .buffered data => (.ok data, r)
  | .streaming source =>
    match source.readAll with
    | (.ok data, _) => (.ok data, { r with body := .buffered data })
    | (.error e, source) => (.error e, { r with body := .streaming source })

/-- Takes the body away and leaves an empty one. -/
def takeBody (r : HttpResponse) : ResponseContent × HttpResponse :=
  (r.body, { r with body := .buffered [] })

end HttpResponse

end ServiceCall
