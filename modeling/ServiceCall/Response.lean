import ServiceCall.Response.Metadata
import ServiceCall.Response.Http

/-! What a call that succeeded gives its caller. -/

namespace ServiceCall

structure Response (α : Type) where
  value : α
  status : Status
  headers : Headers
  metadata : Option Metadata

namespace Response

variable {α : Type}

/-- The identifier in the metadata or else in the header fields. -/
def requestId? (r : Response α) : Option String :=
  r.metadata.bind Metadata.requestId <|> r.headers.text? HttpResponse.requestIdHeader

end Response

end ServiceCall
