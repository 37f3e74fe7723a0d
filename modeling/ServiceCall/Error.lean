import ServiceCall.Duration
import ServiceCall.Status

/-! Failures of a call: their causes, their classes and their wording. -/

namespace ServiceCall

/-! ### Input and output -/

inductive IoErrorKind where
  | notFound | permissionDenied | connectionRefused | connectionReset | connectionAborted
  | notConnected | addrInUse | addrNotAvailable | brokenPipe | alreadyExists | wouldBlock
  | invalidInput | invalidData | timedOut | writeZero | unexpectedEof | hostUnreachable
  | networkUnreachable | networkDown | unsupported | outOfMemory | other
  deriving DecidableEq, Repr

structure IoError where
  kind : IoErrorKind
  message : String
  deriving DecidableEq, Repr

inductive TransportFault where
  | dns | connect | tls | read | other
  deriving DecidableEq, Repr

namespace TransportFault

def name : TransportFault → String
  | .dns => "dns"
  | .connect => "connect"
  | .tls => "tls"
  | .read => "read"
  | .other => "other"

end TransportFault

/-- What a transport reports when it has no response. -/
inductive TransportError where
  | io (kind : TransportFault) (source : String)
  | timeout
  deriving DecidableEq, Repr

namespace TransportError

def ofIo (e : IoError) : TransportError :=
  match e.kind with
  | .timedOut => .timeout
  | .notFound => .io .dns e.message
  | .connectionRefused | .connectionAborted | .notConnected | .addrNotAvailable =>
    .io .connect e.message
  | .connectionReset | .brokenPipe | .unexpectedEof => .io .read e.message
  | _ => .io .other e.message

def text : TransportError → String
  | .io kind source => s!"transport {kind.name} error: {source}"
  | .timeout => "transport call timed out"

end TransportError

/-! ### Failures told by the service -/

inductive Party where
  | client | service | unknown
  deriving DecidableEq, Repr

structure ServiceError where
  service : String := ""
  status : Nat
  code : String
  party : Party := .unknown
  requestId : Option String := none
  message : String
  deriving DecidableEq, Repr

namespace ServiceError

def throttlingCodes : List String := [
  "Throttling", "ThrottlingException", "ProvisionedThroughputExceededException", "SlowDown",
  "TooManyRequestsException", "LimitExceededException", "RequestLimitExceeded",
  "BandwidthLimitExceeded", "RequestThrottled"]

def clockSkewCodes : List String := [
  "RequestTimeTooSkewed", "RequestExpired", "InvalidSignatureException",
  "SignatureDoesNotMatch", "AuthFailure", "RequestInTheFuture"]

def isThrottling (e : ServiceError) : Bool := throttlingCodes.contains e.code

def isClockSkew (e : ServiceError) : Bool := clockSkewCodes.contains e.code

def isTransient (e : ServiceError) : Bool := Status.isTransient ⟨e.status⟩

def isTooLarge (e : ServiceError) : Bool := e.status = 413

def text (e : ServiceError) : String :=
  let id := e.requestId.getD "none"
  s!"{e.message} (Service: {e.service}; Status Code: {e.status}; " ++
    s!"Error Code: {e.code}; Request ID: {id})"

end ServiceError

/-! ### Failures of a call -/

inductive ErrorCode where
  | invalidUri | invalidHeaderName | invalidHeaderValue | credentials | signing | transport
  | timeout | deadlineExceeded | interrupted | readBody | service | streamReset | unmarshall
  | redirectLimitExceeded | clientShutdown | transportUnavailable
  deriving DecidableEq, Repr

namespace ErrorCode

def name : ErrorCode → String
  | .invalidUri => "invalid_uri"
  | .invalidHeaderName => "invalid_header_name"
  | .invalidHeaderValue => "invalid_header_value"
  | .credentials => "credentials"
  | .signing => "signing"
  | .transport => "transport"
  | .timeout => "timeout"
  | .deadlineExceeded => "deadline_exceeded"
  | .interrupted => "interrupted"
  | .readBody => "read_body"
  | .service => "service"
  | .streamReset => "stream_reset"
  | .unmarshall => "unmarshall"
  | .redirectLimitExceeded => "redirect_limit_exceeded"
  | .clientShutdown => "client_shutdown"
  | .transportUnavailable => "transport_unavailable"

end ErrorCode

inductive Error where
  | invalidUri (uri : String)
  | invalidHeaderName (name : String)
  | invalidHeaderValue (name : String)
  | credentials (source : String)
  | signing (method : Method) (uri source : String)
  | transport (kind : TransportFault) (method : Method) (uri source : String)
  | timeout (millis : Nat) (method : Method) (uri : String)
  | deadlineExceeded (millis : Nat) (method : Method) (uri : String)
  | interrupted (method : Method) (uri : String)
  | readBody (source : IoError)
  | service (error : ServiceError)
  | streamReset (source : IoError)
  | unmarshall (status : Nat) (reason : Option String) (message : String) (source : Option String)
  | redirectLimitExceeded (limit : Nat) (method : Method) (uri : String)
  | clientShutdown
  | transportUnavailable
  deriving DecidableEq, Repr

namespace Error

instance : Inhabited Error := ⟨.clientShutdown⟩

def code : Error → ErrorCode
  | .invalidUri _ => .invalidUri
  | .invalidHeaderName _ => .invalidHeaderName
  | .invalidHeaderValue _ => .invalidHeaderValue
  | .credentials _ => .credentials
  | .signing .. => .signing
  | .transport .. => .transport
  | .timeout .. => .timeout
  | .deadlineExceeded .. => .deadlineExceeded
  | .interrupted .. => .interrupted
  | .readBody _ => .readBody
  | .service _ => .service
  | .streamReset _ => .streamReset
  | .unmarshall .. => .unmarshall
  | .redirectLimitExceeded .. => .redirectLimitExceeded
  | .clientShutdown => .clientShutdown
  | .transportUnavailable => .transportUnavailable

/-- Failures raised below the level of responses. -/
def isIo : Error → Bool
  | .transport .. | .timeout .. | .readBody _ => true
  | _ => false

def service? : Error → Option ServiceError
  | .service e => some e
  | _ => none

def status? : Error → Option Nat
  | .service e => some e.status
  | .unmarshall status _ _ _ => some status
  | _ => none

def isThrottling (e : Error) : Bool := e.service?.any ServiceError.isThrottling

def isClockSkew (e : Error) : Bool := e.service?.any ServiceError.isClockSkew

def invalidHeaderNameText : String := "invalid HTTP header name"

def invalidHeaderValueText : String := "failed to parse header value"

def text : Error → String
  | .invalidUri uri => s!"invalid request uri: {uri}"
  | .invalidHeaderName name => s!"invalid header name {name}: {invalidHeaderNameText}"
  | .invalidHeaderValue name => s!"invalid header value for {name}: {invalidHeaderValueText}"
  | .credentials source => s!"unable to load credentials: {source}"
  | .signing method uri source =>
    s!"unable to sign request for {method.name} {uri}: {source}"
  | .transport kind method uri source =>
    s!"unable to execute http request ({kind.name}) for {method.name} {uri}: {source}"
  | .timeout millis method uri =>
    s!"http request timed out in attempt after {millis}ms for {method.name} {uri}"
  | .deadlineExceeded millis method uri =>
    s!"client execution timed out after {millis}ms for {method.name} {uri}"
  | .interrupted method uri => s!"call was cancelled for {method.name} {uri}"
  | .readBody source => s!"failed to read response body: {source.message}"
  | .service e => e.text
  | .streamReset source => s!"failed to reset the request body for retry: {source.message}"
  | .unmarshall status reason message _ =>
    let reason := reason.getD "none"
    s!"unable to unmarshall response ({message}). Response Code: {status}, Response Text: {reason}"
  | .redirectLimitExceeded limit method uri =>
    s!"redirect limit exceeded ({limit}) for {method.name} {uri}"
  | .clientShutdown => "client has been shut down"
  | .transportUnavailable =>
    "no transport configured and the \x60ureq-transport\x60 feature is disabled"

/-- Text of the failure that caused this one. -/
def source? : Error → Option String
  | .invalidHeaderName _ => some invalidHeaderNameText
  | .invalidHeaderValue _ => some invalidHeaderValueText
  | .credentials source => some source
  | .signing _ _ source => some source
  | .transport _ _ _ source => some source
  | .readBody source => some source.message
  | .streamReset source => some source.message
  | .unmarshall _ _ _ source => source
  | _ => none

/-- The key under which a client counts the failure. -/
def countKey (e : Error) : String :=
  match e.service? with
  | some s => "service:" ++ s.code
  | none => e.code.name

end Error

/-! ### Failures of a handler -/

inductive HandlerFailure where
  | failure (error : Error)
  | io (error : IoError)
  | json (detail : String)
  | other (message : String)
  deriving DecidableEq, Repr

namespace HandlerFailure

def text : HandlerFailure → String
  | .failure e => e.text
  | .io e => s!"failed to read response: {e.message}"
  | .json detail => s!"failed to decode response json: {detail}"
  | .other message => message

end HandlerFailure

end ServiceCall
