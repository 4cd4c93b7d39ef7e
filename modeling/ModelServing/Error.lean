import ModelServing.ApiError
import ModelServing.Duration
import ModelServing.Url.Fault
/-! Everything that can go wrong between a caller and the service. -/
namespace ModelServing

inductive SocketFault where
  | closed
  | alreadyClosed
  | unreachable
  deriving DecidableEq, Repr

def SocketFault.message : SocketFault → String
  | .closed => "Connection closed normally"
  | .alreadyClosed => "Trying to work with closed connection"
  | .unreachable => "Connection refused"

inductive Error where
  | inputRequired (what : String)
  | noApiKey
  | api (e : ApiError)
  | timeout (after : Duration)
  | socket (fault : SocketFault)
  | http
  | malformedJson
  | eventStream (what : String)
  | url (fault : Url.Fault)
  | headerValue
  | headerName
  | connectionClosed
  | sessionClosed
  | cancelled
  deriving DecidableEq, Repr

namespace Error

def message : Error → String
  | inputRequired what => "Required input missing: " ++ what
  | noApiKey => "No API key provided; set DASHSCOPE_API_KEY or configure one explicitly"
  | api e => "DashScope API error: " ++ e.text
  | timeout after => "Timed out after " ++ after.text
  | socket fault => "WebSocket error: " ++ fault.message
  | http => "HTTP protocol error"
  | malformedJson => "Failed to parse or serialize JSON"
  | eventStream what => "Malformed event stream: " ++ what
  | url fault => "Invalid URL: " ++ fault.message
  | headerValue => "Header error: failed to parse header value"
  | headerName => "Header name error: invalid HTTP header name"
  | connectionClosed => "The connection was closed unexpectedly"
  | sessionClosed => "The session no longer accepts frames"
  | cancelled => "The session was cancelled"

def isTransient : Error → Bool
  | api e => e.status == some 503 || e.status == some 504
  | _ => false

def code : Error → String
  | inputRequired _ => "InputRequired"
  | noApiKey => "NoApiKey"
  | api _ => "ApiError"
  | timeout _ => "Timeout"
  | socket _ | connectionClosed => "ConnectionError"
  | http => "HttpError"
  | malformedJson | eventStream _ => "MalformedEnvelope"
  | url _ | headerValue | headerName => "InvalidRequest"
  | sessionClosed => "SessionClosed"
  | cancelled => "Cancelled"

def toApiError : Error → ApiError
  | api e => e
  | e => .ofCode e.code e.message

end Error

end ModelServing
