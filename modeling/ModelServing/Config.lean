import ModelServing.Request
import ModelServing.Http.Header
/-! The client's configuration: where the service is and on whose account it is used. -/
namespace ModelServing

structure Credentials where
  apiKey : Option String
  workspace : Option String
  deriving DecidableEq, Repr

namespace Credentials

def none : Credentials := ⟨.none, .none⟩

def ofRequest (r : Request) : Credentials := ⟨r.apiKey, r.workspace⟩

def or (a b : Credentials) : Credentials :=
  ⟨a.apiKey.orElse fun _ => b.apiKey, a.workspace.orElse fun _ => b.workspace⟩

end Credentials

structure Config where
  apiKey : Option String
  httpBase : String
  socketBase : String
  realtimeBase : String
  workspace : Option String
  timeout : Duration
  poolIdleTimeout : Duration
  deriving DecidableEq, Repr

namespace Config

def default : Config :=
  ⟨none, "https://dashscope.aliyuncs.com/api/v1",
    "wss://dashscope.aliyuncs.com/api-ws/v1/inference",
    "wss://dashscope.aliyuncs.com/api-ws/v1/realtime", none, .ofSeconds 60, .ofSeconds 90⟩

def ofLookup (lookup : String → Option String) : Config :=
  let get (name : String) := (lookup name).filter fun value => !Text.isBlank value
  { default with
    apiKey := get "DASHSCOPE_API_KEY"
    httpBase := (get "DASHSCOPE_HTTP_BASE_URL").getD default.httpBase
    socketBase := (get "DASHSCOPE_WEBSOCKET_BASE_URL").getD default.socketBase
    realtimeBase := (get "DASHSCOPE_REALTIME_BASE_URL").getD default.realtimeBase
    workspace := get "DASHSCOPE_WORKSPACE" }

def nonEmpty (key : Option String) : Option String := key.filter (· ≠ "")

def resolveKey (c : Config) (preferred : Option String) : Except Error String :=
  match nonEmpty preferred, nonEmpty c.apiKey with
  | some key, _ => .ok key
  | none, some key => .ok key
  | none, none => .error .noApiKey

def headerValue (value : String) : Except Error String :=
  if Http.isValue value then .ok value else .error .headerValue

def headerName (name : String) : Except Error String :=
  if Http.isName name then .ok (Http.lowerName name) else .error .headerName

def authHeaders (c : Config) (credentials : Credentials) : Except Error Http.Headers := do
  let key ← c.resolveKey credentials.apiKey
  let bearer ← headerValue ("Bearer " ++ key)
  let headers := Http.Headers.insert "authorization" bearer []
  match credentials.workspace.orElse fun _ => c.workspace with
  | none => return headers
  | some workspace => return headers.insert "x-dashscope-workspace" (← headerValue workspace)

def insertAll (headers : Http.Headers) : List (String × String) → Except Error Http.Headers
  | [] => .ok headers
  | (name, value) :: rest => do
    let name ← headerName name
    let value ← headerValue value
    insertAll (headers.insert name value) rest

def headersFor (c : Config) (r : Request) : Except Error Http.Headers := do
  let headers ← c.authHeaders (.ofRequest r)
  insertAll headers r.headers

end Config

end ModelServing
