import ModelServing.Config
import ModelServing.Dialect.Basic
import ModelServing.EventStream.Decoder
import ModelServing.Http.Message
import ModelServing.Task.Listing
/-! The service over HTTP: how each call is addressed and sent, and how its response is read. What
carries a message to the server is a parameter; it gives no response when the server cannot be
reached. -/
namespace ModelServing.Rest

def address (c : Config) (path : String) : String :=
  String.ofList ((c.httpBase.toList.reverse.dropWhile (· = '/')).reverse) ++ "/" ++ path

def isHttp (u : Url) : Bool := u.scheme = "http".toList || u.scheme = "https".toList

/-- Names and passwords in the address are not sent; the key that goes with every message takes
their place. -/
def withoutUser (u : Url) : Url :=
  { u with authority := u.authority.map fun a => { a with user := [], password := [] } }

def locate (c : Config) (path : String) : Except Error Url :=
  match Url.parse (address c path) with
  | .error _ => .error .http
  | .ok u => if isHttp u then .ok (withoutUser u) else .error .http

def serviceMessage (c : Config) (r : Request) : Except Error Http.Message := do
  r.validateEndpoint
  let headers ← c.headersFor r
  let headers := if r.isAsync then headers.insert "x-dashscope-async" "enable" else headers
  let url ← locate c r.servicePath
  return ⟨.post, url, headers, some r.httpBody⟩

def streamMessage (c : Config) (r : Request) : Except Error Http.Message := do
  let m ← serviceMessage c r
  let headers := m.headers.append "x-dashscope-sse" "enable"
  return { m with headers := headers.append "accept" "text/event-stream" }

def fetchMessage (c : Config) (taskId : String) (as : Credentials) :
    Except Error Http.Message := do
  let headers ← c.authHeaders as
  return ⟨.get, ← locate c ("tasks/" ++ taskId), headers, none⟩

def cancelMessage (c : Config) (taskId : String) (as : Credentials) :
    Except Error Http.Message := do
  let headers ← c.authHeaders as
  return ⟨.post, ← locate c ("tasks/" ++ taskId ++ "/cancel"), headers, none⟩

def listMessage (c : Config) (q : TaskQuery) (as : Credentials) : Except Error Http.Message := do
  let headers ← c.authHeaders as
  let url ← locate c "tasks"
  let url := q.pairs.foldl (fun u (name, value) => u.appendQuery name value) url
  let url := if url.query = some [] then { url with query := none } else url
  return ⟨.get, url, headers, none⟩

def refusal (response : Http.Response) : ApiError :=
  let text := response.text
  let e := match ApiError.ofText? text with
    | some e => e
    | none =>
      .ofMessage <|
        if text.isEmpty then (Http.reason? response.status).getD "request failed" else text
  { e with status := some response.status }

def check (response : Http.Response) : Except Error Unit :=
  if Http.isSuccess response.status then .ok () else .error (.api (refusal response))

def readReply (response : Http.Response) : Except Error Reply := do
  check response
  match response.exactText?.bind Json.parse? with
  | some value => return .ofEnvelope value (some response.status)
  | none => throw .http

def readPage (response : Http.Response) : Except Error TaskPage := do
  check response
  match response.exactText?.bind TaskPage.ofText? with
  | some page => return page
  | none => throw .http

def readStream (response : Http.Response) : Except Error (List (Except Error Reply)) := do
  check response
  return EventStream.decode response.chunks

abbrev Exchange (σ : Type) := Http.Message → σ → Option Http.Response × σ

def perform {σ α : Type} (exchange : Exchange σ) (message : Except Error Http.Message)
    (read : Http.Response → Except Error α) (s : σ) : Except Error α × σ :=
  match message with
  | .error e => (.error e, s)
  | .ok m =>
    match exchange m s with
    | (none, s) => (.error .http, s)
    | (some response, s) => (read response, s)

section

variable {σ : Type} (exchange : Exchange σ) (c : Config)

def call (r : Request) (s : σ) : Except Error Reply × σ :=
  perform exchange (serviceMessage c r) readReply s

def stream (r : Request) (s : σ) : Except Error (List (Except Error Reply)) × σ :=
  perform exchange (streamMessage c r) readStream s

def submit (r : Request) (s : σ) : Except Error Reply × σ :=
  call exchange c { r with isAsync := true } s

def fetch (taskId : String) (as : Credentials) (s : σ) : Except Error Reply × σ :=
  perform exchange (fetchMessage c taskId as) readReply s

def cancel (taskId : String) (as : Credentials) (s : σ) : Except Error Reply × σ :=
  perform exchange (cancelMessage c taskId as) readReply s

def list (q : TaskQuery) (as : Credentials) (s : σ) : Except Error TaskPage × σ :=
  perform exchange (listMessage c q as) readPage s

end

end ModelServing.Rest
