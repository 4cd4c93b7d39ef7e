import ModelServing.Http.Header
import ModelServing.Http.Status
import ModelServing.Json.Reader
import ModelServing.Text.Utf8
import ModelServing.Url.Basic
/-! What is sent to an HTTP server and what it answers. -/
namespace ModelServing.Http

inductive Method where
  | get
  | post
  deriving DecidableEq, Repr

structure Message where
  method : Method
  url : Url
  headers : Headers
  body : Option Json
  deriving DecidableEq

namespace Message

def target (m : Message) : String :=
  let query := match m.url.query with
    | none => []
    | some q => '?' :: q
  String.ofList (m.url.pathChars ++ query)

end Message

structure Response where
  status : UInt16
  chunks : List Bytes
  deriving DecidableEq, Repr

namespace Response

def body (r : Response) : Bytes := r.chunks.flatten

def text (r : Response) : String :=
  String.ofList <|
    match Text.Utf8.decodeWithReplacement r.body with
    | c :: rest => if c.toNat = 0xFEFF then rest else c :: rest
    | [] => []

def exactText? (r : Response) : Option String := (Text.Utf8.decode? r.body).map String.ofList

end Response

end ModelServing.Http
