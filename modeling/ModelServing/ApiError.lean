import ModelServing.Json.Record
import ModelServing.Json.Printer
/-! Errors as the service reports them, whether in the body of a refused HTTP request, in an error
block of an event stream or in a frame of a session. -/
namespace ModelServing

structure ApiError where
  status : Option UInt16
  code : Option String
  message : String
  requestId : Option String
  deriving DecidableEq, Repr

namespace ApiError

def ofMessage (message : String) : ApiError := ⟨none, none, message, none⟩

def ofCode (code message : String) : ApiError := ⟨none, some code, message, none⟩

def text (e : ApiError) : String :=
  (match e.status with
    | some status => "[" ++ Text.decimal status.toNat ++ "] "
    | none => "") ++
  (match e.code with
    | some code => code ++ ": "
    | none => "") ++
  e.message ++
  (match e.requestId with
    | some id => " (request_id: " ++ id ++ ")"
    | none => "")

def fieldNames : List String := ["status_code", "code", "message", "request_id"]

def ofFields? (fields : Fields) : Option ApiError := do
  let status ← fields.optional "status_code" Json.natural16?
  let code ← fields.optional "code" Json.text?
  let message ← fields.orElse "message" Json.text? ""
  let requestId ← fields.optional "request_id" Json.text?
  some ⟨status, code, message, requestId⟩

def ofText? (text : String) : Option ApiError :=
  (Json.recordOfText? fieldNames text).bind ofFields?

def ofTextOrMessage (text : String) : ApiError := (ofText? text).getD (ofMessage text)

def toJson (e : ApiError) : Json :=
  .object <|
    Fields.insertSome "status_code" (e.status.map fun n => Json.natural n.toUInt64) <|
    Fields.insertSome "code" (e.code.map Json.string) <|
    Fields.insertSome "request_id" (e.requestId.map Json.string) <|
    [("message", .string e.message)]

def withRequestId (e : ApiError) (id : Option String) : ApiError :=
  { e with requestId := e.requestId.orElse fun _ => id }

end ApiError

end ModelServing
