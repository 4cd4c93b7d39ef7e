import ModelServing.Task.Status
/-! Listing tasks: what to ask for, and a page of the answer. -/
namespace ModelServing

structure TaskQuery where
  startTime : Option String
  endTime : Option String
  modelName : Option String
  apiKeyId : Option String
  region : Option String
  status : Option TaskStatus
  pageNo : Option UInt32
  pageSize : Option UInt32
  deriving DecidableEq, Repr

namespace TaskQuery

def pairs (q : TaskQuery) : List (String × String) :=
  let field (name : String) (value : Option String) := (value.map fun v => (name, v)).toList
  field "start_time" q.startTime ++ field "end_time" q.endTime ++ field "model_name" q.modelName ++
  field "api_key_id" q.apiKeyId ++ field "region" q.region ++
  field "status" (q.status.map TaskStatus.word) ++
  field "page_no" (q.pageNo.map fun n => Text.decimal n.toNat) ++
  field "page_size" (q.pageSize.map fun n => Text.decimal n.toNat)

def toJson (q : TaskQuery) : Json :=
  let text (value : Option String) := value.map Json.string
  let number (value : Option UInt32) := value.map fun n => Json.natural n.toUInt64
  .object <|
    Fields.insertSome "start_time" (text q.startTime) <|
    Fields.insertSome "end_time" (text q.endTime) <|
    Fields.insertSome "model_name" (text q.modelName) <|
    Fields.insertSome "api_key_id" (text q.apiKeyId) <|
    Fields.insertSome "region" (text q.region) <|
    Fields.insertSome "status" (text (q.status.map TaskStatus.word)) <|
    Fields.insertSome "page_no" (number q.pageNo) <|
    Fields.insertSome "page_size" (number q.pageSize) []

end TaskQuery

structure TaskPage where
  requestId : Option String
  data : List Json
  total : UInt64
  totalPage : UInt64
  pageNo : UInt64
  pageSize : UInt64
  deriving DecidableEq

namespace TaskPage

def fieldNames : List String :=
  ["request_id", "data", "total", "total_page", "page_no", "page_size"]

def ofFields? (fields : Fields) : Option TaskPage := do
  let requestId ← fields.optional "request_id" Json.text?
  let data ← fields.orElse "data" Json.items? []
  let total ← fields.orElse "total" Json.natural? 0
  let totalPage ← fields.orElse "total_page" Json.natural? 0
  let pageNo ← fields.orElse "page_no" Json.natural? 0
  let pageSize ← fields.orElse "page_size" Json.natural? 0
  some ⟨requestId, data, total, totalPage, pageNo, pageSize⟩

def ofJson? (value : Json) : Option TaskPage := (value.record? fieldNames).bind ofFields?

def ofText? (text : String) : Option TaskPage :=
  (Json.recordOfText? fieldNames text).bind ofFields?

end TaskPage

end ModelServing
