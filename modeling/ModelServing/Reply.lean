import ModelServing.Task.Status
import ModelServing.Usage
import ModelServing.Text.Hex
/-! Replies: one inbound message of the service each, JSON or octets. -/
namespace ModelServing

inductive Payload where
  | json (value : Json)
  | binary (bytes : Bytes)
  deriving DecidableEq

structure Reply where
  requestId : Option String
  sessionId : Option String
  event : Option String
  status : Option UInt16
  payload : Payload
  usage : Option Usage
  deriving DecidableEq

namespace Reply

def json (value : Json) : Reply := ⟨none, none, none, none, .json value, none⟩

def binary (bytes : Bytes) : Reply := ⟨none, none, none, none, .binary bytes, none⟩

def envelopeNames : List String := ["request_id", "output", "usage"]

def ofEnvelopeFields? (fields : Fields) (status : Option UInt16) : Option Reply := do
  let requestId ← fields.optional "request_id" Json.text?
  let output := (fields.get? "output").getD .null
  let usage ← fields.optional "usage" Usage.ofJson?
  some ⟨requestId, none, none, status, .json output, usage⟩

/-- Only the output of an envelope becomes the payload. What is no envelope is kept whole. -/
def ofEnvelope (value : Json) (status : Option UInt16) : Reply :=
  ((value.record? envelopeNames).bind (ofEnvelopeFields? · status)).getD
    { json value with status }

def output? (r : Reply) : Option Json :=
  match r.payload with
  | .json value => some value
  | .binary _ => none

def bytes? (r : Reply) : Option Bytes :=
  match r.payload with
  | .json _ => none
  | .binary bytes => some bytes

def taskId? (r : Reply) : Option String := r.output?.bind (·.textAt? "task_id")

def taskStatus (r : Reply) : TaskStatus :=
  ((r.output?.bind (·.textAt? "task_status")).map TaskStatus.parse).getD .unknown

end Reply

end ModelServing
