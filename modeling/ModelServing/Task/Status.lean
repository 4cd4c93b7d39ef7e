import ModelServing.Request
/-! Where an asynchronous task stands. -/
namespace ModelServing

inductive TaskStatus where
  | pending
  | running
  | succeeded
  | failed
  | canceled
  | unknown
  deriving DecidableEq, Repr

namespace TaskStatus

def word : TaskStatus → String
  | pending => "PENDING"
  | running => "RUNNING"
  | succeeded => "SUCCEEDED"
  | failed => "FAILED"
  | canceled => "CANCELED"
  | unknown => "UNKNOWN"

def ofWord (w : String) : TaskStatus :=
  if w = "PENDING" then pending
  else if w = "RUNNING" then running
  else if w = "SUCCEEDED" then succeeded
  else if w = "FAILED" then failed
  else if w = "CANCELED" then canceled
  else unknown

def parse (text : String) : TaskStatus :=
  let w := String.ofList (text.toList.map Char.toUpper)
  if w = "CANCELLED" then canceled else ofWord w

def ofJson? (value : Json) : Option TaskStatus := value.choice?.map ofWord

def isTerminal : TaskStatus → Bool
  | pending | running => false
  | _ => true

end TaskStatus

end ModelServing
