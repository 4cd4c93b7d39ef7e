import ModelServing.Config
import ModelServing.EventKind
import ModelServing.Frame
import ModelServing.Reply
import ModelServing.Url.Parser
/-! A dialect of the session protocol: how a session is addressed and opened, how the caller's
frames are shaped for the wire and how inbound messages are read. Identifiers that have to be new
are handed in by whoever sends. -/
namespace ModelServing

structure Dialect where
  endpoint : Config → Request → Except Error String
  opening : Request → String → String → Option WireFrame
  awaitsAck : Bool
  shape : Frame → String → String → WireFrame
  events : EventTable
  eventName : Json → Option String
  sessionId : Json → Option String
  requestId : Json → Option String
  hasOutput : Json → Bool
  toReply : Json → Reply
  toError : Json → ApiError

namespace Dialect

def classify (d : Dialect) (message : Json) : EventKind := d.events.classify (d.eventName message)

def parseUrl (written : String) : Except Error Url :=
  match Url.parse written with
  | .ok u => .ok u
  | .error fault => .error (.url fault)

end Dialect

end ModelServing
