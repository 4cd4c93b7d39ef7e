import ModelServing.Dialect.Basic
/-! The realtime dialect. Every text frame is a command or an event with an identifier and a type. -/
namespace ModelServing.Dialect

namespace Realtime

def command (kind eventId : String) (field : Option (String × Json)) : Json :=
  .object <|
    let fields : Fields := [("event_id", .string eventId), ("type", .string kind)]
    match field with
    | none => fields
    | some (key, value) => fields.insert key value

def endpoint (config : Config) (r : Request) : Except Error String := do
  r.validate
  let u ← parseUrl config.realtimeBase
  return (u.appendQuery "model" r.model).text

def opening (r : Request) (_taskId eventId : String) : Option WireFrame :=
  if r.parameters.isEmpty then none
  else some (.ofJson (command "session.update" eventId (some ("session", .object r.parameters))))

def identified (value : Json) (eventId : String) : Json :=
  match value with
  | .object fields =>
    match Fields.get? "event_id" fields with
    | some _ => .object fields
    | none => .object (Fields.insert "event_id" (.string eventId) fields)
  | other => other

def shape (f : Frame) (_taskId eventId : String) : WireFrame :=
  match f with
  | .command value => .ofJson (identified value eventId)
  | .binary bytes => .binary bytes
  | .stop => .ofJson (command "session.finish" eventId none)

def events : EventTable :=
  [("session.created", .sessionCreated), ("session.finished", .finished),
   ("response.done", .turnDone), ("error", .failed)]

def toReply (message : Json) : Reply :=
  { Reply.json message with
    event := message.textAt? "type"
    usage := ((message.get? "response").bind (·.get? "usage")).bind Usage.ofJson? }

def toError (message : Json) : ApiError :=
  let field (key : String) := (message.get? "error").bind (·.textAt? key)
  { status := none
    code := (field "code").orElse fun _ => field "type"
    message := (field "message").getD "realtime session error"
    requestId := message.textAt? "event_id" }

end Realtime

def realtime : Dialect where
  endpoint := Realtime.endpoint
  opening := Realtime.opening
  awaitsAck := false
  shape := Realtime.shape
  events := Realtime.events
  eventName := Json.textAt? "type"
  sessionId := fun message => (message.get? "session").bind (·.textAt? "id")
  requestId := fun _ => none
  hasOutput := fun _ => true
  toReply := Realtime.toReply
  toError := Realtime.toError

end ModelServing.Dialect
