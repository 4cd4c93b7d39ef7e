import ModelServing.Dialect.Basic
/-! The task dialect. Every text frame has a header, which says what it is and whose task it is of,
and a payload. -/
namespace ModelServing.Dialect

namespace Task

def actionFrame (action taskId : String) (input : Json) : WireFrame :=
  .ofJson <| .object
    [("header", .object
        [("action", .string action), ("streaming", .string Streaming.duplex.word),
         ("task_id", .string taskId)]),
     ("payload", .object [("input", input)])]

def endpoint (config : Config) (r : Request) : Except Error String := do
  r.validateEndpoint
  let u ← parseUrl config.socketBase
  return u.text

def opening (r : Request) (taskId _eventId : String) : Option WireFrame :=
  some (.ofJson ({ r with streaming := .duplex }.runTask taskId))

def shape (f : Frame) (taskId _eventId : String) : WireFrame :=
  match f with
  | .command input => actionFrame "continue-task" taskId input
  | .binary bytes => .binary bytes
  | .stop => actionFrame "finish-task" taskId .empty

def events : EventTable :=
  [("task-started", .started), ("result-generated", .data), ("task-finished", .finished),
   ("task-failed", .failed)]

def headerText (key : String) (message : Json) : Option String :=
  (message.get? "header").bind (·.textAt? key)

def hasOutput (message : Json) : Bool :=
  match (message.get? "payload").bind (·.get? "output") with
  | none => false
  | some .null => false
  | some (.object fields) => !fields.isEmpty
  | some _ => true

def toReply (message : Json) : Reply :=
  let payload := (message.get? "payload").getD .null
  { Reply.json ((payload.get? "output").getD .null) with
    requestId := headerText "task_id" message
    event := headerText "event" message
    usage := (payload.get? "usage").bind Usage.ofJson? }

def toError (message : Json) : ApiError :=
  { status := none
    code := headerText "error_code" message
    message := (headerText "error_message" message).getD "task failed"
    requestId := headerText "task_id" message }

end Task

def task : Dialect where
  endpoint := Task.endpoint
  opening := Task.opening
  awaitsAck := true
  shape := Task.shape
  events := Task.events
  eventName := Task.headerText "event"
  sessionId := fun _ => none
  requestId := Task.headerText "task_id"
  hasOutput := Task.hasOutput
  toReply := Task.toReply
  toError := Task.toError

end ModelServing.Dialect
