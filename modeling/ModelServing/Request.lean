import ModelServing.Error
import ModelServing.Text.Blank
/-! Requests to a model: what is asked of which model at which endpoint, and its two envelopes. -/
namespace ModelServing

inductive Streaming where
  | none
  | out
  | in_
  | duplex
  deriving DecidableEq, Repr

namespace Streaming

def word : Streaming → String
  | none => "none"
  | out => "out"
  | in_ => "in"
  | duplex => "duplex"

def ofWord? (w : String) : Option Streaming :=
  if w = "none" then some none
  else if w = "out" then some out
  else if w = "in" then some in_
  else if w = "duplex" then some duplex
  else Option.none

end Streaming

def Json.choice? : Json → Option String
  | .string s => some s
  | .object [(s, .null)] => some s
  | _ => none

def Streaming.ofJson? (value : Json) : Option Streaming := value.choice?.bind ofWord?

inductive Carrier where
  | http
  | webSocket
  deriving DecidableEq, Repr

structure Request where
  model : String
  taskGroup : String
  task : String
  function : String
  input : Json
  parameters : Fields
  resources : Option Json
  headers : List (String × String)
  apiKey : Option String
  workspace : Option String
  streaming : Streaming
  carrier : Carrier
  isAsync : Bool
  deriving DecidableEq

namespace Request

def new (model : String) : Request :=
  ⟨model, "", "", "", .null, [], none, [], none, none, .none, .http, false⟩

def withEndpoint (r : Request) (taskGroup task function : String) : Request :=
  { r with taskGroup, task, function }

def withParameter (r : Request) (key : String) (value : Json) : Request :=
  { r with parameters := r.parameters.insert key value }

def withParameters (r : Request) (parameters : Fields) : Request :=
  { r with parameters := r.parameters.insertAll parameters }

def withHeader (r : Request) (name value : String) : Request :=
  { r with headers := r.headers ++ [(name, value)] }

def require (name value : String) : Except Error Unit :=
  if Text.isBlank value then .error (.inputRequired (name ++ " is required")) else .ok ()

def validate (r : Request) : Except Error Unit := require "model" r.model

def validateEndpoint (r : Request) : Except Error Unit := do
  r.validate
  require "task_group" r.taskGroup
  require "task" r.task
  require "function" r.function

def servicePath (r : Request) : String :=
  "services/" ++ r.taskGroup ++ "/" ++ r.task ++ "/" ++ r.function

def inputOrEmpty (r : Request) : Json := if r.input.isNull then .empty else r.input

def httpBody (r : Request) : Json :=
  .object <| Fields.insertSome "resources" r.resources <|
    [("input", r.inputOrEmpty), ("model", .string r.model), ("parameters", .object r.parameters)]

def payload (r : Request) : Json :=
  .object <| Fields.insertSome "resources" r.resources <|
    [("function", .string r.function), ("input", r.inputOrEmpty), ("model", .string r.model),
     ("parameters", .object r.parameters), ("task", .string r.task),
     ("task_group", .string r.taskGroup)]

def runTask (r : Request) (taskId : String) : Json :=
  .object
    [("header", .object
        [("action", .string "run-task"), ("streaming", .string r.streaming.word),
         ("task_id", .string taskId)]),
     ("payload", r.payload)]

end Request

end ModelServing
