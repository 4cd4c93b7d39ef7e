import ModelServing.Rest.Service
import ModelServing.TaskStream
/-! Calls with one request and any number of replies. The request says what carries it: it travels
as a message over HTTP or as a task over a socket. -/
namespace ModelServing

inductive Consumption where
  | folded
  | streamed
  deriving DecidableEq, Repr

inductive Route where
  | http (message : Http.Message)
  | task (setup : TaskStream.Setup)
  deriving DecidableEq

def Route.of (config : Config) (r : Request) (consumption : Consumption) (taskId : String) :
    Except Error Route :=
  match r.carrier, consumption with
  | .http, .folded => (Rest.serviceMessage config r).map .http
  | .http, .streamed => (Rest.streamMessage config r).map .http
  | .webSocket, .folded => (TaskStream.Setup.of config r .none taskId).map .task
  | .webSocket, .streamed => (TaskStream.Setup.of config r .out taskId).map .task

end ModelServing
