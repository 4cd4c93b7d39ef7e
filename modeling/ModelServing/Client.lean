import ModelServing.Conversation
import ModelServing.Recognition
import ModelServing.Session.Basic
import ModelServing.TaskStream
/-! Clients: one configuration and one source of identifiers for every session and call. -/
namespace ModelServing

structure Client where
  config : Config
  ids : Ids

inductive Config.Setting where
  | whole (config : Config)
  | apiKey (key : String)
  | workspace (workspace : String)
  | httpBase (url : String)
  | socketBase (url : String)
  | realtimeBase (url : String)
  | timeout (timeout : Duration)
  deriving DecidableEq, Repr

def Config.apply (c : Config) : Config.Setting → Config
  | .whole config => config
  | .apiKey key => { c with apiKey := some key }
  | .workspace workspace => { c with workspace := some workspace }
  | .httpBase url => { c with httpBase := url }
  | .socketBase url => { c with socketBase := url }
  | .realtimeBase url => { c with realtimeBase := url }
  | .timeout timeout => { c with timeout }

namespace Client

def session (c : Client) (dialect : Dialect) (r : Request) : Except Error Session.Setup :=
  Session.Setup.of c.config dialect r c.ids

def recognition (c : Client) (r : Request) : Except Error Session.Setup := c.session .task r

def synthesizer (c : Client) (r : Request) : Except Error Session.Setup := c.session .task r

def conversation (c : Client) (model : String) (parameters : Fields) :
    Except Error Session.Setup :=
  c.session .realtime (.conversation model parameters)

end Client

end ModelServing
