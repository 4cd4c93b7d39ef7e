import ModelServing.Dialect.Realtime
import ModelServing.Session.Basic
import ModelServing.Text.Base64
/-! Conversations: realtime sessions in which the caller sends media and commands. -/
namespace ModelServing

def Request.conversation (model : String) (parameters : Fields) : Request :=
  (Request.new model).withParameters parameters

namespace Conversation

inductive Command where
  | updateSession (session : Fields)
  | appendAudio (audio : Bytes)
  | appendVideo (image : Bytes)
  | commit
  | clearAudio
  | createResponse (response : Option Fields)
  | cancelResponse
  | raw (value : Json)
  deriving DecidableEq

namespace Command

def media (bytes : Bytes) : Json := .string (String.ofList (Text.Base64.encode bytes))

def frame? (c : Command) (eventId : String) : Option Frame :=
  let command (kind : String) (field : Option (String × Json)) : Option Frame :=
    some (.command (Dialect.Realtime.command kind eventId field))
  match c with
  | updateSession session => command "session.update" (some ("session", .object session))
  | appendAudio [] => none
  | appendAudio audio => command "input_audio_buffer.append" (some ("audio", media audio))
  | appendVideo [] => none
  | appendVideo image => command "input_image_buffer.append" (some ("image", media image))
  | commit => command "input_audio_buffer.commit" none
  | clearAudio => command "input_audio_buffer.clear" none
  | createResponse response =>
    command "response.create" (response.map fun fields => ("response", .object fields))
  | cancelResponse => command "response.cancel" none
  | raw value => some (.command value)

end Command

end Conversation

structure Conversation where
  session : Session
  commands : Nat
  deriving DecidableEq

namespace Conversation

def new : Conversation := ⟨.new, 0⟩

structure Answer where
  conversation : Conversation
  result : Except Error Unit
  trace : Session.Trace

def give (c : Conversation) (setup : Session.Setup) (command : Command) : Answer :=
  match command.frame? (setup.ids.command c.commands) with
  | none => ⟨c, .ok (), []⟩
  | some f =>
    let step := c.session.act setup (.send f)
    ⟨⟨step.session, c.commands + 1⟩, step.result, step.trace⟩

end Conversation

end ModelServing
