import ModelServing.Json.Reader
import ModelServing.Json.Printer
/-! Frames: what a caller feeds into a session, and what travels on a socket. -/
namespace ModelServing

inductive Frame where
  | command (value : Json)
  | binary (bytes : Bytes)
  | stop
  deriving DecidableEq

def Frame.isStop : Frame → Bool
  | .stop => true
  | _ => false

inductive WireFrame where
  | text (s : String)
  | binary (bytes : Bytes)
  deriving DecidableEq, Repr

namespace WireFrame

def ofJson (value : Json) : WireFrame := .text value.print

def text? : WireFrame → Option String
  | .text s => some s
  | .binary _ => none

def json? (f : WireFrame) : Option Json := f.text?.bind Json.parse?

end WireFrame

end ModelServing
