import ModelServing.Error
import ModelServing.Frame
import ModelServing.Http.Header
/-! The transport as its users see it: what is asked of it and what it tells. -/
namespace ModelServing

inductive Arrival where
  | frame (f : WireFrame)
  | failed (e : Error)
  | hungUp
  deriving DecidableEq

/-- What is asked of the transport. A connection that was asked for may be given up before it is
there. -/
inductive Demand where
  | connect (url : String) (headers : Http.Headers)
  | send (f : WireFrame)
  | close (code : UInt16) (reason : String)
  | giveUp
  deriving DecidableEq

def Demand.normalClosure : UInt16 := 1000

def Demand.closeNormally (reason : String) : Demand := .close normalClosure reason

/-- Identifiers that have to be new wherever they are used: for the task of a run and for each
event that a run sends, for the task of a call and for each command that a caller makes. -/
structure Ids where
  task : Nat → String
  event : Nat → Nat → String
  call : Nat → String
  command : Nat → String

end ModelServing
