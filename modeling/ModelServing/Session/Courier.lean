import ModelServing.Connection
import ModelServing.Session.Core
/-! Couriers carry the frames of one run both ways: they connect, open the session in its dialect,
wait to be acknowledged where the dialect asks for it, and then pass frames on until the run is
over. A courier that is sending hears nothing else until the send is over. Each wake-up calls on
the runs once at most, so that callers can come in between any two of these calls. -/
namespace ModelServing.Session

structure Setup where
  dialect : Dialect
  request : Request
  url : String
  headers : Http.Headers
  ids : Ids

def Setup.of (config : Config) (dialect : Dialect) (request : Request) (ids : Ids) :
    Except Error Setup := do
  let url ← dialect.endpoint config request
  let headers ← config.headersFor request
  return ⟨dialect, request, url, headers, ids⟩

inductive Stage where
  | connecting
  | opening (f : WireFrame)
  | awaitingAck
  | attaching
  | pumping (outboundOpen : Bool)
  | sending (f : WireFrame)
  | leaving (failure : Option Error)
  | gone
  deriving DecidableEq

structure Courier where
  generation : Nat
  stage : Stage
  used : Nat
  deriving DecidableEq

inductive Signal where
  | connected
  | refused (e : Error)
  | sent
  | sendFailed (e : Error)
  | arrived (a : Arrival)
  | outbound
  | onward
  | aborted
  deriving DecidableEq

namespace Courier

def launch (generation : Nat) : Courier := ⟨generation, .connecting, 0⟩

structure Move where
  courier : Courier
  core : Core
  demands : List Demand

def stay (c : Courier) (core : Core) : Move := ⟨c, core, []⟩

/-- The connection ends with the courier, and with it the sink. -/
def letGo (c : Courier) (core : Core) (failure : Option Error) (demands : List Demand) : Move :=
  ⟨{ c with stage := .leaving failure }, core.leave c.generation, demands ++ [.giveUp]⟩

def finish (c : Courier) (core : Core) (demands : List Demand) : Move :=
  c.letGo core none demands

def fail (c : Courier) (core : Core) (e : Error) : Move := c.letGo core (some e) []

def hangUp (c : Courier) (core : Core) (reason : String) : Move :=
  c.finish core [.closeNormally reason]

def report (c : Courier) (core : Core) (failure : Option Error) : Move :=
  let core :=
    match failure with
    | none => core.ended c.generation
    | some e => core.failed c.generation e
  ⟨{ c with stage := .gone }, core, []⟩

def attach (c : Courier) (core : Core) : Move :=
  match core.attach c.generation true with
  | (core, true) => ⟨{ c with stage := .pumping true }, core, []⟩
  | (core, false) => c.hangUp core "cancelled"

def beginAttaching (c : Courier) (core : Core) : Move := ⟨{ c with stage := .attaching }, core, []⟩

def opened (c : Courier) (setup : Setup) (core : Core) : Move :=
  if setup.dialect.awaitsAck then ⟨{ c with stage := .awaitingAck }, core, []⟩
  else c.beginAttaching core

def connected (c : Courier) (setup : Setup) (core : Core) : Move :=
  let opening := setup.dialect.opening setup.request (setup.ids.task c.generation)
    (setup.ids.event c.generation c.used)
  match opening with
  | some f => ⟨{ c with stage := .opening f, used := c.used + 1 }, core, [.send f]⟩
  | none => c.opened setup core

def deliver (c : Courier) (setup : Setup) (core : Core) (f : WireFrame) (reason : String)
    (started : Courier → Core → Move) : Move :=
  match core.receive c.generation setup.dialect f with
  | (core, .error e) => c.fail core e
  | (core, .ok .delivered) => c.stay core
  | (core, .ok .started) => started c core
  | (core, .ok .closed) | (core, .ok .stale) => c.hangUp core reason

def outbound (c : Courier) (setup : Setup) (core : Core) : Move :=
  match core.offer c.generation with
  | .nothing => c.stay core
  | .done => ⟨{ c with stage := .pumping false }, core, []⟩
  | .frame f =>
    let shaped := setup.dialect.shape f (setup.ids.task c.generation)
      (setup.ids.event c.generation c.used)
    ⟨{ c with stage := .sending shaped, used := c.used + 1 }, core.take c.generation,
      [.send shaped]⟩

def isAborted (c : Courier) (core : Core) : Bool :=
  ((core.run? c.generation).map (·.abort)).getD true

def next? (c : Courier) (core : Core) : Option Signal :=
  match c.stage with
  | .attaching | .leaving _ => some .onward
  | .pumping true => if core.offer c.generation = .nothing then none else some .outbound
  | _ => none

def step (c : Courier) (setup : Setup) (core : Core) (signal : Signal) : Move :=
  match c.stage, signal with
  | .connecting, .connected => c.connected setup core
  | .connecting, .refused e => c.fail core e
  | .connecting, .aborted => if c.isAborted core then c.finish core [] else c.stay core
  | .opening _, .sent => c.opened setup core
  | .opening _, .sendFailed e => c.fail core e
  | .awaitingAck, .arrived (.frame f) => c.deliver setup core f "closed" beginAttaching
  | .awaitingAck, .arrived (.failed e) => c.fail core e
  | .awaitingAck, .arrived .hungUp => c.finish core []
  | .awaitingAck, .aborted =>
    if c.isAborted core then c.hangUp core "cancelled" else c.stay core
  | .attaching, .onward => c.attach core
  | .pumping true, .outbound => c.outbound setup core
  | .pumping _, .arrived (.frame f) => c.deliver setup core f "finished" Courier.stay
  | .pumping _, .arrived (.failed e) => c.fail core e
  | .pumping _, .arrived .hungUp => c.finish core []
  | .pumping _, .aborted =>
    if c.isAborted core then c.hangUp core "cancelled" else c.stay core
  | .sending _, .sent => ⟨{ c with stage := .pumping true }, core, []⟩
  | .sending _, .sendFailed e => c.fail core e
  | .leaving failure, .onward => c.report core failure
  | _, _ => c.stay core

end Courier

end ModelServing.Session
