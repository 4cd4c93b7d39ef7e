import ModelServing.Session.Courier
/-! Sessions: the runs and their couriers, driven by what callers do and by what wakes a courier,
in any order. Each run is launched at most once and has at most one courier. -/
namespace ModelServing

structure Session where
  core : Session.Core
  couriers : List Session.Courier
  deriving DecidableEq

namespace Session

inductive Action where
  | start
  | send (f : Frame)
  | stop
  | cancel
  | reset
  | wake (courier : Nat) (signal : Signal)
  deriving DecidableEq

abbrev Trace := List (Nat × Demand)

structure Step where
  session : Session
  result : Except Error Unit
  trace : Trace

def new : Session := ⟨.new, []⟩

def launch (s : Session) (setup : Setup) : Session × Trace :=
  ({ s with couriers := s.couriers ++ [.launch s.core.generation] },
    [(s.couriers.length, .connect setup.url setup.headers)])

def launchIf (s : Session) (setup : Setup) : Bool → Session × Trace
  | true => s.launch setup
  | false => (s, [])

def attempt (s : Session) (setup : Setup) : Core × Except Error Bool → Step
  | (core, .error e) => ⟨{ s with core }, .error e, []⟩
  | (core, .ok launch) =>
    let (s, trace) := { s with core }.launchIf setup launch
    ⟨s, .ok (), trace⟩

def wake (s : Session) (setup : Setup) (n : Nat) (signal : Signal) : Session × Trace :=
  match s.couriers[n]? with
  | none => (s, [])
  | some courier =>
    let move := courier.step setup s.core signal
    (⟨move.core, s.couriers.set n move.courier⟩, move.demands.map fun d => (n, d))

def act (s : Session) (setup : Setup) : Action → Step
  | .start => s.attempt setup s.core.start
  | .send f => s.attempt setup (s.core.send f)
  | .stop =>
    let (core, launch) := s.core.requestStop
    let (s, trace) := { s with core }.launchIf setup launch
    ⟨s, .ok (), trace⟩
  | .cancel => ⟨{ s with core := s.core.cancel }, .ok (), []⟩
  | .reset => ⟨{ s with core := s.core.reset }, .ok (), []⟩
  | .wake n signal =>
    let (s, trace) := s.wake setup n signal
    ⟨s, .ok (), trace⟩

def run (s : Session) (setup : Setup) : List Action → Session × Trace
  | [] => (s, [])
  | action :: rest =>
    let step := s.act setup action
    let (s, trace) := step.session.run setup rest
    (s, step.trace ++ trace)

end Session

end ModelServing
