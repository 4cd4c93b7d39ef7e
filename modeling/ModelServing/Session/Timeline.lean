import ModelServing.Session.Basic
/-! A session on a clock, and those who have stopped a run and wait to learn how it ends. -/
namespace ModelServing.Session

structure Stop where
  generation : Nat
  timeout : Duration
  waiter : Waiter
  deriving DecidableEq

namespace Stop

def begin (timeout : Duration) (now : Nat) (core : Core) : Stop :=
  ⟨core.generation, timeout, .start now (some timeout.millis) (core.gate core.generation)⟩

def result (s : Stop) : Option Outcome → Except Error Unit
  | none => .error (.timeout s.timeout)
  | some o => o.toResult

def answer? (s : Stop) : Option (Except Error Unit) :=
  s.waiter.notice.map fun notice => s.result notice.outcome

def look (s : Stop) (now : Nat) (core : Core) : Stop :=
  { s with waiter := (s.waiter.look now (core.gate s.generation)).expire now }

def expire (s : Stop) (now : Nat) : Stop := { s with waiter := s.waiter.expire now }

end Stop

structure Timeline where
  session : Session
  now : Nat
  stops : List Stop
  deriving DecidableEq

namespace Timeline

inductive Deed where
  | act (a : Action)
  | stop (timeout : Duration)
  | look (n : Nat)
  | read
  | pass (millis : Nat)

structure Called where
  result : Except Error Unit
  trace : Trace
  told : List (Nat × Event)

inductive Sight where
  | called (c : Called)
  | heard (event : Option Event)
  | nothing

def opened : Timeline := ⟨.new, 0, []⟩

def look (t : Timeline) : Timeline :=
  { t with stops := t.stops.map (·.look t.now t.session.core) }

/-- The clock moves when everyone has looked. Those whose time is up on the way have looked again by
then; those whose time is up just now have not. -/
def pass (t : Timeline) (millis : Nat) : Timeline :=
  let t := t.look
  let now := t.now + millis
  { t with now, stops := t.stops.map (·.expire (now - 1)) }

def act (t : Timeline) (setup : Setup) (a : Action) : Called × Timeline :=
  let step := t.session.act setup a
  (⟨step.result, step.trace, step.session.core.events.drop t.session.core.events.length⟩,
    { t with session := step.session })

def stop (t : Timeline) (setup : Setup) (timeout : Duration) : Called × Timeline :=
  let (called, t) := t.act setup .stop
  (called, { t with stops := t.stops ++ [.begin timeout t.now t.session.core] })

def read (t : Timeline) : Option Event × Timeline :=
  let (event, core) := t.session.core.read
  (event, { t with session := { t.session with core } })

def perform (t : Timeline) (setup : Setup) : Deed → Sight × Timeline
  | .act a =>
    let (called, t) := t.act setup a
    (.called called, t)
  | .stop timeout =>
    let (called, t) := t.stop setup timeout
    (.called called, t)
  | .look n => (.nothing, { t with stops := t.stops.modify n (·.look t.now t.session.core) })
  | .read =>
    let (event, t) := t.read
    (.heard event, t)
  | .pass millis => (.nothing, t.pass millis)

def play (t : Timeline) (setup : Setup) : List Deed → List Sight × Timeline
  | [] => ([], t)
  | deed :: rest =>
    let (sight, t) := t.perform setup deed
    let (sights, t) := t.play setup rest
    (sight :: sights, t)

def answer? (t : Timeline) (n : Nat) : Option (Except Error Unit) :=
  t.look.stops[n]?.bind (·.answer?)

end Timeline

end ModelServing.Session
