import ModelServing.Session.Run
/-! The runs of a session one after the other, and the events that wait to be read. Runs are told
apart by their generation; only the current one can still act. -/
namespace ModelServing.Session

structure Core where
  past : List Run
  run : Run
  events : List (Nat × Event)
  deriving DecidableEq

namespace Core

def new : Core := ⟨[], .idle, []⟩

def generation (c : Core) : Nat := c.past.length

def run? (c : Core) (generation : Nat) : Option Run :=
  if generation = c.generation then some c.run else c.past[generation]?

def gate (c : Core) (generation : Nat) : Gate := ((c.run? generation).map (·.gate)).getD .shut

def modify (c : Core) (generation : Nat) (f : Run → Run) : Core :=
  if generation = c.generation then { c with run := f c.run }
  else { c with past := c.past.modify generation f }

def become (c : Core) (run : Run) (events : List Event) : Core :=
  { c with run, events := c.events ++ events.map fun e => (c.generation, e) }

def start (c : Core) : Core × Except Error Bool :=
  match c.run.phase with
  | .closed => (c, .error .sessionClosed)
  | _ =>
    let (run, launch) := c.run.start
    (c.become run [], .ok launch)

def send (c : Core) (f : Frame) : Core × Except Error Bool :=
  let (run, result) := c.run.enqueue f
  (c.become run [], result)

def requestStop (c : Core) : Core × Bool :=
  let (run, launch, events) := c.run.requestStop
  (c.become run events, launch)

def cancel (c : Core) : Core :=
  let (run, events) := c.run.cancel
  c.become run events

def reset (c : Core) : Core := { c with past := c.past ++ [c.run.superseded], run := .idle }

def isLive (c : Core) (generation : Nat) : Bool :=
  generation == c.generation && !c.run.cancelled && c.run.phase != .closed

def attach (c : Core) (generation : Nat) (attended : Bool) : Core × Bool :=
  if c.isLive generation then
    let (run, attached) := c.run.attach attended
    (c.become run [], attached)
  else (c, false)

def receive (c : Core) (generation : Nat) (d : Dialect) (f : WireFrame) :
    Core × Except Error Inbound :=
  if c.isLive generation then
    let (run, events, result) := c.run.receive d f
    (c.become run events, result)
  else (c, .ok .stale)

def ended (c : Core) (generation : Nat) : Core :=
  if c.isLive generation then
    let (run, events) := c.run.ended
    c.become run events
  else c

def failed (c : Core) (generation : Nat) (e : Error) : Core :=
  if c.isLive generation then
    let (run, events) := c.run.fail e
    c.become run events
  else c

inductive Offer where
  | frame (f : Frame)
  | done
  | nothing
  deriving DecidableEq

def offer (c : Core) (generation : Nat) : Offer :=
  match c.run? generation with
  | none => .done
  | some r =>
    match r.outbox with
    | f :: _ => .frame f
    | [] => if r.sink = .present then .nothing else .done

def take (c : Core) (generation : Nat) : Core :=
  c.modify generation fun r => { r with outbox := r.outbox.tail }

def leave (c : Core) (generation : Nat) : Core := c.modify generation Run.leave

/-- Events of superseded runs are not read; after a cancel only its own event is. -/
def isDeliverable (c : Core) (e : Nat × Event) : Bool :=
  e.1 == c.generation && (!c.run.cancelled || e.2 == .cancelled)

def read (c : Core) : Option Event × Core :=
  match c.events.dropWhile fun e => !c.isDeliverable e with
  | [] => (none, { c with events := [] })
  | e :: rest => (some e.2, { c with events := rest })

end Core

inductive Reading (α : Type) where
  | item (a : α)
  | ended
  | pending
  deriving DecidableEq

structure Reader where
  finished : Bool
  deriving DecidableEq, Repr

namespace Reader

def start : Reader := ⟨false⟩

def next (reader : Reader) (c : Core) : Reading (Except Error Reply) × Reader × Core :=
  if reader.finished then (.ended, reader, c)
  else
    match c.read with
    | (none, c) => (.pending, reader, c)
    | (some event, c) =>
      let reader : Reader := ⟨event.isTerminal⟩
      match event with
      | .result r => (.item (.ok r), reader, c)
      | .failed e => (.item (.error e), reader, c)
      | .completed | .cancelled => (.ended, reader, c)

def nextAudioWithin : Nat → Reader → Core → Reading (Except Error Bytes) × Reader × Core
  | 0, reader, c => (.pending, reader, c)
  | attempts + 1, reader, c =>
    match reader.next c with
    | (.item (.ok r), reader, c) =>
      match r.bytes? with
      | some bytes => (.item (.ok bytes), reader, c)
      | none => nextAudioWithin attempts reader c
    | (.item (.error e), reader, c) => (.item (.error e), reader, c)
    | (.ended, reader, c) => (.ended, reader, c)
    | (.pending, reader, c) => (.pending, reader, c)

def nextAudio (reader : Reader) (c : Core) : Reading (Except Error Bytes) × Reader × Core :=
  nextAudioWithin (c.events.length + 1) reader c

end Reader

end ModelServing.Session
