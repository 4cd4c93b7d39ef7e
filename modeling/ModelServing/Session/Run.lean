import ModelServing.Dialect.Basic
import ModelServing.Gate
/-! One run of a session, from idle over started to closed: what the caller has put in, how much of
it the transport has taken over, and what the run has to tell. -/
namespace ModelServing.Session

inductive Phase where
  | idle
  | started
  | closed
  deriving DecidableEq, Repr

inductive Event where
  | result (r : Reply)
  | completed
  | failed (e : Error)
  | cancelled
  deriving DecidableEq

def Event.isTerminal : Event → Bool
  | .result _ => false
  | _ => true

inductive Sink where
  | absent
  | present
  | completed
  deriving DecidableEq, Repr

structure Run where
  phase : Phase
  pending : List Frame
  sink : Sink
  outbox : List Frame
  /-- Whether the transport takes from the sink at all. -/
  attended : Bool
  stopRequested : Bool
  cancelled : Bool
  gate : Gate
  abort : Bool
  sessionId : Option String
  requestId : Option String
  deriving DecidableEq

inductive Inbound where
  | delivered
  | started
  | closed
  | stale
  deriving DecidableEq, Repr

namespace Run

def idle : Run := ⟨.idle, [], .absent, [], false, false, false, .shut, false, none, none⟩

def start (r : Run) : Run × Bool :=
  match r.phase with
  | .idle => ({ r with phase := .started }, true)
  | _ => (r, false)

def close (r : Run) (outcome : Outcome) (event : Event) : Run × List Event :=
  match r.phase with
  | .closed => (r, [])
  | _ =>
    ({ r with phase := .closed, sink := .absent, pending := [], gate := r.gate.release outcome },
      [event])

def fail (r : Run) (e : Error) : Run × List Event := r.close (.failed e.toApiError) (.failed e)

def refuses (r : Run) : Bool := r.cancelled || r.phase == .closed || r.stopRequested

def enqueue (r : Run) (f : Frame) : Run × Except Error Bool :=
  if r.refuses then (r, .error .sessionClosed)
  else
    let (r, launch) := r.start
    let r := { r with stopRequested := f.isStop }
    match r.sink with
    | .absent => ({ r with pending := r.pending ++ [f] }, .ok launch)
    | .present =>
      if r.attended then
        ({ r with
            outbox := r.outbox ++ [f]
            sink := if f.isStop then .completed else .present }, .ok launch)
      else (r, .error .connectionClosed)
    | .completed => (r, .error .sessionClosed)

def requestStop (r : Run) : Run × Bool × List Event :=
  if r.refuses then (r, false, [])
  else
    match r.enqueue .stop with
    | (r, .ok launch) => (r, launch, [])
    | (r, .error e) =>
      let (r, events) := r.fail e
      (r, false, events)

def splitAtStop : List Frame → List Frame × List Frame
  | [] => ([], [])
  | .stop :: rest => ([.stop], rest)
  | f :: rest =>
    let (first, later) := splitAtStop rest
    (f :: first, later)

/-- A sink is opened and takes over what is pending, in order; tells whether it does. A sink that
nobody takes from gets as far as the first frame, which is lost. -/
def attach (r : Run) (attended : Bool) : Run × Bool :=
  match attended, r.pending with
  | false, _ :: later => ({ r with pending := later }, false)
  | _, pending =>
    let (first, later) := splitAtStop pending
    ({ r with
        pending := later
        outbox := first
        attended
        sink := if first.any Frame.isStop then .completed else .present }, true)

def leave (r : Run) : Run := { r with attended := false }

def tag (r : Run) (reply : Reply) : Reply :=
  { reply with
    sessionId := r.sessionId
    requestId := reply.requestId.orElse fun _ => r.requestId }

def hear (r : Run) (d : Dialect) (message : Json) : Run × List Event × Inbound :=
  let result (r : Run) : Event := .result (r.tag (d.toReply message))
  match d.classify message with
  | .started => (r, [], .started)
  | .sessionCreated =>
    let r := { r with sessionId := d.sessionId message }
    (r, [result r], .delivered)
  | .data => (r, [result r], .delivered)
  | .turnDone =>
    if r.stopRequested then
      let (closed, events) := r.close .completed .completed
      (closed, result r :: events, .closed)
    else (r, [result r], .delivered)
  | .finished =>
    let (closed, events) := r.close .completed .completed
    (closed, (if d.hasOutput message then [result r] else []) ++ events, .closed)
  | .failed =>
    let e := (d.toError message).withRequestId r.requestId
    let (closed, events) := r.close (.failed e) (.failed (.api e))
    (closed, events, .closed)

def receive (r : Run) (d : Dialect) : WireFrame → Run × List Event × Except Error Inbound
  | .binary bytes => (r, [.result (r.tag (.binary bytes))], .ok .delivered)
  | .text s =>
    match Json.parse? s with
    | none => (r, [], .error .malformedJson)
    | some message =>
      let r := { r with requestId := r.requestId.orElse fun _ => d.requestId message }
      let (r, events, inbound) := r.hear d message
      (r, events, .ok inbound)

def ended (r : Run) : Run × List Event :=
  if r.stopRequested then r.close .completed .completed else r.fail .connectionClosed

def cancel (r : Run) : Run × List Event :=
  if r.cancelled || r.phase == .closed then (r, [])
  else
    let (r, events) := { r with cancelled := true }.close .cancelled .cancelled
    ({ r with abort := true }, events)

def superseded (r : Run) : Run :=
  { r with gate := r.gate.release .reset, abort := true, pending := [], sink := .absent }

end Run

end ModelServing.Session
