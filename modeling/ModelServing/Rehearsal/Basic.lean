import ModelServing.Conversation
import ModelServing.Recognition
import ModelServing.Rehearsal.Network
import ModelServing.Session.Timeline
import ModelServing.TaskStream
/-! Rehearsals: a session against scripted peers, on a clock that moves only when all is at rest. -/
namespace ModelServing

structure Rehearsal extends Session.Timeline where
  config : Config
  setup : Session.Setup
  network : Rehearsal.Network
  lines : List (Option Nat)
  reader : Session.Reader
  commands : Nat
  calls : Nat
  background : List Nat

namespace Rehearsal

open Session (Courier Signal)

def begin (config : Config) (setup : Session.Setup) (peers : List Peer) : Rehearsal :=
  ⟨.opened, config, setup, .ofPeers peers, [], .start, 0, 0, []⟩

def meet (r : Rehearsal) : Nat × Demand → Rehearsal
  | (_, .connect url headers) =>
    let (network, peer) := r.network.connect url headers
    { r with network, lines := r.lines ++ [peer] }
  | (n, demand) => { r with network := r.network.demand (r.lines[n]?.join) demand }

def act (r : Rehearsal) (action : Session.Action) : Except Error Unit × Rehearsal :=
  let (called, toTimeline) := r.toTimeline.act r.setup action
  (called.result, called.trace.foldl meet { r with toTimeline })

def stop (r : Rehearsal) (timeout : Duration) : Nat × Rehearsal :=
  let (called, toTimeline) := r.toTimeline.stop r.setup timeout
  (r.stops.length, called.trace.foldl meet { r with toTimeline })

def read (r : Rehearsal) : Option Session.Event × Rehearsal :=
  let (event, toTimeline) := r.toTimeline.read
  (event, { r with toTimeline })

def dueAbort (core : Session.Core) (c : Courier) (n : Network) : Option (Signal × Network) :=
  if c.isAborted core then some (.aborted, n) else none

def dueArrival (core : Session.Core) (c : Courier) (peer : Option Nat) (n : Network) :
    Option (Signal × Network) :=
  match peer.bind n.arrival? with
  | some (a, n) => some (.arrived a, n)
  | none => dueAbort core c n

def dueSend (peer : Option Nat) (f : WireFrame) (n : Network) : Option (Signal × Network) :=
  match peer.bind (n.send? · f) with
  | none => none
  | some (.ok (), n) => some (.sent, n)
  | some (.error e, n) => some (.sendFailed e, n)

/-- What a courier would be woken by. Of several things that could, what the caller has to send
comes first and an abort last. -/
def due (core : Session.Core) (c : Courier) (peer : Option Nat) (n : Network) :
    Option (Signal × Network) :=
  match c.stage with
  | .connecting =>
    match n.connected? peer with
    | some (.ok ()) => some (.connected, n)
    | some (.error e) => some (.refused e, n)
    | none => dueAbort core c n
  | .opening f => dueSend peer f n
  | .sending f => dueSend peer f n
  | .awaitingAck => dueArrival core c peer n
  | .pumping _ =>
    match c.next? core with
    | some signal => some (signal, n)
    | none => dueArrival core c peer n
  | .attaching | .leaving _ | .gone => (c.next? core).map (·, n)

def firstDue (core : Session.Core) (lines : List (Option Nat)) (network : Network) :
    Nat → List Courier → Option (Nat × Signal × Network)
  | _, [] => none
  | n, c :: rest =>
    match due core c (lines[n]?.join) network with
    | some (signal, network) => some (n, signal, network)
    | none => firstDue core lines network (n + 1) rest

def look (r : Rehearsal) : Rehearsal := { r with toTimeline := r.toTimeline.look }

def settleWithin : Nat → Rehearsal → Rehearsal
  | 0, r => r
  | wakes + 1, r =>
    match firstDue r.session.core r.lines r.network 0 r.session.couriers with
    | none => r
    | some (n, signal, network) =>
      settleWithin wakes ({ r with network }.act (.wake n signal)).2

/-- No courier is woken more often: each frame is taken and sent once, each arrival read once, and
a courier connects, opens, attaches the sink, stops listening to the caller, lets go and reports
once. -/
def wakesLeft (r : Rehearsal) : Nat :=
  let runs := r.session.core.run :: r.session.core.past
  let frames := runs.flatMap fun run => run.pending ++ run.outbox
  let arrivals := r.network.peers.flatMap (·.arrivals)
  2 * frames.length + arrivals.length + 6 * r.session.couriers.length

def settle (r : Rehearsal) : Rehearsal := (settleWithin r.wakesLeft r).look

def pass (r : Rehearsal) (millis : Nat) : Rehearsal :=
  { r with toTimeline := r.toTimeline.pass millis }.look

def cue (r : Rehearsal) (c : Cue) : Rehearsal := { r with network := r.network.cue c }.settle

end Rehearsal

end ModelServing
