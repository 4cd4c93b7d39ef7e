import ModelServing.Rehearsal.Network
import ModelServing.Route
/-! Calls against scripted peers. The peers speak over sockets only. -/
namespace ModelServing.Rehearsal

open TaskStream (Opening Signal)

def meetAll (peer : Option Nat) (n : Network) (demands : List Demand) : Network :=
  demands.foldl (fun n d => n.demand peer d) n

def dueOpening (setup : TaskStream.Setup) (o : Opening) (peer : Option Nat) (n : Network) :
    Option (Signal × Network) :=
  match o with
  | .connecting =>
    match n.connected? peer with
    | some (.ok ()) => some (.connected, n)
    | some (.error e) => some (.refused e, n)
    | none => none
  | .sending =>
    match peer.bind (n.send? · setup.envelope) with
    | some (.ok (), n) => some (.sent, n)
    | some (.error e, n) => some (.sendFailed e, n)
    | none => none
  | .opened | .refused _ => none

structure Call where
  setup : TaskStream.Setup
  peer : Option Nat
  call : TaskStream.Call

namespace Call

def due (c : Call) (n : Network) : Option (Signal × Network) :=
  match c.call.result, c.call.opening with
  | some _, _ => none
  | none, .opened => (c.peer.bind n.arrival?).map fun (a, n) => (.arrived a, n)
  | none, opening => dueOpening c.setup opening c.peer n

def advanceWithin : Nat → Call → Network → Call × Network
  | 0, c, n => (c, n)
  | signals + 1, c, n =>
    match c.due n with
    | none => (c, n)
    | some (signal, n) =>
      let (call, demands) := c.call.step c.setup signal
      advanceWithin signals { c with call } (meetAll c.peer n demands)

def advance (c : Call) (n : Network) : Call × Network :=
  advanceWithin ((n.peers.flatMap (·.arrivals)).length + 2) c n

def begin (setup : TaskStream.Setup) (n : Network) : Call × Network :=
  let (n, peer) := n.connect setup.url setup.headers
  advance ⟨setup, peer, (TaskStream.Call.begin setup).1⟩ n

def abandon (c : Call) (n : Network) : Network := meetAll c.peer n c.call.abandon

def run (route : Route) (n : Network) : Option (Except Error Reply) × Network :=
  match route with
  | .http _ => (some (.error .http), n)
  | .task setup =>
    let (c, n) := begin setup n
    (c.call.result, c.abandon n)

end Call

inductive Streamed where
  | unopened
  | refused (e : Error)
  | consumed (c : TaskStream.Consumed)

def openWithin (setup : TaskStream.Setup) (peer : Option Nat) :
    Nat → Opening → Network → Opening × Network
  | 0, o, n => (o, n)
  | signals + 1, o, n =>
    match dueOpening setup o peer n with
    | none => (o, n)
    | some (signal, n) =>
      let (o, demands) := o.step setup signal
      openWithin setup peer signals o (meetAll peer n demands)

def stream (route : Route) (reads : Nat) (n : Network) : Streamed × Network :=
  match route with
  | .http _ => (.refused .http, n)
  | .task setup =>
    let (n, peer) := n.connect setup.url setup.headers
    match openWithin setup peer 2 .connecting n, peer with
    | (.refused e, n), _ => (.refused e, n)
    | (.opened, n), some at_ =>
      let consumed := TaskStream.consume reads .reading (n.arrivals at_)
      (.consumed consumed,
        meetAll peer (n.leaveUnread at_ consumed.rest.length) (consumed.demands ++ [.giveUp]))
    | (_, n), _ => (.unopened, n.demand peer .giveUp)

end ModelServing.Rehearsal
