import ModelServing.Connection
/-! Scripted peers that are connected to one after the other, and a log of what they see. A peer may
make one wait for the connection or for a send, refuse the connection or fail sends; what it sends
itself waits on the connection until it is read. -/
namespace ModelServing.Rehearsal

structure Peer where
  opened : Bool
  refusal : Option Error
  released : Bool
  faultySend : Option (Nat × Error)
  sends : Nat
  taskId : Option String
  arrivals : List Arrival
  deriving DecidableEq

def Peer.ready : Peer := ⟨true, none, true, none, 0, none, []⟩

inductive Entry where
  | connect (url : String) (headers : Http.Headers)
  | sent (f : WireFrame) (peer : Nat)
  | closed (code : UInt16) (reason : String) (peer : Nat)
  | dropped (peer : Nat)
  deriving DecidableEq

inductive Cue where
  | push (peer : Nat) (arrivals : List Arrival)
  | accept (peer : Nat)
  | release (peer : Nat)
  deriving DecidableEq

structure Network where
  peers : List Peer
  used : Nat
  log : List Entry
  deriving DecidableEq

namespace Network

def ofPeers (peers : List Peer) : Network := ⟨peers, 0, []⟩

def modify (n : Network) (peer : Nat) (f : Peer → Peer) : Network :=
  { n with peers := n.peers.modify peer f }

def note (n : Network) (e : Entry) : Network := { n with log := n.log ++ [e] }

def cue (n : Network) : Cue → Network
  | .push peer arrivals => n.modify peer fun p => { p with arrivals := p.arrivals ++ arrivals }
  | .accept peer => n.modify peer fun p => { p with opened := true }
  | .release peer => n.modify peer fun p => { p with released := true }

def connect (n : Network) (url : String) (headers : Http.Headers) : Network × Option Nat :=
  let n := n.note (.connect url headers)
  if n.used < n.peers.length then ({ n with used := n.used + 1 }, some n.used) else (n, none)

def connected? (n : Network) : Option Nat → Option (Except Error Unit)
  | none => some (.error .connectionClosed)
  | some peer =>
    match n.peers[peer]? with
    | none => some (.error .connectionClosed)
    | some p =>
      if p.opened then
        match p.refusal with
        | none => some (.ok ())
        | some e => some (.error e)
      else none

def openedTask? (f : WireFrame) : Option String := do
  let header ← (← f.json?).get? "header"
  if header.textAt? "action" = some "run-task" then header.textAt? "task_id" else none

def Peer.sent (p : Peer) (f : WireFrame) : Peer :=
  { p with sends := p.sends + 1, taskId := (openedTask? f).orElse fun _ => p.taskId }

def send? (n : Network) (peer : Nat) (f : WireFrame) : Option (Except Error Unit × Network) :=
  match n.peers[peer]? with
  | none => some (.error .connectionClosed, n)
  | some p =>
    if p.released then
      match p.faultySend with
      | some (first, e) =>
        if first ≤ p.sends then some (.error e, n)
        else some (.ok (), (n.note (.sent f peer)).modify peer (Peer.sent · f))
      | none => some (.ok (), (n.note (.sent f peer)).modify peer (Peer.sent · f))
    else none

def taskPlaceholder : String := "$TASK"

def fill (taskId : Option String) : Arrival → Arrival
  | .frame (.text s) =>
    match taskId with
    | some id => .frame (.text (s.replace taskPlaceholder id))
    | none => .frame (.text s)
  | a => a

def arrivals (n : Network) (peer : Nat) : List Arrival :=
  match n.peers[peer]? with
  | none => []
  | some p => p.arrivals.map (fill p.taskId)

def leaveUnread (n : Network) (peer count : Nat) : Network :=
  n.modify peer fun p => { p with arrivals := p.arrivals.drop (p.arrivals.length - count) }

def arrival? (n : Network) (peer : Nat) : Option (Arrival × Network) :=
  match n.peers[peer]? with
  | none => none
  | some p =>
    match p.arrivals with
    | [] => none
    | a :: rest => some (fill p.taskId a, n.modify peer fun p => { p with arrivals := rest })

def demand (n : Network) (peer : Option Nat) : Demand → Network
  | .close code reason =>
    match peer with
    | some p => n.note (.closed code reason p)
    | none => n
  | .giveUp =>
    match peer with
    | some p => n.note (.dropped p)
    | none => n
  | _ => n

end Network

end ModelServing.Rehearsal
