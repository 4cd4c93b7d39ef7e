import ModelServing.Gate
/-! The calls under way at a gate, one step at a time. A release stores its outcome and then notifies
everyone who has registered; a call that waits registers, looks at the gate and only then parks.
Others can come in between any two of these steps. Time moves on when all are at rest, and never past
a deadline. -/
namespace ModelServing

inductive Progress where
  | storing
  | notifying
  | returned (first : Bool)
  deriving DecidableEq, Repr

structure Release where
  outcome : Outcome
  progress : Progress
  deriving DecidableEq, Repr

/-- A call that was notified once it had registered does not stay parked. -/
inductive WaitStage where
  | unregistered
  | registered (notified : Bool)
  | parked (notified : Bool)
  | timing (notified : Bool)
  | answered (notice : Notice)
  | dropped
  deriving DecidableEq, Repr

def WaitStage.notice? : WaitStage → Option Notice
  | .answered notice => some notice
  | _ => none

structure WaitCall where
  since : Nat
  timeout : Option Nat
  stage : WaitStage
  deriving DecidableEq, Repr

namespace WaitCall

def deadline (g : WaitCall) : Option Nat := g.timeout.map (g.since + ·)

def isDue (g : WaitCall) (now : Nat) : Bool := g.deadline.any (· ≤ now)

def isWaiting (g : WaitCall) : Bool :=
  match g.stage with
  | .answered _ | .dropped => false
  | _ => true

def poll (g : WaitCall) (now : Nat) (gate : Gate) : WaitCall :=
  match g.stage with
  | .unregistered => { g with stage := .registered false }
  | .registered notified =>
    match gate.outcome with
    | some o => { g with stage := .answered ⟨now, some o⟩ }
    | none => { g with stage := .parked notified }
  | .parked true => { g with stage := .unregistered }
  | .parked false => { g with stage := .timing false }
  | .timing notified =>
    if g.isDue now then { g with stage := .answered ⟨now, none⟩ }
    else { g with stage := .parked notified }
  | .answered _ | .dropped => g

def waiter (g : WaitCall) : Waiter := ⟨g.deadline, g.stage.notice?⟩

def notify (g : WaitCall) : WaitCall :=
  match g.stage with
  | .registered _ => { g with stage := .registered true }
  | .parked _ => { g with stage := .parked true }
  | .timing _ => { g with stage := .timing true }
  | .unregistered | .answered _ | .dropped => g

def drop (g : WaitCall) : WaitCall := if g.isWaiting then { g with stage := .dropped } else g

def isAtRest (g : WaitCall) (now : Nat) : Bool :=
  match g.stage with
  | .answered _ | .dropped => true
  | .parked false => !g.isDue now
  | _ => false

end WaitCall

structure GateCalls where
  now : Nat
  gate : Gate
  releases : List Release
  waits : List WaitCall
  deriving DecidableEq, Repr

namespace GateCalls

inductive Move where
  | release (o : Outcome)
  | proceed (release : Nat)
  | wait (timeout : Option Nat)
  | poll (call : Nat)
  | drop (call : Nat)
  | pass (millis : Nat)
  deriving DecidableEq, Repr

def opened : GateCalls := ⟨0, .shut, [], []⟩

def isAtRest (l : GateCalls) : Bool :=
  l.releases.all (fun r => r.progress matches .returned _) && l.waits.all (·.isAtRest l.now)

def mayPass (l : GateCalls) (millis : Nat) : Bool :=
  l.isAtRest && l.waits.all fun g => !g.isWaiting || g.deadline.all (l.now + millis ≤ ·)

def proceed (l : GateCalls) (n : Nat) : GateCalls :=
  match l.releases[n]? with
  | some ⟨o, .storing⟩ =>
    if l.gate.isReleased then { l with releases := l.releases.set n ⟨o, .returned false⟩ }
    else { l with gate := l.gate.release o, releases := l.releases.set n ⟨o, .notifying⟩ }
  | some ⟨o, .notifying⟩ =>
    { l with releases := l.releases.set n ⟨o, .returned true⟩, waits := l.waits.map WaitCall.notify }
  | _ => l

def move (l : GateCalls) : Move → GateCalls
  | .release o => { l with releases := l.releases ++ [⟨o, .storing⟩] }
  | .proceed n => l.proceed n
  | .wait timeout => { l with waits := l.waits ++ [⟨l.now, timeout, .unregistered⟩] }
  | .poll n => { l with waits := l.waits.modify n (·.poll l.now l.gate) }
  | .drop n => { l with waits := l.waits.modify n WaitCall.drop }
  | .pass millis => if l.mayPass millis then { l with now := l.now + millis } else l

def play (l : GateCalls) (moves : List Move) : GateCalls := moves.foldl move l

def view (l : GateCalls) : TimedGate := ⟨l.now, l.gate, l.waits.map WaitCall.waiter⟩

end GateCalls

end ModelServing
