import ModelServing.Error
/-! Gates: each is released once, and everyone who waits at one learns the same outcome. Waiting is
timed by a clock in whole milliseconds. -/
namespace ModelServing

inductive Outcome where
  | completed
  | failed (e : ApiError)
  | cancelled
  | reset
  deriving DecidableEq, Repr

def Outcome.toResult : Outcome → Except Error Unit
  | completed => .ok ()
  | failed e => .error (.api e)
  | cancelled => .error .cancelled
  | reset => .error .sessionClosed

theorem Outcome.toResultIff (o : Outcome) :
    (o.toResult = .ok () ↔ o = .completed) ∧
    (∀ e, o.toResult = .error (.api e) ↔ o = .failed e) ∧
    (o.toResult = .error .cancelled ↔ o = .cancelled) ∧
    (o.toResult = .error .sessionClosed ↔ o = .reset) := by
  cases o <;> simp [toResult]

structure Gate where
  outcome : Option Outcome
  deriving DecidableEq, Repr

namespace Gate

def shut : Gate := ⟨none⟩

def isReleased (g : Gate) : Bool := g.outcome.isSome

def release (g : Gate) (o : Outcome) : Gate := ⟨some (g.outcome.getD o)⟩

theorem outcome_release (g : Gate) (o : Outcome) :
    (g.release o).outcome = some (g.outcome.getD o) := rfl

end Gate

structure Notice where
  time : Nat
  outcome : Option Outcome
  deriving DecidableEq, Repr

structure Waiter where
  deadline : Option Nat
  notice : Option Notice
  deriving DecidableEq, Repr

namespace Waiter

def look (w : Waiter) (now : Nat) (g : Gate) : Waiter :=
  match w.notice, g.outcome with
  | none, some o => { w with notice := some ⟨now, some o⟩ }
  | _, _ => w

def expire (w : Waiter) (now : Nat) : Waiter :=
  match w.notice, w.deadline with
  | none, some deadline =>
    if deadline ≤ now then { w with notice := some ⟨deadline, none⟩ } else w
  | _, _ => w

/-- The gate is looked at before the time is, so an open gate is passed in no time at all. -/
def start (now : Nat) (timeout : Option Nat) (g : Gate) : Waiter :=
  ((⟨timeout.map (now + ·), none⟩ : Waiter).look now g).expire now

end Waiter

structure TimedGate where
  now : Nat
  gate : Gate
  waiters : List Waiter
  deriving DecidableEq, Repr

namespace TimedGate

def begin : TimedGate := ⟨0, .shut, []⟩

def release (v : TimedGate) (o : Outcome) : Bool × TimedGate :=
  let gate := v.gate.release o
  (!v.gate.isReleased, { v with gate, waiters := v.waiters.map (·.look v.now gate) })

def wait (v : TimedGate) (timeout : Option Nat) : TimedGate :=
  { v with waiters := v.waiters ++ [.start v.now timeout v.gate] }

def pass (v : TimedGate) (millis : Nat) : TimedGate :=
  let now := v.now + millis
  { v with now, waiters := v.waiters.map (·.expire now) }

def await (v : TimedGate) (timeout : Nat) : Option Outcome × Nat × TimedGate :=
  match v.gate.outcome with
  | some o => (some o, 0, v)
  | none => (none, timeout, v.pass timeout)

def noticed (before after : TimedGate) : List (Nat × Notice) :=
  let fresh := after.waiters.mapIdx fun i w =>
    match (before.waiters[i]?.bind (·.notice)), w.notice with
    | none, some notice => some (i, notice)
    | _, _ => none
  (fresh.filterMap id).mergeSort fun a b => a.2.time ≤ b.2.time

end TimedGate

end ModelServing
