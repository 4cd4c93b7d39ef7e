import ModelServing.Gate
/-! The steps of a rehearsal at a gate, each taking a millisecond, and a report on each. -/
namespace ModelServing.TimedGate

inductive Step where
  | release (o : Outcome)
  | wait (timeout : Option Nat)
  | await (timeout : Nat)
  | rest (millis : Nat)
  deriving DecidableEq, Repr

inductive Said where
  | nothing
  | released (first : Bool)
  | waiting (index : Nat)
  | waited (outcome : Option Outcome) (millis : Nat)
  deriving DecidableEq, Repr

structure Report where
  said : Said
  gate : Gate
  noticed : List (Nat × Notice)
  deriving DecidableEq, Repr

def perform (v : TimedGate) : Step → Said × TimedGate
  | .release o =>
    let (first, v) := v.release o
    (.released first, v)
  | .wait timeout => (.waiting v.waiters.length, v.wait timeout)
  | .await timeout =>
    let (outcome, millis, v) := v.await timeout
    (.waited outcome millis, v)
  | .rest millis => (.nothing, v.pass millis)

def reports (v : TimedGate) : List Step → List Report
  | [] => []
  | step :: rest =>
    let (said, after) := v.perform step
    let after := after.pass 1
    ⟨said, after.gate, noticed v after⟩ :: reports after rest

end ModelServing.TimedGate

namespace ModelServing.Vigil

export TimedGate (Step Said begin)

end ModelServing.Vigil
