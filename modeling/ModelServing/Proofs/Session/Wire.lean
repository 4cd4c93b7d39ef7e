import ModelServing.Proofs.Log
import ModelServing.Session.Basic

/-! What a session has accepted from its callers, what it has passed to its connections, and what
should be on the wire of a run. Nothing is said here of what a connection makes of a frame. -/
namespace ModelServing

def Demand.frame? : Demand → Option WireFrame
  | .send f => some f
  | _ => none

namespace Session

def Trace.sends (trace : Trace) (n : Nat) : List WireFrame :=
  (entriesOf trace n).filterMap Demand.frame?

def admitted {α : Type} (f : Frame) : Except Error α → Option Frame
  | .ok _ => some f
  | .error _ => none

def accepts (s : Session) (setup : Setup) : Action → Option Frame
  | .send f => admitted f (s.act setup (.send f)).result
  | .stop => admitted .stop (s.act setup (.send .stop)).result
  | _ => none

def accepted (s : Session) (setup : Setup) : List Action → List (Nat × Frame)
  | [] => []
  | action :: rest =>
    (s.accepts setup action).toList.map (s.core.generation, ·) ++
      (s.act setup action).session.accepted setup rest

theorem acceptsSend (s : Session) (setup : Setup) (f : Frame) :
    s.accepts setup (.send f) = admitted f (s.core.run.enqueue f).2 := by
  simp only [accepts, act, Core.send]
  cases (s.core.run.enqueue f).2 with
  | ok launch => rfl
  | error e => rfl

theorem acceptsStop (s : Session) (setup : Setup) :
    s.accepts setup .stop = admitted .stop (s.core.run.enqueue .stop).2 :=
  acceptsSend s setup .stop

theorem launchIfCore (s : Session) (setup : Setup) (launch : Bool) :
    (s.launchIf setup launch).1.core = s.core := by
  cases launch <;> rfl

theorem attemptCore (s : Session) (setup : Setup) (attempted : Core × Except Error Bool) :
    (s.attempt setup attempted).session.core = attempted.1 := by
  obtain ⟨core, result⟩ := attempted
  cases result with
  | error e => rfl
  | ok launch => exact launchIfCore { s with core } setup launch

theorem sendsAppend (trace more : Trace) (n : Nat) :
    (Trace.sends (trace ++ more) n) = trace.sends n ++ Trace.sends more n := by
  simp only [Trace.sends, entriesOfAppend, List.filterMap_append]

theorem sendsOwn (n : Nat) (demands : List Demand) :
    Trace.sends (demands.map (n, ·)) n = demands.filterMap Demand.frame? := by
  rw [Trace.sends, entriesOfOwn]

theorem sendsOther {n other : Nat} (different : other ≠ n) (demands : List Demand) :
    Trace.sends (demands.map (other, ·)) n = [] := by
  rw [Trace.sends, entriesOfOther different, List.filterMap_nil]

namespace Setup

def openingOf (setup : Setup) (generation : Nat) : List WireFrame :=
  (setup.dialect.opening setup.request (setup.ids.task generation)
    (setup.ids.event generation 0)).toList

def shaped (setup : Setup) (generation used : Nat) (f : Frame) : WireFrame :=
  setup.dialect.shape f (setup.ids.task generation) (setup.ids.event generation used)

def wire (setup : Setup) (generation : Nat) (frames : List Frame) : List WireFrame :=
  setup.openingOf generation ++
    frames.mapIdx fun i f => setup.shaped generation ((setup.openingOf generation).length + i) f

/-- Nothing yet, or the wire of some of the frames, without a gap. -/
def Carried (setup : Setup) (generation : Nat) (frames : List Frame) (sent : List WireFrame) :
    Prop :=
  sent = [] ∨ ∃ taken, taken <+: frames ∧ sent = setup.wire generation taken

variable (setup : Setup) (generation : Nat)

theorem wireNil : setup.wire generation [] = setup.openingOf generation := by simp [wire]

theorem wireLength (frames : List Frame) :
    (setup.wire generation frames).length =
      (setup.openingOf generation).length + frames.length := by
  simp [wire]

theorem wireNext (frames : List Frame) (f : Frame) :
    setup.wire generation (frames ++ [f]) = setup.wire generation frames ++
      [setup.shaped generation (setup.wire generation frames).length f] := by
  rw [wireLength]
  simp only [wire, List.mapIdx_append, List.mapIdx_cons, List.mapIdx_nil, List.append_assoc,
    Nat.zero_add]

theorem wirePrefix {taken frames : List Frame} (part : taken <+: frames) :
    setup.wire generation taken <+: setup.wire generation frames := by
  obtain ⟨rest, rfl⟩ := part
  simp only [wire, List.mapIdx_append]
  rw [← List.append_assoc]
  exact List.prefix_append _ _

variable {setup generation}

theorem Carried.append {frames sent} (carried : setup.Carried generation frames sent)
    (more : List Frame) : setup.Carried generation (frames ++ more) sent := by
  rcases carried with nothing | ⟨taken, part, same⟩
  · exact .inl nothing
  · exact .inr ⟨taken, part.trans (List.prefix_append _ _), same⟩

end Setup

end Session

end ModelServing
