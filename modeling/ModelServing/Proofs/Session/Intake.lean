import ModelServing.Proofs.Session.Operation
import ModelServing.Proofs.Session.Wire

/-! What callers and transports do to the frames of a run. An open run takes a frame in, behind all
others, or keeps what it has; a run that closes keeps only what its sink had already. -/
namespace ModelServing.Session

def Marked (frames : List Frame) (stopRequested : Bool) : Prop :=
  ∃ input : List Frame, (∀ f ∈ input, f.isStop = false) ∧
    (frames = input ∨ frames = input ++ [.stop] ∧ stopRequested = true)

theorem markedNil (stopRequested : Bool) : Marked [] stopRequested := ⟨[], by simp, .inl rfl⟩

theorem Marked.later {frames : List Frame} {before after : Bool} (marked : Marked frames before)
    (stops : before = true → after = true) : Marked frames after := by
  obtain ⟨input, unmarked, whole | ⟨ends, requested⟩⟩ := marked
  · exact ⟨input, unmarked, .inl whole⟩
  · exact ⟨input, unmarked, .inr ⟨ends, stops requested⟩⟩

theorem Marked.next {frames : List Frame} (marked : Marked frames false) (f : Frame) :
    Marked (frames ++ [f]) f.isStop := by
  obtain ⟨input, unmarked, whole | ⟨_, requested⟩⟩ := marked
  · subst whole
    cases f with
    | stop => exact ⟨frames, unmarked, .inr ⟨rfl, rfl⟩⟩
    | command value | binary bytes =>
      refine ⟨_, ?_, .inl rfl⟩
      intro x member
      rcases List.mem_append.mp member with old | new
      · exact unmarked x old
      · rw [List.mem_singleton.mp new]
        rfl
  · contradiction

theorem splitUnmarked {frames : List Frame} (unmarked : ∀ f ∈ frames, f.isStop = false) :
    Run.splitAtStop frames = (frames, []) ∧
      Run.splitAtStop (frames ++ [.stop]) = (frames ++ [.stop], []) := by
  induction frames with
  | nil => exact ⟨rfl, rfl⟩
  | cons f frames ih =>
    obtain ⟨whole, ends⟩ := ih fun x member => unmarked x (List.mem_cons_of_mem _ member)
    have own := unmarked f List.mem_cons_self
    cases f with
    | stop => contradiction
    | command value | binary bytes =>
      simp only [List.cons_append, Run.splitAtStop, whole, ends, and_self]

theorem Marked.split {frames : List Frame} {stopRequested} (marked : Marked frames stopRequested) :
    Run.splitAtStop frames = (frames, []) := by
  obtain ⟨input, unmarked, rfl | ⟨rfl, _⟩⟩ := marked
  · exact (splitUnmarked unmarked).1
  · exact (splitUnmarked unmarked).2

namespace Run

theorem Quiet.isOpen {r r' : Run} (quiet : r.Quiet r') : r'.isOpen = r.isOpen := by
  have phase : (r'.phase != .closed) = (r.phase != .closed) := by
    rw [Bool.eq_iff_iff, bne_iff_ne, bne_iff_ne, ne_eq, ne_eq, quiet.phase]
  rw [Run.isOpen, Run.isOpen, quiet.cancelled, phase]

structure Holds (r r' : Run) : Prop where
  outbox : r'.outbox = r.outbox
  pending : r'.pending = r.pending
  sink : r'.sink = r.sink
  attended : r'.attended = r.attended
  isOpen : r'.isOpen = r.isOpen
  abort : r'.abort = r.abort
  stops : r.stopRequested = true → r'.stopRequested = true
  idle : r'.phase = .idle → r' = r

inductive Fed (r : Run) : Run → Option Frame → Prop where
  | holds {r'} (holds : r.Holds r') : Fed r r' none
  | closes {r'} (outbox : r'.outbox = r.outbox) (phase : r'.phase = .closed)
      (stops : r.stopRequested = true → r'.stopRequested = true) (sink : r'.sink = .absent) :
      Fed r r' none
  | keeps {f} (willing : r.refuses = false) (sink : r.sink = .absent) :
      Fed r { r with phase := .started, stopRequested := f.isStop, pending := r.pending ++ [f] }
        (some f)
  | passes {f sink'} (willing : r.refuses = false) (sink : r.sink = .present)
      (attended : r.attended = true) (sunk : sink' ≠ .absent) :
      Fed r { r with
        phase := .started, stopRequested := f.isStop, outbox := r.outbox ++ [f], sink := sink' }
        (some f)

theorem Holds.refl (r : Run) : r.Holds r := ⟨rfl, rfl, rfl, rfl, rfl, rfl, id, fun _ => rfl⟩

theorem fedNothing (r : Run) : r.Fed r none := .holds (.refl r)

theorem Fed.close {r r' : Run} (fed : r.Fed r' none) (outcome : Outcome) (event : Event) :
    r.Fed (r'.close outcome event).1 none := by
  by_cases closed : r'.phase = .closed
  · simpa only [Run.close, closed] using fed
  · rw [closeOpen closed]
    cases fed with
    | holds holds => exact .closes holds.outbox rfl holds.stops rfl
    | closes outbox phase stops sink => exact absurd phase closed

theorem Fed.fail {r r' : Run} (fed : r.Fed r' none) (e : Error) : r.Fed (r'.fail e).1 none :=
  fed.close _ _

theorem endedFed (r : Run) : r.Fed r.ended.1 none := by
  unfold ended
  split
  · exact (fedNothing r).close _ _
  · exact (fedNothing r).fail _

theorem cancelFed (r : Run) : r.Fed r.cancel.1 none := by
  rcases cancelSteps r with same | ⟨wasOpen, same⟩
  · rw [same]
    exact fedNothing r
  · rw [same]
    exact .closes rfl rfl id rfl

theorem startFed {r : Run} (wasOpen : r.phase ≠ .closed) : r.Fed r.start.1 none := by
  have started := (startQuiet r).isOpen
  rw [startWilling wasOpen] at started ⊢
  exact .holds ⟨rfl, rfl, rfl, rfl, started, rfl, id, by simp⟩

theorem willingHolds {r : Run} (willing : r.refuses = false) (f : Frame) :
    r.Holds { r with phase := .started, stopRequested := f.isStop } := by
  obtain ⟨wasOpen, unstopped⟩ := willingOpen willing
  have quiet : r.Quiet { r with phase := .started, stopRequested := f.isStop } :=
    ⟨by simp [openPhase wasOpen], rfl, rfl⟩
  exact ⟨rfl, rfl, rfl, rfl, quiet.isOpen, rfl, by simp [unstopped], by simp⟩

theorem enqueueFed (r : Run) (f : Frame) :
    r.Fed (r.enqueue f).1 (admitted f (r.enqueue f).2) := by
  have step := enqueues r f
  generalize r.enqueue f = entered at step
  cases step with
  | refused => exact fedNothing r
  | waits willing absent => exact .keeps willing absent
  | passes willing present attended =>
    exact .passes willing present attended (by split <;> decide)
  | lost willing _ _ | ended willing _ => exact .holds (willingHolds willing f)

theorem requestStopFed (r : Run) :
    r.Fed r.requestStop.1 (admitted .stop (r.enqueue .stop).2) := by
  have fed := enqueueFed r .stop
  rcases requestStopSteps r with ⟨refused, same⟩ | ⟨r', result, queued, same⟩
  · rw [same, refusedEnqueue refused]
    exact fedNothing r
  · rw [queued] at fed ⊢
    cases result with
    | ok launch =>
      rw [same]
      exact fed
    | error e =>
      rw [same]
      exact fed.fail e

theorem receiveFed {r : Run} (busy : r.phase ≠ .idle) (d : Dialect) (f : WireFrame) :
    r.Fed (r.receive d f).1 none := by
  have named (sessionId requestId : Option String) : r.Holds { r with sessionId, requestId } :=
    ⟨rfl, rfl, rfl, rfl, rfl, rfl, id, fun h => absurd h busy⟩
  unfold receive
  split
  · exact fedNothing r
  · split
    · exact fedNothing r
    · simp only [hear]
      split
      · exact .holds (named _ _)
      · exact .holds (named _ _)
      · exact .holds (named _ _)
      · split
        · exact (Fed.holds (named _ _)).close _ _
        · exact .holds (named _ _)
      · exact (Fed.holds (named _ _)).close _ _
      · exact (Fed.holds (named _ _)).close _ _

def sunk (r : Run) : Run :=
  { r with
    pending := []
    outbox := r.pending
    attended := true
    sink := if r.pending.any Frame.isStop then .completed else .present }

theorem attachSunk {r : Run} {stopRequested : Bool} (marked : Marked r.pending stopRequested) :
    r.attach true = (r.sunk, true) := by
  simp only [attach, marked.split, sunk]

theorem sunkSink (r : Run) : r.sunk.sink ≠ .absent := by
  dsimp only [sunk]
  split <;> decide

end Run

end ModelServing.Session
