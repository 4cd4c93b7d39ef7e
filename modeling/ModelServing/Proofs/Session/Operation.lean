import ModelServing.Session.Core

/-! The operations of a core, and what one of them does to a run: whoever calls it and for whichever
generation, it either keeps the run as open as it was, perhaps with results to tell, or closes it
with one last event. Frames, sinks and identifiers are left out here. -/
namespace ModelServing.Session

def Event.outcome? : Event → Option Outcome
  | .result _ => none
  | .completed => some .completed
  | .failed e => some (.failed e.toApiError)
  | .cancelled => some .cancelled

namespace Run

structure Quiet (r r' : Run) : Prop where
  phase : r'.phase = .closed ↔ r.phase = .closed
  gate : r'.gate = r.gate
  cancelled : r'.cancelled = r.cancelled

theorem Quiet.refl (r : Run) : r.Quiet r := ⟨.rfl, rfl, rfl⟩

inductive Turn (r : Run) : Run → List Event → Prop where
  | goesOn {r'} (results : List Reply) (quiet : r.Quiet r')
      (heard : r.phase = .closed → results = []) : Turn r r' (results.map .result)
  | closes {r'} (results : List Reply) {last outcome} (wasOpen : r.phase ≠ .closed)
      (closed : r'.phase = .closed) (told : last.outcome? = some outcome)
      (gate : r'.gate = r.gate.release outcome)
      (cancelled : r'.cancelled = (r.cancelled || decide (last = .cancelled))) :
      Turn r r' (results.map .result ++ [last])

theorem Quiet.turn {r r' : Run} (quiet : r.Quiet r') : r.Turn r' [] := .goesOn [] quiet fun _ => rfl

-- The quiet part comes first: a start before a close, an identifier learned before a message.
theorem Turn.after {r r' s : Run} {events} (turn : r'.Turn s events) (quiet : r.Quiet r') :
    r.Turn s events := by
  cases turn with
  | goesOn results next heard =>
    refine .goesOn results ⟨next.phase.trans quiet.phase, ?_, ?_⟩ fun h => heard (quiet.phase.mpr h)
    · rw [next.gate, quiet.gate]
    · rw [next.cancelled, quiet.cancelled]
  | closes results wasOpen closed told gate cancelled =>
    refine .closes results (fun h => wasOpen (quiet.phase.mpr h)) closed told ?_ ?_
    · rw [gate, quiet.gate]
    · rw [cancelled, quiet.cancelled]

theorem Turn.afterResult {r s : Run} {events} (turn : r.Turn s events) (reply : Reply)
    (wasOpen : r.phase ≠ .closed) : r.Turn s (.result reply :: events) := by
  cases turn with
  | goesOn results quiet heard =>
    exact .goesOn (reply :: results) quiet fun h => absurd h wasOpen
  | closes results _ closed told gate cancelled =>
    exact .closes (reply :: results) wasOpen closed told gate cancelled

theorem startQuiet (r : Run) : r.Quiet r.start.1 := by
  unfold start
  split
  · rename_i idle
    exact ⟨by simp [idle], rfl, rfl⟩
  · exact .refl r

def isOpen (r : Run) : Bool := !r.cancelled && r.phase != .closed

theorem openPhase {r : Run} (wasOpen : r.isOpen = true) : r.phase ≠ .closed := by
  intro closed
  simp [isOpen, closed] at wasOpen

theorem willingOpen {r : Run} (willing : r.refuses = false) :
    r.isOpen = true ∧ r.stopRequested = false := by
  simp only [refuses, Bool.or_eq_false_iff, beq_eq_false_iff_ne] at willing
  obtain ⟨⟨cancelled, phase⟩, unstopped⟩ := willing
  exact ⟨by simp [isOpen, cancelled, phase], unstopped⟩

theorem startWilling {r : Run} (wasOpen : r.phase ≠ .closed) :
    r.start = ({ r with phase := .started }, decide (r.phase = .idle)) := by
  obtain ⟨phase⟩ := r
  cases phase with
  | idle | started => rfl
  | closed => contradiction

inductive Enqueues (r : Run) (f : Frame) : Run × Except Error Bool → Prop where
  | refused (refused : r.refuses = true) : Enqueues r f (r, .error .sessionClosed)
  | waits (willing : r.refuses = false) (absent : r.sink = .absent) :
      Enqueues r f ({ r with
        phase := .started, stopRequested := f.isStop, pending := r.pending ++ [f] },
        .ok (decide (r.phase = .idle)))
  | passes (willing : r.refuses = false) (present : r.sink = .present)
      (attended : r.attended = true) :
      Enqueues r f ({ r with
        phase := .started
        stopRequested := f.isStop
        outbox := r.outbox ++ [f]
        sink := if f.isStop then .completed else .present }, .ok (decide (r.phase = .idle)))
  | lost (willing : r.refuses = false) (present : r.sink = .present)
      (unattended : r.attended = false) :
      Enqueues r f ({ r with phase := .started, stopRequested := f.isStop },
        .error .connectionClosed)
  | ended (willing : r.refuses = false) (completed : r.sink = .completed) :
      Enqueues r f ({ r with phase := .started, stopRequested := f.isStop },
        .error .sessionClosed)

theorem enqueues (r : Run) (f : Frame) : r.Enqueues f (r.enqueue f) := by
  unfold enqueue
  split
  · exact .refused ‹_›
  · rename_i welcome
    have willing : r.refuses = false := Bool.eq_false_iff.mpr welcome
    rw [startWilling (openPhase (willingOpen willing).1)]
    dsimp only
    split
    · exact .waits willing ‹_›
    · split
      · exact .passes willing ‹_› ‹_›
      · exact .lost willing ‹_› (Bool.eq_false_iff.mpr ‹_›)
    · exact .ended willing ‹_›

theorem refusedEnqueue {r : Run} (refused : r.refuses = true) (f : Frame) :
    r.enqueue f = (r, .error .sessionClosed) := by
  rw [enqueue, if_pos refused]

theorem enqueueQuiet (r : Run) (f : Frame) : r.Quiet (r.enqueue f).1 := by
  have step := enqueues r f
  generalize r.enqueue f = entered at step
  cases step with
  | refused => exact .refl r
  | waits willing _ | passes willing _ _ | lost willing _ _ | ended willing _ =>
    exact ⟨by simp [openPhase (willingOpen willing).1], rfl, rfl⟩

theorem attachQuiet (r : Run) (attended : Bool) : r.Quiet (r.attach attended).1 := by
  unfold attach
  split <;> exact ⟨.rfl, rfl, rfl⟩

theorem closeOpen {r : Run} (wasOpen : r.phase ≠ .closed) (outcome : Outcome) (last : Event) :
    r.close outcome last = ({ r with
      phase := .closed, sink := .absent, pending := [], gate := r.gate.release outcome }, [last]) := by
  unfold close
  split
  · rename_i closed
    exact absurd closed wasOpen
  · rfl

theorem closeTurn {r : Run} {outcome last} (told : last.outcome? = some outcome)
    (other : last ≠ .cancelled) : r.Turn (r.close outcome last).1 (r.close outcome last).2 := by
  by_cases closed : r.phase = .closed
  · simp only [close, closed]
    exact (Quiet.refl r).turn
  · rw [closeOpen closed]
    exact .closes [] closed rfl told rfl (by simp [other])

theorem failTurn (r : Run) (e : Error) : r.Turn (r.fail e).1 (r.fail e).2 :=
  closeTurn rfl (by simp)

theorem endedTurn (r : Run) : r.Turn r.ended.1 r.ended.2 := by
  unfold ended
  split
  · exact closeTurn rfl (by simp)
  · exact failTurn r _

def abandoned (r : Run) : Run :=
  { r with
    phase := .closed
    sink := .absent
    pending := []
    cancelled := true
    gate := r.gate.release .cancelled
    abort := true }

theorem cancelSteps (r : Run) :
    r.cancel = (r, []) ∨ r.phase ≠ .closed ∧ r.cancel = (r.abandoned, [.cancelled]) := by
  unfold cancel
  split
  · exact .inl rfl
  · rename_i refused
    have wasOpen : r.phase ≠ .closed := fun h => refused (by simp [h])
    rw [closeOpen (r := { r with cancelled := true }) wasOpen]
    exact .inr ⟨wasOpen, rfl⟩

theorem cancelTurn (r : Run) : r.Turn r.cancel.1 r.cancel.2 := by
  rcases cancelSteps r with same | ⟨wasOpen, same⟩
  · rw [same]
    exact (Quiet.refl r).turn
  · rw [same]
    exact .closes [] wasOpen rfl rfl rfl (by simp [abandoned])

theorem requestStopSteps (r : Run) :
    (r.refuses = true ∧ r.requestStop = (r, false, [])) ∨
    ∃ r' result, r.enqueue .stop = (r', result) ∧
      match result with
      | .ok launch => r.requestStop = (r', launch, [])
      | .error e => r.requestStop = ((r'.fail e).1, false, (r'.fail e).2) := by
  unfold requestStop
  split
  · rename_i refused
    exact .inl ⟨refused, rfl⟩
  · cases r.enqueue .stop with
    | mk r' result =>
      refine .inr ⟨r', result, rfl, ?_⟩
      cases result with
      | ok launch | error e => rfl

theorem requestStopTurn (r : Run) : r.Turn r.requestStop.1 r.requestStop.2.2 := by
  have quiet := enqueueQuiet r .stop
  rcases requestStopSteps r with ⟨_, same⟩ | ⟨r', result, queued, same⟩
  · rw [same]
    exact (Quiet.refl r).turn
  · rw [queued] at quiet
    cases result with
    | ok launch =>
      rw [same]
      exact quiet.turn
    | error e =>
      rw [same]
      exact (failTurn r' e).after quiet

theorem hearTurn {r : Run} (wasOpen : r.phase ≠ .closed) (d : Dialect) (message : Json) :
    r.Turn (r.hear d message).1 (r.hear d message).2.1 := by
  unfold hear
  dsimp only
  split
  · exact (Quiet.refl r).turn
  · exact .goesOn [_] ⟨.rfl, rfl, rfl⟩ fun h => absurd h wasOpen
  · exact .goesOn [_] (.refl r) fun h => absurd h wasOpen
  · split
    · exact (closeTurn rfl (by simp)).afterResult _ wasOpen
    · exact .goesOn [_] (.refl r) fun h => absurd h wasOpen
  · split
    · exact (closeTurn rfl (by simp)).afterResult _ wasOpen
    · exact closeTurn rfl (by simp)
  · exact closeTurn rfl (by simp)

theorem receiveTurn {r : Run} (wasOpen : r.phase ≠ .closed) (d : Dialect) (f : WireFrame) :
    r.Turn (r.receive d f).1 (r.receive d f).2.1 := by
  unfold receive
  split
  · exact .goesOn [_] (.refl r) fun h => absurd h wasOpen
  · split
    · exact (Quiet.refl r).turn
    · rename_i message _
      have named := hearTurn
        (r := { r with requestId := r.requestId.orElse fun _ => d.requestId message })
        wasOpen d message
      exact named.after ⟨.rfl, rfl, rfl⟩

end Run

namespace Core

inductive Operation where
  | start
  | send (f : Frame)
  | requestStop
  | cancel
  | reset
  | attach (generation : Nat) (attended : Bool)
  | take (generation : Nat)
  | leave (generation : Nat)
  | receive (generation : Nat) (d : Dialect) (f : WireFrame)
  | ended (generation : Nat)
  | failed (generation : Nat) (e : Error)

def perform (c : Core) : Operation → Core
  | .start => c.start.1
  | .send f => (c.send f).1
  | .requestStop => c.requestStop.1
  | .cancel => c.cancel
  | .reset => c.reset
  | .attach generation attended => (c.attach generation attended).1
  | .take generation => c.take generation
  | .leave generation => c.leave generation
  | .receive generation d f => (c.receive generation d f).1
  | .ended generation => c.ended generation
  | .failed generation e => c.failed generation e

def performAll (c : Core) (operations : List Operation) : Core := operations.foldl perform c

inductive Turn (c : Core) : Core → Prop where
  | current {r events} (turn : c.run.Turn r events) : Turn c (c.become r events)
  | past {generation f} (quiet : ∀ r : Run, r.Quiet (f r)) :
      Turn c { c with past := c.past.modify generation f }
  | reset : Turn c c.reset

theorem resetGeneration (c : Core) : c.reset.generation = c.generation + 1 := by
  simp [generation, reset]

theorem becomeSame (c : Core) : c.become c.run [] = c := by simp [become]

theorem Turn.unchanged (c : Core) : c.Turn c := by
  have turn := Turn.current (c := c) (Run.Quiet.refl c.run).turn
  rwa [becomeSame] at turn

theorem liveOpen {c : Core} {generation : Nat} (live : c.isLive generation = true) :
    c.run.phase ≠ .closed := by
  intro closed
  simp [isLive, closed] at live

theorem modifyTurn (c : Core) (generation : Nat) {f : Run → Run} (quiet : ∀ r : Run, r.Quiet (f r)) :
    c.Turn (c.modify generation f) := by
  unfold modify
  split
  · have turn := Turn.current (c := c) (quiet c.run).turn
    simpa [become] using turn
  · exact .past quiet

theorem performTurn (c : Core) (operation : Operation) : c.Turn (c.perform operation) := by
  cases operation with
  | start =>
    simp only [perform, start]
    split
    · exact .unchanged c
    · exact .current (Run.startQuiet c.run).turn
  | send f => exact .current (Run.enqueueQuiet c.run f).turn
  | requestStop => exact .current (Run.requestStopTurn c.run)
  | cancel => exact .current (Run.cancelTurn c.run)
  | reset => exact .reset
  | attach generation attended =>
    simp only [perform, attach]
    split
    · exact .current (Run.attachQuiet c.run attended).turn
    · exact .unchanged c
  | take generation => exact modifyTurn c generation fun r => ⟨.rfl, rfl, rfl⟩
  | leave generation => exact modifyTurn c generation fun r => ⟨.rfl, rfl, rfl⟩
  | receive generation d f =>
    simp only [perform, receive]
    split
    · rename_i live
      exact .current (Run.receiveTurn (liveOpen live) d f)
    · exact .unchanged c
  | ended generation =>
    simp only [perform, ended]
    split
    · exact .current (Run.endedTurn c.run)
    · exact .unchanged c
  | failed generation e =>
    simp only [perform, failed]
    split
    · exact .current (Run.failTurn c.run e)
    · exact .unchanged c

theorem Turn.queues {c c' : Core} (turn : c.Turn c') : c.events <+: c'.events := by
  cases turn with
  | current turn => exact List.prefix_append _ _
  | past quiet => exact List.prefix_refl _
  | reset => exact List.prefix_refl _

end Core

end ModelServing.Session
