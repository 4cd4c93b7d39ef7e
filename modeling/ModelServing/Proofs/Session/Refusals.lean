import ModelServing.Proofs.Session.Consistency

/-! What is refused leaves no trace. Calls set flags and hand frames over before they can fail, so this
rests on how the parts of a run fit together: where a call can fail there is nothing left to undo, but
for the note of a marker that nobody takes any longer. -/
namespace ModelServing.Session

namespace Run
variable {r : Run} {lost : Prop}

theorem enqueueLost (r : Run) (f : Frame) :
    (r.enqueue f).2 = .error .connectionClosed ↔ r.refuses = false ∧ r.holdsSink = false := by
  have step := enqueues r f
  generalize r.enqueue f = entered at step
  cases step with
  | refused refused => simp [refused]
  | waits _ absent => simp [holdsSink, absent]
  | passes _ _ attended => simp [holdsSink, attended]
  | lost willing present unattended => simp [holdsSink, willing, present, unattended]
  | ended _ completed => simp [holdsSink, completed]

theorem Consistent.enqueueRefused (consistent : r.Consistent lost) (flags : r.FlagsAgree) {f : Frame}
    {e : Error} (refused : (r.enqueue f).2 = .error e) :
    (r.enqueue f).1 =
      if f = .stop ∧ e = .connectionClosed then { r with stopRequested := true } else r := by
  have step := enqueues r f
  generalize r.enqueue f = entered at step refused
  cases step with
  | refused =>
    cases refused
    simp
  | waits | passes => contradiction
  | lost willing present =>
    cases refused
    have started := (consistent.sunk (by rw [present]; decide)).1
    have unstopped := (willingOpen willing).2
    cases f with
    | stop => simp [Frame.isStop, ← started]
    | command value | binary bytes => simp [Frame.isStop, ← started, ← unstopped]
  | ended willing completed =>
    have unstopped := (willingOpen willing).2
    rw [flags.completed completed] at unstopped
    contradiction

theorem cancelClosed (closed : r.phase = .closed) : r.cancel = (r, []) := by
  simp [Run.cancel, closed]

theorem cancelCloses (ends : r.cancelled = true → r.phase = .closed) :
    r.cancel.1.phase = .closed := by
  by_cases closed : r.phase = .closed
  · rw [cancelClosed closed]
    exact closed
  · rcases cancelSteps r with same | ⟨_, same⟩
    · have refused : (r.cancelled || r.phase == .closed) = true := by
        by_cases either : (r.cancelled || r.phase == .closed) = true
        · exact either
        · rw [Run.cancel, if_neg either,
            closeOpen (r := { r with cancelled := true }) closed] at same
          cases congrArg Prod.snd same
      simp only [Bool.or_eq_true, beq_iff_eq] at refused
      exact absurd (refused.elim ends id) closed
    · rw [same]
      rfl

theorem requestStopRefused (ended : r.stopRequested = true ∨ r.phase = .closed) :
    r.requestStop = (r, false, []) := by
  have refused : r.refuses = true := by
    rcases ended with requested | closed
    · simp [refuses, requested]
    · simp [refuses, closed]
  rw [requestStop, if_pos refused]

theorem enqueueNotes {f : Frame} {launch : Bool} (taken : (r.enqueue f).2 = .ok launch) :
    (r.enqueue f).1.stopRequested = f.isStop := by
  have step := enqueues r f
  generalize r.enqueue f = entered at step taken
  cases step with
  | refused | lost | ended => contradiction
  | waits | passes => rfl

theorem requestStopLasts (ends : r.cancelled = true → r.phase = .closed) :
    r.requestStop.1.stopRequested = true ∨ r.requestStop.1.phase = .closed := by
  rcases requestStopSteps r with ⟨refused, same⟩ | ⟨r', result, entered, same⟩
  · rw [same]
    simp only [refuses, Bool.or_eq_true, beq_iff_eq] at refused
    rcases refused with (cancelled | closed) | requested
    · exact .inr (ends cancelled)
    · exact .inr closed
    · exact .inl requested
  · cases result with
    | ok launch =>
      have noted := enqueueNotes (congrArg Prod.snd entered)
      rw [entered] at noted
      rw [same]
      exact .inl noted
    | error e =>
      rw [same]
      exact .inr (Courier.closePhase _ _ _)

end Run

namespace Core

theorem deadUnheard {c : Core} {generation : Nat} (dead : c.isLive generation = false) :
    (∀ attended, c.attach generation attended = (c, false)) ∧
    (∀ d f, c.receive generation d f = (c, .ok .stale)) ∧
    c.ended generation = c ∧ ∀ e, c.failed generation e = c := by
  simp [attach, receive, ended, failed, dead]

theorem receiveFails {c : Core} {generation : Nat} {d : Dialect} {f : WireFrame} {e : Error}
    (failed : (c.receive generation d f).2 = .error e) : (c.receive generation d f).1 = c := by
  by_cases live : c.isLive generation = true
  · obtain ⟨r, events, result, same, reception⟩ := receiveSteps live d f
    rw [same] at failed ⊢
    dsimp only at failed ⊢
    cases reception with
    | goesOn unended verdict | ends json ended told => contradiction
    | fails json ended silent => exact becomeSame c
  · rw [receive, if_neg live]

end Core

def stopNoted (s : Session) : Session :=
  { s with core := { s.core with run := { s.core.run with stopRequested := true } } }

section
variable {setup : Setup} {s : Session}

theorem stopOver (ended : s.core.run.stopRequested = true ∨ s.core.run.phase = .closed) :
    s.act setup .stop = ⟨s, .ok (), []⟩ := by
  simp only [act, Core.requestStop, Run.requestStopRefused ended, Core.becomeSame, launchIf]

theorem cancelOver (closed : s.core.run.phase = .closed) :
    s.act setup .cancel = ⟨s, .ok (), []⟩ := by
  simp only [act, Core.cancel, Run.cancelClosed closed, Core.becomeSame]

theorem startRefused {e : Error} (refused : (s.act setup .start).result = .error e) :
    s.act setup .start = ⟨s, .error e, []⟩ := by
  simp only [act, Core.start] at refused ⊢
  split at refused
  · cases refused
    rfl
  · contradiction

theorem sendRefused {lost : Prop} (consistent : s.core.run.Consistent lost)
    (flags : s.core.run.FlagsAgree) {f : Frame} {e : Error}
    (refused : (s.act setup (.send f)).result = .error e) :
    s.act setup (.send f) =
      ⟨if s.losesMarker setup (.send f) = true then s.stopNoted else s, .error e, []⟩ := by
  have after := consistent.enqueueRefused flags (f := f) (e := e)
  have lost := s.losesMarkerIff setup f
  simp only [act, Core.send] at refused ⊢
  generalize s.core.run.enqueue f = entered at refused after lost
  obtain ⟨r, result⟩ := entered
  cases result with
  | ok launch => contradiction
  | error e' =>
    cases refused
    have noted := after rfl
    dsimp only at noted lost
    simp only [Except.error.injEq] at lost
    simp only [attempt, lost, noted]
    split
    · simp [stopNoted, Core.become]
    · rw [Core.becomeSame]

end

/-- A refused call leaves everything as it was, but a marker that is lost on its way into the sink is
noted down all the same. -/
theorem refusalsKeepState (setup : Setup) (actions : List Action) :
    let s := (new.run setup actions).1
    let r := s.core.run
    (∀ e, (s.act setup .start).result = .error e → s.act setup .start = ⟨s, .error e, []⟩) ∧
    (∀ f e, (s.act setup (.send f)).result = .error e →
      s.act setup (.send f) =
        ⟨if s.losesMarker setup (.send f) = true then s.stopNoted else s, .error e, []⟩) ∧
    (∀ f, s.losesMarker setup (.send f) = true ↔
      f = .stop ∧ r.refuses = false ∧ r.holdsSink = false) ∧
    (r.phase = .closed → s.act setup .cancel = ⟨s, .ok (), []⟩) ∧
    (r.stopRequested = true ∨ r.phase = .closed → s.act setup .stop = ⟨s, .ok (), []⟩) ∧
    (∀ action ∈ [Action.cancel, .stop], ∀ more,
      let later := ((s.act setup action).session.run setup more).1
      later.core.generation = s.core.generation →
        later.act setup action = ⟨later, .ok (), []⟩) ∧
    (∀ generation, generation ≠ s.core.generation ∨ r.phase = .closed →
      (∀ attended, s.core.attach generation attended = (s.core, false)) ∧
      (∀ d f, s.core.receive generation d f = (s.core, .ok .stale)) ∧
      s.core.ended generation = s.core ∧ ∀ e, s.core.failed generation e = s.core) ∧
    ∀ generation d f e, (s.core.receive generation d f).2 = .error e →
      (s.core.receive generation d f).1 = s.core := by
  intro s r
  have coherent : Coherent s (new.markersLost setup actions) := coherentRun setup actions
  have ends : r.cancelled = true → r.phase = .closed := fun cancelled =>
    (cancelledEnds setup actions cancelled).1
  refine ⟨fun e => startRefused, fun f e =>
    sendRefused coherent.consistent coherent.informed.flags, fun f => ?_, cancelOver, stopOver,
    fun action either more => ?_, fun generation ended => ?_, fun _ _ _ _ => Core.receiveFails⟩
  · rw [s.losesMarkerIff setup f, Run.enqueueLost]
  · intro later same
    have onward := (s.act setup action).session.runOnward setup more
    simp only [List.mem_cons, List.not_mem_nil, or_false] at either
    rcases either with rfl | rfl
    · have closed : (s.act setup .cancel).session.core.run.phase = .closed := Run.cancelCloses ends
      have far := (onward same).phase
      rw [closed] at far
      exact cancelOver (Run.closedRank far)
    · have core : (s.act setup .stop).session.core = s.core.requestStop.1 := launchIfCore _ setup _
      rw [core] at onward
      have far := onward same
      refine stopOver ?_
      rcases Run.requestStopLasts ends with requested | closed
      · exact .inl (far.stops requested)
      · have rank := far.phase
        rw [show s.core.requestStop.1.run.phase = .closed from closed] at rank
        exact .inr (Run.closedRank rank)
  · refine Core.deadUnheard ?_
    rcases ended with elsewhere | closed
    · exact Core.liveElsewhere elsewhere
    · simp [Core.isLive, show s.core.run.phase = .closed from closed]

def atHangUp : List Action :=
  [.start, .wake 0 .connected, .wake 0 .onward, .wake 0 (.arrived .hungUp)]

theorem refusedMarkerNoted :
    let s := (new.run realtimeSetup atHangUp).1
    let after := (s.act realtimeSetup (.send .stop)).session
    (s.act realtimeSetup (.send .stop)).result = .error .connectionClosed ∧
    s.core.run.stopRequested = false ∧ after.core.run.stopRequested = true ∧
    (s.act realtimeSetup (.wake 0 .onward)).session.core.run.gate.outcome ≠ some .completed ∧
    (after.act realtimeSetup (.wake 0 .onward)).session.core.run.gate.outcome = some .completed := by
  refine ⟨rfl, ?_⟩
  decide +kernel

end ModelServing.Session
