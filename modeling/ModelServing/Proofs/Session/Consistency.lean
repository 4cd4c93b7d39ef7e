import ModelServing.Proofs.Session.Loss
import ModelServing.Proofs.Session.Outcome
import ModelServing.Proofs.Session.Informed

/-! How the parts of a run fit together. What is pending, the sink, the stop marker and the phase are
written by different calls, and none of them can be understood without the others: who opens a sink
empties what is pending, and who stops puts the marker behind it or completes the sink. -/
namespace ModelServing.Session

namespace Run

def holdsSink (r : Run) : Bool := r.sink != .present || r.attended

theorem stopOfMarker {f : Frame} (ends : f.isStop = true) : f = .stop := by
  cases f with
  | stop => rfl
  | command value | binary bytes => contradiction

/-- With `lost` a marker was noted down that never got into the sink. -/
structure Consistent (r : Run) (lost : Prop) : Prop where
  sunk : r.sink ≠ .absent → r.phase = .started ∧ r.pending = []
  emptied : r.phase = .closed → r.pending = []
  marked : Marked r.pending r.stopRequested
  stopped : r.phase = .started → r.stopRequested = true →
    r.pending.getLast? = some .stop ∨ r.sink = .completed ∨ lost
  refused : lost → r.phase ≠ .closed →
    r.sink = .present ∧ r.attended = false ∧ r.stopRequested = true

section
variable {r r' : Run} {lost : Prop}

theorem idleConsistent (kept : ¬lost) : Run.idle.Consistent lost where
  sunk opened := absurd rfl opened
  emptied closed := by contradiction
  marked := markedNil false
  stopped started := by contradiction
  refused so := absurd so kept

theorem closedConsistent (phase : r.phase = .closed) (sink : r.sink = .absent)
    (pending : r.pending = []) : r.Consistent lost where
  sunk opened := absurd sink opened
  emptied _ := pending
  marked := by
    rw [pending]
    exact markedNil _
  stopped started := by
    rw [phase] at started
    contradiction
  refused _ wasOpen := absurd phase wasOpen

theorem Consistent.closedSink (consistent : r.Consistent lost) (closed : r.phase = .closed) :
    r.sink = .absent := by
  by_cases absent : r.sink = .absent
  · exact absent
  · have started := (consistent.sunk absent).1
    rw [closed] at started
    contradiction

theorem Consistent.same {lost' : Prop} (consistent : r.Consistent lost) (same : lost' ↔ lost) :
    r.Consistent lost' := by
  rwa [propext same]

theorem Consistent.kept (consistent : r.Consistent lost) (wasOpen : r.phase ≠ .closed)
    (held : r.holdsSink = true ∨ r.stopRequested = false) : ¬lost := by
  intro so
  obtain ⟨present, unattended, requested⟩ := consistent.refused so wasOpen
  simp [holdsSink, present, unattended, requested] at held

theorem Consistent.keep (consistent : r.Consistent lost) (phase : r'.phase = r.phase)
    (pending : r'.pending = r.pending) (sink : r'.sink = r.sink)
    (stops : r'.stopRequested = r.stopRequested)
    (unattended : r.attended = false → r'.attended = false) : r'.Consistent lost where
  sunk opened := by
    rw [phase, pending]
    exact consistent.sunk (sink ▸ opened)
  emptied closed := by
    rw [pending]
    exact consistent.emptied (phase.symm.trans closed)
  marked := by
    rw [pending, stops]
    exact consistent.marked
  stopped started requested := by
    rw [pending, sink]
    exact consistent.stopped (phase.symm.trans started) (stops.symm.trans requested)
  refused so wasOpen := by
    obtain ⟨present, left, requested⟩ := consistent.refused so (phase ▸ wasOpen)
    exact ⟨sink.trans present, unattended left, stops.trans requested⟩

theorem Consistent.start (consistent : r.Consistent lost)
    (untouched : r.phase = .idle → r = .idle) : r.start.1.Consistent lost := by
  unfold Run.start
  split
  · rename_i idle
    have kept := consistent.kept (by simp [idle]) (by simp [untouched idle, Run.idle])
    rw [untouched idle]
    exact ⟨by simp [Run.idle], by simp, markedNil false, by simp [Run.idle], fun so => absurd so kept⟩
  · exact consistent

theorem Consistent.close (consistent : r.Consistent lost) (outcome : Outcome) (event : Event) :
    (r.close outcome event).1.Consistent lost := by
  by_cases closed : r.phase = .closed
  · simpa only [Run.close, closed] using consistent
  · rw [closeOpen closed]
    exact closedConsistent rfl rfl rfl

theorem Consistent.ended (consistent : r.Consistent lost) : r.ended.1.Consistent lost := by
  unfold Run.ended
  split <;> exact consistent.close _ _

theorem Consistent.cancel (consistent : r.Consistent lost) : r.cancel.1.Consistent lost := by
  rcases cancelSteps r with same | ⟨wasOpen, same⟩
  · rw [same]
    exact consistent
  · rw [same]
    exact closedConsistent rfl rfl rfl

-- The marker is the last frame that a run accepts, so it ends up behind all that is pending or, with
-- a sink, completes it; only a sink that nobody takes from lets the request through without it.
theorem Consistent.enqueue (consistent : r.Consistent lost) (flags : r.FlagsAgree) (f : Frame) :
    (r.enqueue f).1.Consistent (lost ∨ f = .stop ∧ (r.enqueue f).2 = .error .connectionClosed) := by
  have kept (willing : r.refuses = false) : ¬lost :=
    consistent.kept (openPhase (willingOpen willing).1) (.inr (willingOpen willing).2)
  have step := enqueues r f
  generalize r.enqueue f = entered at step
  cases step with
  | refused => exact consistent.same (by simp)
  | waits willing absent =>
    have marked := consistent.marked
    rw [(willingOpen willing).2] at marked
    refine ⟨fun opened => absurd absent opened, by simp, marked.next f, fun _ ends => ?_, ?_⟩
    · dsimp only at ends ⊢
      rw [stopOfMarker ends, List.getLast?_concat]
      exact .inl rfl
    · simp [kept willing]
  | passes willing present attended =>
    obtain ⟨-, empty⟩ := consistent.sunk (by rw [present]; decide)
    refine ⟨fun _ => ⟨rfl, empty⟩, by simp, empty ▸ markedNil _, fun _ ends => ?_, ?_⟩
    · dsimp only at ends ⊢
      rw [if_pos ends]
      exact .inr (.inl rfl)
    · simp [kept willing]
  | lost willing present unattended =>
    obtain ⟨-, empty⟩ := consistent.sunk (by rw [present]; decide)
    refine ⟨fun _ => ⟨rfl, empty⟩, by simp, empty ▸ markedNil _, fun _ ends => ?_, ?_⟩
    · exact .inr (.inr (.inr ⟨stopOfMarker ends, rfl⟩))
    · rintro (before | ⟨rfl, -⟩) -
      · exact absurd before (kept willing)
      · exact ⟨present, unattended, rfl⟩
  | ended willing completed =>
    have unstopped := (willingOpen willing).2
    rw [flags.completed completed] at unstopped
    contradiction

-- Whoever asks for a stop and does not get the marker in closes the run at once.
theorem Consistent.requestStop (consistent : r.Consistent lost) (flags : r.FlagsAgree) :
    r.requestStop.1.Consistent lost := by
  have queued := consistent.enqueue flags .stop
  rcases requestStopSteps r with ⟨_, same⟩ | ⟨r', result, entered, same⟩
  · rw [same]
    exact consistent
  · rw [entered] at queued
    cases result with
    | ok launch =>
      rw [same]
      exact queued.same (by simp)
    | error e =>
      rw [same]
      have closed := Courier.closePhase r' (.failed e.toApiError) (.failed e)
      have ended := queued.close (.failed e.toApiError) (.failed e)
      exact closedConsistent closed (ended.closedSink closed) (ended.emptied closed)

theorem Consistent.receive (consistent : r.Consistent lost) {d : Dialect} {f : WireFrame}
    {events result} (reception : r.Reception d f (r', events, result)) : r'.Consistent lost := by
  cases reception with
  | goesOn unended verdict => exact consistent.keep rfl rfl rfl rfl id
  | ends json ended told =>
    have named : (r.named d f).Consistent lost := consistent.keep rfl rfl rfl rfl id
    exact named.close _ _
  | fails json ended silent => exact consistent

theorem Consistent.sunkRun (consistent : r.Consistent lost) (started : r.phase = .started)
    (absent : r.sink = .absent) : r.sunk.Consistent lost := by
  have kept := consistent.kept (by simp [started]) (.inl (by simp [holdsSink, absent]))
  refine ⟨fun _ => ⟨started, rfl⟩, fun _ => rfl, markedNil _, fun _ requested => ?_,
    fun so => absurd so kept⟩
  rcases consistent.stopped started requested with last | completed | so
  · have marker : r.pending.any Frame.isStop = true :=
      List.any_eq_true.mpr ⟨_, List.mem_of_getLast? last, rfl⟩
    exact .inr (.inl (if_pos marker))
  · rw [absent] at completed
    contradiction
  · exact absurd so kept

theorem Consistent.leave (consistent : r.Consistent lost) : r.leave.Consistent lost :=
  consistent.keep rfl rfl rfl rfl fun _ => rfl

theorem Consistent.take (consistent : r.Consistent lost) :
    ({ r with outbox := r.outbox.tail } : Run).Consistent lost :=
  consistent.keep rfl rfl rfl rfl id

theorem Consistent.lastMarker (consistent : r.Consistent lost) {before after : List Frame}
    (parts : r.pending = before ++ .stop :: after) : after = [] := by
  obtain ⟨input, unmarked, whole | ⟨ends, -⟩⟩ := consistent.marked
  · have inside : Frame.stop ∈ input := by
      rw [← whole, parts]
      simp
    exact absurd (unmarked _ inside) (by decide)
  · rcases after.eq_nil_or_concat with nothing | ⟨rest, last, rfl⟩
    · exact nothing
    · rw [parts] at ends
      have moved : before ++ .stop :: rest ++ [last] = input ++ [.stop] := by simpa using ends
      have inside : Frame.stop ∈ input := by
        rw [← (List.append_inj' moved rfl).1]
        simp
      exact absurd (unmarked _ inside) (by decide)

theorem Consistent.pendingMarker (consistent : r.Consistent lost)
    (last : r.pending.getLast? = some .stop) : r.stopRequested = true :=
  Marked.stopped consistent.marked (List.any_eq_true.mpr ⟨_, List.mem_of_getLast? last, rfl⟩)

end

end Run

def Phase.rank : Phase → Nat
  | .idle => 0
  | .started => 1
  | .closed => 2

namespace Run

structure Onward (r r' : Run) : Prop where
  phase : r.phase.rank ≤ r'.phase.rank
  stops : r.stopRequested = true → r'.stopRequested = true

section
variable {r r' r'' : Run}

theorem Onward.refl (r : Run) : r.Onward r := ⟨Nat.le_refl _, id⟩

theorem Onward.trans (first : r.Onward r') (second : r'.Onward r'') : r.Onward r'' :=
  ⟨Nat.le_trans first.phase second.phase, second.stops ∘ first.stops⟩

theorem Onward.keep (phase : r'.phase = r.phase) (stops : r'.stopRequested = r.stopRequested) :
    r.Onward r' :=
  ⟨Nat.le_of_eq (by rw [phase]), fun requested => stops.trans requested⟩

theorem closedRank {phase : Phase} (late : Phase.closed.rank ≤ phase.rank) : phase = .closed := by
  cases phase with
  | closed => rfl
  | idle | started => simp [Phase.rank] at late

theorem rankLe (phase : Phase) : phase.rank ≤ Phase.closed.rank := by
  cases phase <;> decide

theorem startedRank {phase : Phase} (wasOpen : phase ≠ .closed) :
    phase.rank ≤ Phase.started.rank := by
  cases phase with
  | idle | started => decide
  | closed => contradiction

theorem closeOnward (r : Run) (outcome : Outcome) (event : Event) :
    r.Onward (r.close outcome event).1 := by
  refine ⟨by rw [Courier.closePhase]; exact rankLe _, fun requested => ?_⟩
  unfold Run.close
  split <;> exact requested

theorem startOnward (r : Run) : r.Onward r.start.1 := by
  unfold Run.start
  split
  · rename_i idle
    exact ⟨by simp [idle, Phase.rank], id⟩
  · exact .refl r

theorem enqueueOnward (r : Run) (f : Frame) : r.Onward (r.enqueue f).1 := by
  have step := enqueues r f
  generalize r.enqueue f = entered at step
  cases step with
  | refused => exact .refl r
  | waits willing _ | passes willing _ _ | lost willing _ _ | ended willing _ =>
    obtain ⟨wasOpen, unstopped⟩ := willingOpen willing
    exact ⟨startedRank (openPhase wasOpen), by simp [unstopped]⟩

theorem requestStopOnward (r : Run) : r.Onward r.requestStop.1 := by
  have queued := enqueueOnward r .stop
  rcases requestStopSteps r with ⟨_, same⟩ | ⟨r', result, entered, same⟩
  · rw [same]
    exact .refl r
  · rw [entered] at queued
    cases result with
    | ok launch =>
      rw [same]
      exact queued
    | error e =>
      rw [same]
      exact queued.trans (closeOnward _ _ _)

theorem cancelOnward (r : Run) : r.Onward r.cancel.1 := by
  rcases cancelSteps r with same | ⟨_, same⟩
  · rw [same]
    exact .refl r
  · rw [same]
    exact ⟨rankLe _, id⟩

theorem attachOnward (r : Run) (attended : Bool) : r.Onward (r.attach attended).1 := by
  unfold Run.attach
  split <;> exact .keep rfl rfl

theorem receiveOnward {d : Dialect} {f : WireFrame} {events result}
    (reception : r.Reception d f (r', events, result)) : r.Onward r' := by
  cases reception with
  | goesOn unended verdict => exact .keep rfl rfl
  | ends json ended told =>
    have named : r.Onward (r.named d f) := .keep rfl rfl
    exact named.trans (closeOnward _ _ _)
  | fails json ended silent => exact .refl r

theorem endedOnward (r : Run) : r.Onward r.ended.1 := by
  unfold Run.ended
  split <;> exact closeOnward _ _ _

end

end Run

namespace Core

def Onward (c c' : Core) : Prop := c'.generation = c.generation → c.run.Onward c'.run

theorem modifyOnward (c : Core) (generation : Nat) {f : Run → Run}
    (onward : c.run.Onward (f c.run)) : c.Onward (c.modify generation f) := by
  intro _
  unfold modify
  split
  · exact onward
  · exact .refl _

theorem performOnward (c : Core) (operation : Operation) : c.Onward (c.perform operation) := by
  intro same
  cases operation with
  | start =>
    simp only [perform, start]
    split
    · exact .refl _
    · exact Run.startOnward c.run
  | send f => exact Run.enqueueOnward c.run f
  | requestStop => exact Run.requestStopOnward c.run
  | cancel => exact Run.cancelOnward c.run
  | reset =>
    rw [show c.perform .reset = c.reset from rfl, resetGeneration] at same
    omega
  | attach generation attended =>
    simp only [perform, attach]
    split
    · exact Run.attachOnward c.run attended
    · exact .refl _
  | take generation => exact modifyOnward c generation (.keep rfl rfl) same
  | leave generation => exact modifyOnward c generation (.keep rfl rfl) same
  | receive generation d f =>
    by_cases live : c.isLive generation = true
    · obtain ⟨r, events, result, told, reception⟩ := receiveSteps live d f
      rw [perform, told]
      exact Run.receiveOnward reception
    · rw [perform, receive, if_neg live]
      exact .refl _
  | ended generation =>
    simp only [perform, ended]
    split
    · exact Run.endedOnward c.run
    · exact .refl _
  | failed generation e =>
    simp only [perform, failed]
    split
    · exact Run.closeOnward c.run _ _
    · exact .refl _

-- Generations only grow, so where the last one is the first one nothing in between was reset.
theorem performAllOnward (c : Core) (operations : List Operation) :
    c.generation ≤ (c.performAll operations).generation ∧ c.Onward (c.performAll operations) := by
  induction operations generalizing c with
  | nil => exact ⟨Nat.le_refl _, fun _ => .refl _⟩
  | cons operation rest ih =>
    have later := (performTurn c operation).later
    obtain ⟨further, onward⟩ := ih (c.perform operation)
    refine ⟨Nat.le_trans later further, fun same => ?_⟩
    have whole : (c.performAll (operation :: rest)).generation = c.generation := same
    rw [performAll, List.foldl_cons, ← performAll] at whole
    exact (performOnward c operation (by omega)).trans (onward (by omega))

end Core

theorem runOnward (s : Session) (setup : Setup) (actions : List Action) :
    s.core.Onward (s.run setup actions).1.core := by
  obtain ⟨operations, same⟩ := s.runPerforms setup actions
  rw [same]
  exact (s.core.performAllOnward operations).2

/-- A marker is handed in as a frame when nobody takes from the sink any longer: the run counts as
stopped all the same. -/
def losesMarker (s : Session) (setup : Setup) : Action → Bool
  | .send .stop =>
    match (s.act setup (.send .stop)).result with
    | .error .connectionClosed => true
    | _ => false
  | _ => false

def markersLost (s : Session) (setup : Setup) : List Action → List Nat
  | [] => []
  | action :: rest =>
    (if s.losesMarker setup action then [s.core.generation] else []) ++
      (s.act setup action).session.markersLost setup rest

theorem losesMarkerIff (s : Session) (setup : Setup) (f : Frame) :
    s.losesMarker setup (.send f) = true ↔
      f = .stop ∧ (s.core.run.enqueue f).2 = .error .connectionClosed := by
  cases f with
  | command value | binary bytes => simp [losesMarker]
  | stop =>
    simp only [losesMarker, act, Core.send, true_and]
    generalize s.core.run.enqueue .stop = entered
    obtain ⟨r, result⟩ := entered
    cases result with
    | ok launch => simp [attempt]
    | error e => cases e <;> simp [attempt]

section
variable {setup : Setup} {s : Session} {trace : Trace} {accepted : List (Nat × Frame)} {c : Courier}
  {core core' : Core} {frames : List Frame} {sent : List WireFrame} {lost : Prop}

theorem Courier.Serves.unsunk (serves : c.Serves setup core frames sent)
    (attaching : c.stage = .attaching) (live : core.isLive c.generation = true) :
    core.run.phase = .started ∧ core.run.sink = .absent := by
  have current := Core.liveIs live
  have withRun := serves.current current
  have wasOpen := live
  rw [current, Core.liveCurrent] at wasOpen
  have carries := withRun.carries
  rw [attaching, wasOpen] at carries
  refine ⟨?_, ?_⟩
  · cases phase : core.run.phase with
    | started => rfl
    | idle => exact absurd phase withRun.busy
    | closed => exact absurd phase (Run.openPhase wasOpen)
  · cases carries with
    | attaching waits => exact waits.sink rfl

theorem Core.modifyConsistent (consistent : core.run.Consistent lost) (generation : Nat)
    {f : Run → Run} (keeps : (f core.run).Consistent lost) :
    (core.modify generation f).run.Consistent lost := by
  unfold Core.modify
  split
  · exact keeps
  · exact consistent

theorem Core.receiveConsistent (consistent : core.run.Consistent lost) (generation : Nat)
    (d : Dialect) (f : WireFrame) : (core.receive generation d f).1.run.Consistent lost := by
  by_cases live : core.isLive generation = true
  · obtain ⟨r, events, result, same, reception⟩ := Core.receiveSteps live d f
    rw [same]
    exact consistent.receive reception
  · rw [Core.receive, if_neg live]
    exact consistent

theorem Courier.reportConsistent (consistent : core.run.Consistent lost) (failure : Option Error) :
    (c.report core failure).core.run.Consistent lost := by
  cases failure with
  | none =>
    simp only [report, Core.ended]
    split
    · exact consistent.ended
    · exact consistent
  | some e =>
    simp only [report, Core.failed]
    split
    · exact consistent.close _ _
    · exact consistent

theorem Courier.stepConsistent (serves : c.Serves setup core frames sent)
    (consistent : core.run.Consistent lost) (signal : Signal) :
    (c.step setup core signal).core.run.Consistent lost := by
  have course := stepCourse setup c core signal
  generalize c.step setup core signal = move at course
  cases course with
  | stays deaf | advances deaf next | opens connecting first => exact consistent
  | attaches attaching attached =>
    obtain ⟨rfl, -, -⟩ := serves.sinks attaching attached
    by_cases live : core.isLive c.generation = true
    · obtain ⟨started, absent⟩ := serves.unsunk attaching live
      exact consistent.sunkRun started absent
    · simp [Core.attach, live] at attached
  | sends pumping offered => exact Core.modifyConsistent consistent _ consistent.take
  | @reads f core' inbound stage listening received goesOn =>
    have told := Core.receiveConsistent consistent c.generation setup.dialect f
    rwa [received] at told
  | @dismissed f core' result failure demands listening received verdict farewell =>
    have told := Core.receiveConsistent consistent c.generation setup.dialect f
    rw [received] at told
    exact Core.modifyConsistent told _ told.leave
  | departs deaf underway farewell => exact Core.modifyConsistent consistent _ consistent.leave
  | reports leaving => exact reportConsistent consistent _

theorem actGeneration (sound : Sound setup s trace accepted) {action : Action}
    (goesOn : action ≠ .reset) :
    (s.act setup action).session.core.generation = s.core.generation := by
  cases action with
  | start =>
    rw [act, attemptCore, Core.start]
    split <;> rfl
  | send f =>
    rw [act, attemptCore]
    rfl
  | stop =>
    have core : (s.act setup .stop).session.core = s.core.requestStop.1 := launchIfCore _ setup _
    rw [core]
    rfl
  | cancel => rfl
  | reset => contradiction
  | wake n signal =>
    simp only [act, wake]
    cases found : s.couriers[n]? with
    | none => rfl
    | some courier =>
      exact (Courier.stepKeepsServing (sound.serves n courier found) signal).keepsOthers.generation

theorem actConsistent (sound : Sound setup s trace accepted) (flags : s.core.run.FlagsAgree)
    (consistent : s.core.run.Consistent lost) {action : Action} (goesOn : action ≠ .reset) :
    (s.act setup action).session.core.run.Consistent
      (lost ∨ s.losesMarker setup action = true) := by
  cases action with
  | start =>
    simp only [act, attemptCore, Core.start, losesMarker, Bool.false_eq_true, or_false]
    split
    · exact consistent
    · exact consistent.start fun idle => (sound.untouched idle).1
  | send f =>
    rw [act, attemptCore]
    exact (consistent.enqueue flags f).same (or_congr_right (s.losesMarkerIff setup f))
  | stop =>
    simp only [act, launchIfCore, losesMarker, Bool.false_eq_true, or_false]
    exact consistent.requestStop flags
  | cancel =>
    simp only [losesMarker, Bool.false_eq_true, or_false]
    exact consistent.cancel
  | reset => contradiction
  | wake n signal =>
    simp only [act, wake, losesMarker, Bool.false_eq_true, or_false]
    cases found : s.couriers[n]? with
    | none => exact consistent
    | some courier => exact Courier.stepConsistent (sound.serves n courier found) consistent signal

end

namespace Run
variable {r : Run} {lost : Prop}

theorem startLaunches (started : r.start.1.phase = .started) :
    r.phase = .started ∨ r.start.2 = true := by
  cases phase : r.phase with
  | idle => exact .inr (by simp [Run.start, phase])
  | started => exact .inl rfl
  | closed =>
    rw [show r.start = (r, false) by simp [Run.start, phase], phase] at started
    contradiction

theorem Consistent.enqueueLaunches (consistent : r.Consistent lost) {f : Frame}
    (started : (r.enqueue f).1.phase = .started) :
    r.phase = .started ∨ (r.enqueue f).2 = .ok true := by
  have sunk : r.sink ≠ .absent → r.phase = .started := fun opened => (consistent.sunk opened).1
  have step := enqueues r f
  generalize r.enqueue f = entered at step started
  cases step with
  | refused => exact .inl started
  | waits willing =>
    have wasOpen := openPhase (willingOpen willing).1
    cases phase : r.phase with
    | idle => exact .inr (by simp)
    | started => exact .inl rfl
    | closed => exact absurd phase wasOpen
  | passes _ present | lost _ present => exact .inl (sunk (by rw [present]; decide))
  | ended _ completed => exact .inl (sunk (by rw [completed]; decide))

theorem Consistent.requestStopLaunches (consistent : r.Consistent lost)
    (started : r.requestStop.1.phase = .started) :
    r.phase = .started ∨ r.requestStop.2.1 = true := by
  have launches := consistent.enqueueLaunches (f := .stop)
  rcases requestStopSteps r with ⟨_, same⟩ | ⟨r', result, entered, same⟩
  · rw [same] at started
    exact .inl started
  · rw [entered] at launches
    cases result with
    | ok launch =>
      rw [same] at started ⊢
      exact (launches started).imp_right Except.ok.inj
    | error e =>
      rw [same] at started
      have closed := Courier.closePhase r' (.failed e.toApiError) (.failed e)
      rw [Run.fail, closed] at started
      contradiction

end Run

def HasCourier (s : Session) : Prop :=
  s.core.run.phase = .started → ∃ c ∈ s.couriers, c.generation = s.core.generation

section
variable {setup : Setup} {s : Session} {trace : Trace} {accepted : List (Nat × Frame)}
  {lost : List Nat}

theorem HasCourier.admit (hasCourier : s.HasCourier) {r : Run} (events : List Event) {launch : Bool}
    (first : r.phase = .started → s.core.run.phase = .started ∨ launch = true) :
    ((⟨s.core.become r events, s.couriers⟩ : Session).launchIf setup launch).1.HasCourier := by
  cases launch with
  | false => exact fun started => hasCourier ((first started).resolve_right (by decide))
  | true =>
    exact fun _ => ⟨.launch s.core.generation, List.mem_append_right _ List.mem_cons_self, rfl⟩

theorem HasCourier.wake (sound : Sound setup s trace accepted) (hasCourier : s.HasCourier) (n : Nat)
    (signal : Signal) : (s.wake setup n signal).1.HasCourier := by
  unfold Session.wake
  cases found : s.couriers[n]? with
  | none => exact hasCourier
  | some courier =>
    have within := (List.getElem?_eq_some_iff.mp found).1
    have moved := Courier.stepKeepsServing (sound.serves n courier found) signal
    dsimp only
    generalize courier.step setup s.core signal = move at moved
    intro started
    dsimp only at started ⊢
    rw [moved.keepsOthers.generation]
    by_cases current : courier.generation = s.core.generation
    · exact ⟨move.courier, List.mem_set within _, moved.generation.trans current⟩
    · have run := moved.keepsOthers.others s.core.generation (Ne.symm current)
      rw [← moved.keepsOthers.generation, Core.runCurrent, moved.keepsOthers.generation,
        Core.runCurrent] at run
      rw [Option.some.inj run] at started
      obtain ⟨c, member, own⟩ := hasCourier started
      obtain ⟨m, other⟩ := List.getElem?_of_mem member
      have apart : n ≠ m := by
        intro same
        rw [same, other] at found
        exact current (Option.some.inj found ▸ own)
      exact ⟨c, List.mem_of_getElem? ((List.getElem?_set_ne apart).trans other), own⟩

theorem HasCourier.act {lost : Prop} (sound : Sound setup s trace accepted)
    (consistent : s.core.run.Consistent lost) (hasCourier : s.HasCourier) (action : Action) :
    (s.act setup action).session.HasCourier := by
  cases action with
  | start =>
    simp only [Session.act, Core.start]
    split
    · exact hasCourier
    · exact hasCourier.admit [] Run.startLaunches
  | send f =>
    have launches := consistent.enqueueLaunches (f := f)
    simp only [Session.act, Core.send]
    generalize s.core.run.enqueue f = entered at launches
    obtain ⟨r, result⟩ := entered
    cases result with
    | error e => exact fun started => hasCourier ((launches started).resolve_right (by simp))
    | ok launch => exact hasCourier.admit [] fun started => (launches started).imp_right Except.ok.inj
  | stop => exact hasCourier.admit _ consistent.requestStopLaunches
  | cancel =>
    refine fun started => hasCourier ?_
    change s.core.run.cancel.1.phase = .started at started
    rcases Run.cancelSteps s.core.run with same | ⟨_, same⟩
    · rwa [same] at started
    · rw [same] at started
      contradiction
  | reset =>
    intro started
    contradiction
  | wake n signal => exact hasCourier.wake sound n signal

structure Coherent (s : Session) (lost : List Nat) : Prop where
  informed : CouriersInformed s
  consistent : s.core.run.Consistent (s.core.generation ∈ lost)
  hasCourier : s.HasCourier
  past : ∀ generation ∈ lost, generation ≤ s.core.generation

theorem Coherent.act (sound : Sound setup s trace accepted) (coherent : Coherent s lost)
    (action : Action) : Coherent (s.act setup action).session
      (lost ++ if s.losesMarker setup action then [s.core.generation] else []) := by
  obtain ⟨informed, consistent, hasCourier, past⟩ := coherent
  by_cases same : action = .reset
  · subst same
    have next : (s.act setup .reset).session.core.generation = s.core.generation + 1 :=
      s.core.resetGeneration
    simp only [losesMarker, Bool.false_eq_true, if_false, List.append_nil]
    refine ⟨informed.act sound .reset, Run.idleConsistent fun member => ?_,
      hasCourier.act sound consistent .reset, fun generation member => ?_⟩
    · have late := past _ member
      omega
    · have late := past generation member
      omega
  · have generation := actGeneration sound same
    have kept := actConsistent sound informed.flags consistent same
    refine ⟨informed.act sound action, ?_, hasCourier.act sound consistent action, ?_⟩
    · rw [generation]
      refine kept.same ?_
      cases s.losesMarker setup action <;> simp
    · rw [generation]
      intro g member
      rcases List.mem_append.mp member with old | new
      · exact past g old
      · split at new
        · exact Nat.le_of_eq (List.mem_singleton.mp new)
        · contradiction

theorem Coherent.run (sound : Sound setup s trace accepted) (coherent : Coherent s lost)
    (actions : List Action) :
    Coherent (s.run setup actions).1 (lost ++ s.markersLost setup actions) := by
  induction actions generalizing s trace accepted lost with
  | nil =>
    rw [markersLost, List.append_nil]
    exact coherent
  | cons action rest ih =>
    have whole := ih (sound.act action) (coherent.act sound action)
    rw [List.append_assoc] at whole
    exact whole

theorem coherentRun (setup : Setup) (actions : List Action) :
    Coherent (new.run setup actions).1 (new.markersLost setup actions) := by
  have nobody : new.HasCourier := by
    intro started
    contradiction
  have first : Coherent new [] :=
    ⟨informedRun setup [], Run.idleConsistent List.not_mem_nil, nobody, by simp⟩
  exact first.run (soundNew setup) actions

theorem Run.Account.cancelledGate {r : Run} {unclosed told} (account : r.Account unclosed told)
    (cancelled : r.cancelled = true) : r.phase = .closed ∧ r.gate.outcome = some .cancelled := by
  cases account with
  | running results phase gate uncancelled =>
    rw [uncancelled] at cancelled
    contradiction
  | ended results phase ends gate last =>
    rw [last, decide_eq_true_eq] at cancelled
    rw [cancelled] at ends
    exact ⟨phase, gate.trans ends.symm⟩

theorem cancelledEnds (setup : Setup) (actions : List Action) :
    let r := (new.run setup actions).1.core.run
    r.cancelled = true → r.phase = .closed ∧ r.gate.outcome = some .cancelled := by
  intro r
  obtain ⟨operations, same⟩ := new.runPerforms setup actions
  have accounts := Core.accountsPerformed operations
  rw [show Core.new = new.core from rfl, ← same] at accounts
  exact accounts.current.cancelledGate

theorem Coherent.leaving (sound : Sound setup s trace accepted) (coherent : Coherent s lost)
    (uncancelled : s.core.run.cancelled = false) (unheld : s.core.run.holdsSink = false) :
    ∃ c ∈ s.couriers, c.generation = s.core.generation ∧ ∃ failure, c.stage = .leaving failure := by
  obtain ⟨present, unattended⟩ : s.core.run.sink = .present ∧ s.core.run.attended = false := by
    simpa [Run.holdsSink] using unheld
  obtain ⟨started, -⟩ := coherent.consistent.sunk (by rw [present]; decide)
  obtain ⟨c, member, current⟩ := coherent.hasCourier started
  obtain ⟨n, found⟩ := List.getElem?_of_mem member
  refine ⟨c, member, current, ?_⟩
  have wasOpen : s.core.run.isOpen = true := by simp [Run.isOpen, uncancelled, started]
  have carries := ((sound.serves n c found).current current).carries
  rw [wasOpen] at carries
  have waiting {frames} (w : s.core.run.Waits true frames) : False := by
    have absent := w.sink rfl
    rw [present] at absent
    contradiction
  have flowing {frames taken} (w : s.core.run.Flows true frames taken) : False := by
    have attended := w.attended rfl
    rw [unattended] at attended
    contradiction
  generalize c.stage = stage, trace.sends n = sent at carries
  cases carries with
  | connecting w | opening _ w | awaitingAck w | attaching w => exact (waiting w).elim
  | pumping w _ | sending w => exact (flowing w).elim
  | @leaving failure => exact ⟨failure, rfl⟩
  | gone _ dead => contradiction

end

/-- A run that nobody has stopped has no marker, but one in which a marker was lost counts as stopped
although its sink is still open. -/
theorem runsConsistent (setup : Setup) (actions : List Action) :
    let s := (new.run setup actions).1
    let r := s.core.run
    let lost := s.core.generation ∈ new.markersLost setup actions
    (r.phase = .idle → r = .idle) ∧
    (r.sink = .present →
      r.phase = .started ∧ r.pending = [] ∧ (r.stopRequested = true ↔ lost)) ∧
    (r.sink = .completed → r.phase = .started ∧ r.pending = [] ∧ r.stopRequested = true) ∧
    (r.phase = .closed → r.sink = .absent ∧ r.pending = []) ∧
    (r.cancelled = true → r.phase = .closed ∧ r.gate.outcome = some .cancelled) ∧
    (∀ before after, r.pending = before ++ .stop :: after → after = []) ∧
    (r.phase = .started →
      (r.stopRequested = true ↔ r.pending.getLast? = some .stop ∨ r.sink = .completed ∨ lost)) ∧
    (lost → r.phase ≠ .closed → r.holdsSink = false) ∧
    (r.refuses = false → r.sink ≠ .completed) ∧
    (r.refuses = false → r.holdsSink = true → ∃ launch, (r.enqueue .stop).2 = .ok launch) ∧
    (r.holdsSink = false → ∃ c ∈ s.couriers,
      c.generation = s.core.generation ∧ ∃ failure, c.stage = .leaving failure) ∧
    ∀ more, let later := (s.run setup more).1
      later.core.generation = s.core.generation → r.phase.rank ≤ later.core.run.phase.rank := by
  intro s r lost
  have sound : Sound setup s _ _ := soundRun setup actions
  have coherent : Coherent s (new.markersLost setup actions) := coherentRun setup actions
  have consistent : r.Consistent lost := coherent.consistent
  have flags : r.FlagsAgree := coherent.informed.flags
  have cancelledLast : r.cancelled = true → r.phase = .closed ∧ r.gate.outcome = some .cancelled :=
    cancelledEnds setup actions
  have presents (present : r.sink = .present) : r.phase = .started ∧ r.pending = [] :=
    consistent.sunk (by rw [present]; decide)
  have completes (completed : r.sink = .completed) : r.phase = .started ∧ r.pending = [] :=
    consistent.sunk (by rw [completed]; decide)
  have wasLost (wasOpen : r.phase = .started) (so : lost) :
      r.sink = .present ∧ r.attended = false ∧ r.stopRequested = true :=
    consistent.refused so (by simp [wasOpen])
  have neverCompleted (willing : r.refuses = false) : r.sink ≠ .completed := by
    intro completed
    have requested := flags.completed completed
    rw [(Run.willingOpen willing).2] at requested
    contradiction
  refine ⟨fun idle => (sound.untouched idle).1, fun present => ?_, fun completed => ?_,
    fun closed => ⟨consistent.closedSink closed, consistent.emptied closed⟩, cancelledLast,
    fun before after => consistent.lastMarker, fun started => ⟨consistent.stopped started, ?_⟩,
    fun so wasOpen => ?_, neverCompleted, fun willing held => Run.roomTakes willing ?_ .stop,
    fun unheld => ?_, fun more same => (s.runOnward setup more same).phase⟩
  · obtain ⟨started, empty⟩ := presents present
    refine ⟨started, empty, fun requested => ?_, fun so => (wasLost started so).2.2⟩
    rcases consistent.stopped started requested with last | completed | so
    · simp [empty] at last
    · rw [present] at completed
      contradiction
    · exact so
  · exact ⟨(completes completed).1, (completes completed).2, flags.completed completed⟩
  · rintro (last | completed | so)
    · exact consistent.pendingMarker last
    · exact flags.completed completed
    · exact (wasLost started so).2.2
  · obtain ⟨present, unattended, -⟩ := consistent.refused so wasOpen
    simp [Run.holdsSink, present, unattended]
  · cases place : r.sink with
    | absent => simp [Run.hasRoom, place]
    | present => simpa [Run.hasRoom, Run.holdsSink, place] using held
    | completed => exact absurd place (neverCompleted willing)
  · refine coherent.leaving sound (Bool.eq_false_iff.mpr fun cancelled => ?_) unheld
    have present : r.sink = .present := by
      have both : r.sink = .present ∧ r.attended = false := by simpa [Run.holdsSink] using unheld
      exact both.1
    have started := (presents present).1
    rw [(cancelledLast cancelled).1] at started
    contradiction

def markerAtHangUp : List Action :=
  [.start, .wake 0 .connected, .wake 0 .onward, .wake 0 (.arrived .hungUp), .send .stop]

theorem presentThoughStopped :
    let s := (new.run realtimeSetup markerAtHangUp).1
    let r := s.core.run
    (r.sink = .present ∧ r.stopRequested = true) ∧
    (r.phase = .started ∧ r.stopRequested = true ∧ r.pending.getLast? ≠ some .stop ∧
      r.sink ≠ .completed) ∧
    s.core.generation ∈ new.markersLost realtimeSetup markerAtHangUp := by
  decide +kernel

end ModelServing.Session
