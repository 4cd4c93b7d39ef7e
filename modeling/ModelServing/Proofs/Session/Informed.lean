import ModelServing.Proofs.Session.Course
import ModelServing.Proofs.Session.Reception
import ModelServing.Proofs.Session.Transmission

/-! Couriers that are underway learn when their run is over: it is open, or they have been told to
abort. So no run ends behind the back of its courier, and once a run is over it stays over. -/
namespace ModelServing.Session

theorem Courier.stepPerforms (c : Courier) (setup : Setup) (core : Core) (signal : Signal) :
    ∃ operations, (c.step setup core signal).core = core.performAll operations := by
  have course := stepCourse setup c core signal
  generalize c.step setup core signal = move at course
  cases course with
  | stays deaf => exact ⟨[], rfl⟩
  | advances deaf next => exact ⟨[], rfl⟩
  | opens connecting first => exact ⟨[], rfl⟩
  | attaches attaching attached =>
    exact ⟨[.attach c.generation true], congrArg Prod.fst attached.symm⟩
  | sends pumping offered => exact ⟨[.take c.generation], rfl⟩
  | @reads f _ _ _ listening received goesOn =>
    exact ⟨[.receive c.generation setup.dialect f], congrArg Prod.fst received.symm⟩
  | @dismissed f core' _ _ _ listening received verdict farewell =>
    refine ⟨[.receive c.generation setup.dialect f, .leave c.generation], ?_⟩
    change core'.leave c.generation = (core.receive c.generation setup.dialect f).1.leave c.generation
    rw [received]
  | departs deaf underway farewell => exact ⟨[.leave c.generation], rfl⟩
  | @reports failure leaving =>
    cases failure with
    | none => exact ⟨[.ended c.generation], rfl⟩
    | some e => exact ⟨[.failed c.generation e], rfl⟩

theorem actPerforms (s : Session) (setup : Setup) (action : Action) :
    ∃ operations, (s.act setup action).session.core = s.core.performAll operations := by
  cases action with
  | start => exact ⟨[.start], attemptCore s setup _⟩
  | send f => exact ⟨[.send f], attemptCore s setup _⟩
  | stop => exact ⟨[.requestStop], launchIfCore _ setup _⟩
  | cancel => exact ⟨[.cancel], rfl⟩
  | reset => exact ⟨[.reset], rfl⟩
  | wake n signal =>
    simp only [act, wake]
    cases s.couriers[n]? with
    | none => exact ⟨[], rfl⟩
    | some c => exact c.stepPerforms setup s.core signal

theorem runPerforms (s : Session) (setup : Setup) (actions : List Action) :
    ∃ operations, (s.run setup actions).1.core = s.core.performAll operations := by
  induction actions generalizing s with
  | nil => exact ⟨[], rfl⟩
  | cons action rest ih =>
    obtain ⟨first, acted⟩ := s.actPerforms setup action
    obtain ⟨later, whole⟩ := ih (s.act setup action).session
    refine ⟨first ++ later, ?_⟩
    rw [Core.performAll, List.foldl_append, ← Core.performAll, ← Core.performAll, ← acted]
    exact whole

namespace Core

theorem Turn.later {c c' : Core} (turn : c.Turn c') : c.generation ≤ c'.generation := by
  cases turn with
  | current turn => exact Nat.le_refl _
  | past quiet => exact Nat.le_of_eq (List.length_modify _ _ _).symm
  | reset =>
    rw [resetGeneration]
    exact Nat.le_succ _

theorem Turn.staysDead {c c' : Core} (turn : c.Turn c') {generation : Nat}
    (known : generation ≤ c.generation) (dead : c.isLive generation = false) :
    c'.isLive generation = false := by
  cases turn with
  | @current r events turn =>
    by_cases current : generation = c.generation
    · subst current
      rw [liveCurrent] at dead
      refine (c.become r events).liveCurrent.trans ?_
      cases turn with
      | goesOn results quiet heard => exact quiet.isOpen.trans dead
      | closes results wasOpen closed told gate cancelled =>
        change r.isOpen = false
        simp [Run.isOpen, closed]
    · exact liveElsewhere (c := c.become r events) current
  | past quiet =>
    by_cases current : generation = c.generation
    · subst current
      simpa [isLive, Core.generation] using dead
    · exact liveElsewhere (by simpa [Core.generation] using current)
  | reset =>
    apply liveElsewhere
    rw [resetGeneration]
    omega

theorem performAllDead {c : Core} {generation : Nat} (known : generation ≤ c.generation)
    (dead : c.isLive generation = false) (operations : List Operation) :
    (c.performAll operations).isLive generation = false := by
  induction operations generalizing c with
  | nil => exact dead
  | cons operation rest ih =>
    have turn := performTurn c operation
    exact ih (Nat.le_trans known turn.later) (turn.staysDead known dead)

end Core

structure Run.FlagsAgree (r : Run) : Prop where
  completed : r.sink = .completed → r.stopRequested = true
  aborted : r.abort = true → r.cancelled = true

namespace Run
variable {r r' : Run}

theorem FlagsAgree.keep (flags : r.FlagsAgree) (sink : r'.sink = r.sink ∨ r'.sink = .absent)
    (stops : r'.stopRequested = r.stopRequested) (abort : r'.abort = r.abort)
    (cancelled : r'.cancelled = r.cancelled) : r'.FlagsAgree where
  completed ends := by
    rw [stops]
    rcases sink with same | absent
    · exact flags.completed (same.symm.trans ends)
    · rw [absent] at ends
      contradiction
  aborted told := by
    rw [cancelled]
    exact flags.aborted (abort.symm.trans told)

theorem FlagsAgree.start (flags : r.FlagsAgree) : r.start.1.FlagsAgree := by
  unfold Run.start
  split
  · exact flags.keep (.inl rfl) rfl rfl rfl
  · exact flags

theorem FlagsAgree.close (flags : r.FlagsAgree) (outcome : Outcome) (event : Event) :
    (r.close outcome event).1.FlagsAgree := by
  by_cases closed : r.phase = .closed
  · simpa only [Run.close, closed] using flags
  · rw [closeOpen closed]
    exact flags.keep (.inr rfl) rfl rfl rfl

theorem FlagsAgree.ended (flags : r.FlagsAgree) : r.ended.1.FlagsAgree := by
  unfold Run.ended
  split <;> exact flags.close _ _

theorem FlagsAgree.cancel (flags : r.FlagsAgree) : r.cancel.1.FlagsAgree := by
  rcases cancelSteps r with same | ⟨wasOpen, same⟩
  · rw [same]
    exact flags
  · rw [same]
    exact ⟨by simp [abandoned], fun _ => rfl⟩

theorem FlagsAgree.receive (flags : r.FlagsAgree) {d : Dialect} {f : WireFrame} {events result}
    (reception : r.Reception d f (r', events, result)) : r'.FlagsAgree := by
  cases reception with
  | goesOn unended verdict => exact flags.keep (.inl rfl) rfl rfl rfl
  | ends json ended told =>
    have named : (r.named d f).FlagsAgree := flags.keep (.inl rfl) rfl rfl rfl
    exact named.close _ _
  | fails json ended silent => exact flags

theorem Marked.stopped {frames : List Frame} {stopRequested : Bool}
    (marked : Marked frames stopRequested) (ends : frames.any Frame.isStop = true) :
    stopRequested = true := by
  obtain ⟨input, unmarked, rfl | ⟨_, requested⟩⟩ := marked
  · obtain ⟨f, member, isStop⟩ := List.any_eq_true.mp ends
    rw [unmarked f member] at isStop
    contradiction
  · exact requested

theorem FlagsAgree.sunk (flags : r.FlagsAgree) (marked : Marked r.pending r.stopRequested) :
    r.sunk.FlagsAgree where
  completed ends := by
    dsimp only [Run.sunk] at ends ⊢
    split at ends
    · rename_i stops
      exact Marked.stopped marked stops
    · contradiction
  aborted := flags.aborted

theorem enqueueAbort (r : Run) (f : Frame) : (r.enqueue f).1.abort = r.abort := by
  have step := enqueues r f
  generalize r.enqueue f = entered at step
  cases step with
  | refused | waits | passes | lost | ended => rfl

theorem FlagsAgree.enqueue (flags : r.FlagsAgree) (f : Frame) : (r.enqueue f).1.FlagsAgree := by
  have aborted : (r.enqueue f).1.abort = true → (r.enqueue f).1.cancelled = true := by
    rw [enqueueAbort, (enqueueQuiet r f).cancelled]
    exact flags.aborted
  refine ⟨?_, aborted⟩
  have step := enqueues r f
  generalize r.enqueue f = entered at step
  cases step with
  | refused => exact flags.completed
  | waits _ absent => simp [absent]
  | passes _ present _ =>
    dsimp only
    split
    · exact fun _ => ‹_›
    · simp
  | lost _ present _ => simp [present]
  | ended willing completed =>
    have unstopped := (willingOpen willing).2
    rw [flags.completed completed] at unstopped
    contradiction

theorem FlagsAgree.requestStop (flags : r.FlagsAgree) : r.requestStop.1.FlagsAgree := by
  have queued := flags.enqueue .stop
  rcases requestStopSteps r with ⟨_, same⟩ | ⟨r', result, entered, same⟩
  · rw [same]
    exact flags
  · rw [entered] at queued
    cases result with
    | ok launch =>
      rw [same]
      exact queued
    | error e =>
      rw [same]
      exact queued.close _ _

theorem startAbort (r : Run) : r.start.1.abort = r.abort := by
  unfold start
  split <;> rfl

def hasRoom (r : Run) : Bool := r.sink == .absent || r.sink == .present && r.attended

theorem roomTakes (willing : r.refuses = false) (room : r.hasRoom = true) (f : Frame) :
    ∃ launch, (r.enqueue f).2 = .ok launch := by
  have step := enqueues r f
  generalize r.enqueue f = entered at step
  cases step with
  | refused refused => simp [willing] at refused
  | waits | passes => exact ⟨_, rfl⟩
  | lost _ present unattended => simp [hasRoom, present, unattended] at room
  | ended _ completed => simp [hasRoom, completed] at room

theorem takenRoom {f : Frame} {launch : Bool} (taken : (r.enqueue f).2 = .ok launch) :
    r.refuses = false ∧ r.hasRoom = true := by
  have step := enqueues r f
  generalize r.enqueue f = entered at step taken
  cases step with
  | refused | lost | ended => contradiction
  | waits willing absent => exact ⟨willing, by simp [hasRoom, absent]⟩
  | passes willing present attended => exact ⟨willing, by simp [hasRoom, present, attended]⟩

end Run

def Courier.Informed (c : Courier) (core : Core) : Prop :=
  c.stage.isUnderway = true → core.isLive c.generation = true ∨ c.isAborted core = true

structure CouriersInformed (s : Session) : Prop where
  flags : s.core.run.FlagsAgree
  courierInformed : ∀ (n : Nat) (c : Courier), s.couriers[n]? = some c → c.Informed s.core

section
variable {setup : Setup} {c : Courier} {core core' : Core} {accepted : List Frame}
  {sent : List WireFrame}

theorem Courier.abortedRun {r : Run} (found : core.run? c.generation = some r) :
    c.isAborted core = r.abort := by
  rw [isAborted, found]
  rfl

theorem Courier.Informed.elsewhere {own : Nat} (courierInformed : c.Informed core)
    (keepsOthers : core.KeepsOthers own core') (different : c.generation ≠ own) : c.Informed core' := by
  intro underway
  rw [keepsOthers.liveOthers different, isAborted, keepsOthers.others _ different]
  exact courierInformed underway

theorem Courier.Informed.become (courierInformed : c.Informed core) {r : Run} (events : List Event)
    (keeps : c.generation = core.generation → c.stage.isUnderway = true →
      core.run.isOpen = true ∨ core.run.abort = true → r.isOpen = true ∨ r.abort = true) :
    c.Informed (core.become r events) := by
  by_cases current : c.generation = core.generation
  · intro underway
    have before := courierInformed underway
    have found := core.runCurrent
    have found' := (core.become r events).runCurrent
    rw [← current] at found
    rw [show (core.become r events).generation = c.generation from current.symm] at found'
    rw [abortedRun found, current, Core.liveCurrent] at before
    rw [abortedRun found', Core.liveRun found']
    rw [show (core.become r events).generation = c.generation from current.symm, beq_self_eq_true,
      Bool.true_and]
    exact keeps current underway before
  · exact courierInformed.elsewhere (core.keepsOthersBecome r events) current

theorem Courier.Serves.room (serves : c.Serves setup core accepted sent)
    (current : c.generation = core.generation) (underway : c.stage.isUnderway = true)
    (willing : core.run.refuses = false) (flags : core.run.FlagsAgree) : core.run.hasRoom = true := by
  obtain ⟨wasOpen, unstopped⟩ := Run.willingOpen willing
  have carries := (serves.current current).carries
  rw [wasOpen] at carries
  have waiting (w : core.run.Waits true accepted) : core.run.hasRoom = true := by
    simp [Run.hasRoom, w.sink rfl]
  have flowing {taken} (w : core.run.Flows true accepted taken) : core.run.hasRoom = true := by
    cases place : core.run.sink with
    | absent => exact absurd place (w.sink rfl)
    | present => simp [Run.hasRoom, place, w.attended rfl]
    | completed =>
      rw [flags.completed place] at unstopped
      contradiction
  generalize c.stage = stage at underway carries
  cases carries with
  | connecting w | opening _ w | awaitingAck w | attaching w => exact waiting w
  | pumping w _ | sending w => exact flowing w
  | leaving _ _ | gone _ _ => contradiction

theorem Core.modifyFlagsAgree (flags : core.run.FlagsAgree) (generation : Nat) {f : Run → Run}
    (keeps : (f core.run).FlagsAgree) : (core.modify generation f).run.FlagsAgree := by
  unfold Core.modify
  split
  · exact keeps
  · exact flags

theorem Courier.Informed.modify (courierInformed : c.Informed core) (generation : Nat) {f : Run → Run}
    (same : ∀ r : Run, (f r).isOpen = r.isOpen) (abort : ∀ r : Run, (f r).abort = r.abort) :
    c.Informed (core.modify generation f) := by
  intro underway
  rw [core.modifyLive generation same, isAborted, Core.modifyRun?]
  have before := courierInformed underway
  rw [isAborted] at before
  split
  · rw [Option.map_map, Function.comp_def]
    simpa only [abort] using before
  · exact before

theorem Courier.Serves.sinks (serves : c.Serves setup core accepted sent)
    (attaching : c.stage = .attaching) (attached : core.attach c.generation true = (core', true)) :
    core' = core.become core.run.sunk [] ∧ core.run.isOpen = true ∧
      Marked core.run.pending core.run.stopRequested := by
  by_cases live : core.isLive c.generation = true
  · have current := Core.liveIs live
    have withRun := serves.current current
    have carries := withRun.carries
    have wasOpen := live
    rw [current, Core.liveCurrent] at wasOpen
    rw [attaching] at carries
    cases carries with
    | attaching waits =>
      have marked := withRun.marked
      rw [← waits.pending wasOpen] at marked
      simp only [Core.attach, if_pos live, Run.attachSunk marked] at attached
      exact ⟨(congrArg Prod.fst attached).symm, wasOpen, marked⟩
  · simp [Core.attach, live] at attached

theorem Core.receiveFlagsAgree (flags : core.run.FlagsAgree) (generation : Nat) (d : Dialect)
    (f : WireFrame) :
    (core.receive generation d f).1.run.FlagsAgree := by
  by_cases live : core.isLive generation = true
  · obtain ⟨r, events, result, same, reception⟩ := Core.receiveSteps live d f
    rw [same]
    exact flags.receive reception
  · rw [Core.receive, if_neg live]
    exact flags

theorem receivedGoesOn {core' : Core} {generation : Nat} {d : Dialect} {f : WireFrame}
    {inbound : Inbound} (received : core.receive generation d f = (core', .ok inbound))
    (open_ : inbound = .delivered ∨ inbound = .started) :
    core'.isLive generation = true ∧ (inbound = .started → d.isStarted f = true) := by
  by_cases live : core.isLive generation = true
  · obtain ⟨r, events, result, same, reception⟩ := Core.receiveSteps live d f
    rw [same] at received
    obtain ⟨rfl, rfl⟩ := Prod.mk.inj received
    cases reception with
    | goesOn unended verdict =>
      refine ⟨?_, fun started => ?_⟩
      · have current := Core.liveIs live
        subst current
        rw [Core.liveCurrent] at live
        exact (Core.liveCurrent _).trans live
      · rcases verdict with delivered | ⟨_, kind⟩
        · rw [started] at delivered
          contradiction
        · exact kind
    | ends json ended told => simp at open_
  · rw [Core.receive, if_neg live] at received
    obtain ⟨_, stale⟩ := Prod.mk.inj received
    cases Except.ok.inj stale
    simp at open_

theorem Courier.reportFlagsAgree (flags : core.run.FlagsAgree) (failure : Option Error) :
    (c.report core failure).core.run.FlagsAgree := by
  cases failure with
  | none =>
    simp only [report, Core.ended]
    split
    · exact flags.ended
    · exact flags
  | some e =>
    simp only [report, Core.failed]
    split
    · exact flags.close _ _
    · exact flags

theorem Courier.stepInformed (serves : c.Serves setup core accepted sent)
    (courierInformed : c.Informed core) (flags : core.run.FlagsAgree) (signal : Signal) :
    (c.step setup core signal).courier.Informed (c.step setup core signal).core ∧
      (c.step setup core signal).core.run.FlagsAgree := by
  have course := stepCourse setup c core signal
  generalize c.step setup core signal = move at course
  have gone {c' : Courier} {core' : Core} (ended : c'.stage.isUnderway = false) : c'.Informed core' :=
    fun underway => absurd (ended.symm.trans underway) (by decide)
  cases course with
  | stays deaf => exact ⟨courierInformed, flags⟩
  | advances deaf next => exact ⟨fun _ => courierInformed next.underway, flags⟩
  | opens connecting first => exact ⟨fun _ => courierInformed (by rw [connecting]; rfl), flags⟩
  | attaches attaching attached =>
    obtain ⟨rfl, wasOpen, marked⟩ := serves.sinks attaching attached
    refine ⟨?_, flags.sunk marked⟩
    have kept : c.Informed (core.become core.run.sunk []) := courierInformed.become [] fun _ _ => id
    exact fun _ => kept (by rw [attaching]; rfl)
  | sends pumping offered =>
    have kept := courierInformed.modify c.generation (f := fun r => { r with outbox := r.outbox.tail })
      (fun _ => rfl) fun _ => rfl
    exact ⟨fun _ => kept (by rw [pumping]; rfl),
      Core.modifyFlagsAgree flags _ (flags.keep (.inl rfl) rfl rfl rfl)⟩
  | @reads f core' inbound stage listening received goesOn =>
    have told := Core.receiveFlagsAgree flags c.generation setup.dialect f
    rw [received] at told
    refine ⟨fun _ => .inl (receivedGoesOn received ?_).1, told⟩
    rcases goesOn with ⟨_, either⟩ | ⟨started, _⟩
    · exact either
    · exact .inr started
  | @dismissed f core' result failure demands listening received verdict farewell =>
    have told := Core.receiveFlagsAgree flags c.generation setup.dialect f
    rw [received] at told
    exact ⟨gone rfl, Core.modifyFlagsAgree told _ (told.keep (.inl rfl) rfl rfl rfl)⟩
  | departs deaf underway farewell =>
    exact ⟨gone rfl, Core.modifyFlagsAgree flags _ (flags.keep (.inl rfl) rfl rfl rfl)⟩
  | @reports failure leaving => exact ⟨gone rfl, reportFlagsAgree flags failure⟩

end

section
variable {setup : Setup} {s : Session} {trace : Trace} {accepted : List (Nat × Frame)}

theorem idleFlagsAgree : Run.idle.FlagsAgree := ⟨by simp [Run.idle], by simp [Run.idle]⟩

theorem CouriersInformed.admit (informed : CouriersInformed s) {r : Run} (events : List Event)
    (flags : r.FlagsAgree)
    (keeps : ∀ (n : Nat) (c : Courier), s.couriers[n]? = some c →
      c.generation = s.core.generation → c.stage.isUnderway = true →
      s.core.run.isOpen = true ∨ s.core.run.abort = true → r.isOpen = true ∨ r.abort = true)
    {launch : Bool} (first : launch = true → r.isOpen = true) :
    CouriersInformed ((⟨s.core.become r events, s.couriers⟩ : Session).launchIf setup launch).1 := by
  have kept (n : Nat) (c : Courier) (found : s.couriers[n]? = some c) :
      c.Informed (s.core.become r events) :=
    (informed.courierInformed n c found).become events (keeps n c found)
  cases launch with
  | false => exact ⟨flags, kept⟩
  | true =>
    refine ⟨flags, fun n c found => ?_⟩
    simp only [launchIf, launch] at found ⊢
    rw [List.getElem?_append] at found
    split at found
    · exact kept n c found
    · have same := List.getElem?_singleton ▸ found
      split at same
      · cases Option.some.inj same
        refine fun _ => .inl ?_
        exact (s.core.become r events).liveCurrent.trans (first rfl)
      · contradiction

theorem CouriersInformed.attempt (sound : Sound setup s trace accepted)
    (informed : CouriersInformed s) {r : Run} {launch : Bool} (flags : r.FlagsAgree) (opened : r.isOpen = s.core.run.isOpen)
    (abort : r.abort = s.core.run.abort) (first : launch = true → s.core.run.phase = .idle) :
    CouriersInformed ((⟨s.core.become r [], s.couriers⟩ : Session).launchIf setup launch).1 := by
  refine informed.admit [] flags (fun _ _ _ _ _ either => ?_) fun launches => ?_
  · rw [opened, abort]
    exact either
  · rw [opened, (sound.untouched (first launches)).1]
    rfl

theorem CouriersInformed.stop (sound : Sound setup s trace accepted) (informed : CouriersInformed s) :
    CouriersInformed (s.act setup .stop).session := by
  have quiet := Run.enqueueQuiet s.core.run .stop
  have abort := Run.enqueueAbort s.core.run .stop
  have flags := informed.flags.requestStop
  have first := requestStopFirst (r := s.core.run)
  have stays : (∀ (n : Nat) (c : Courier), s.couriers[n]? = some c →
      c.generation = s.core.generation → c.stage.isUnderway = true →
      s.core.run.isOpen = true ∨ s.core.run.abort = true →
      s.core.run.requestStop.1.isOpen = true ∨ s.core.run.requestStop.1.abort = true) ∧
      (s.core.run.requestStop.2.1 = true → s.core.run.requestStop.1.isOpen = true) := by
    by_cases refused : s.core.run.refuses = true
    · rw [Run.requestStop, if_pos refused]
      exact ⟨fun _ _ _ _ _ => id, by simp⟩
    have willing := Bool.eq_false_iff.mpr refused
    rcases Run.requestStopSteps s.core.run with ⟨yes, _⟩ | ⟨r', result, queued, same⟩
    · exact absurd yes refused
    · rw [queued] at quiet abort
      cases result with
      | ok launch =>
        rw [same] at first ⊢
        refine ⟨fun _ _ _ _ _ either => ?_, fun launches => ?_⟩
        · rw [quiet.isOpen, abort]
          exact either
        · rw [quiet.isOpen, (sound.untouched (first launches).1).1]
          rfl
      | error e =>
        rw [same]
        refine ⟨fun n c found current underway _ => ?_, by simp⟩
        obtain ⟨launch, taken⟩ := Run.roomTakes willing
          ((sound.serves n c found).room current underway willing informed.flags) .stop
        rw [queued] at taken
        contradiction
  exact informed.admit _ flags stays.1 stays.2

theorem CouriersInformed.cancel (informed : CouriersInformed s) :
    CouriersInformed { s with core := s.core.cancel } := by
  have keeps : s.core.run.isOpen = true ∨ s.core.run.abort = true →
      s.core.run.cancel.1.isOpen = true ∨ s.core.run.cancel.1.abort = true := by
    rcases Run.cancelSteps s.core.run with same | ⟨wasOpen, same⟩
    · rw [same]
      exact id
    · rw [same]
      exact fun _ => .inr rfl
  exact ⟨informed.flags.cancel, fun n c found =>
    (informed.courierInformed n c found).become s.core.run.cancel.2 fun _ _ => keeps⟩

theorem CouriersInformed.reset (sound : Sound setup s trace accepted) (informed : CouriersInformed s) :
    CouriersInformed { s with core := s.core.reset } := by
  refine ⟨idleFlagsAgree, fun n c found underway => ?_⟩
  obtain ⟨r, known, _⟩ := sound.serves n c found
  have before := informed.courierInformed n c found underway
  refine .inr ?_
  rw [Courier.abortedRun (Core.resetRun? known)]
  split
  · rfl
  · rename_i past
    rw [Core.liveElsewhere past, Courier.abortedRun known] at before
    exact before.resolve_left (by decide)

theorem CouriersInformed.wake (sound : Sound setup s trace accepted)
    (informed : CouriersInformed s) (n : Nat) (signal : Signal) : CouriersInformed (s.wake setup n signal).1 := by
  unfold Session.wake
  cases found : s.couriers[n]? with
  | none => exact informed
  | some courier =>
    have within := (List.getElem?_eq_some_iff.mp found).1
    have serves := sound.serves n courier found
    have moved := Courier.stepKeepsServing serves signal
    obtain ⟨courierInformed, flags⟩ :=
      Courier.stepInformed serves (informed.courierInformed n courier found) informed.flags signal
    dsimp only
    generalize courier.step setup s.core signal = move at moved courierInformed flags
    refine ⟨flags, fun m c same => ?_⟩
    by_cases own : n = m
    · subst own
      rw [List.getElem?_set_self within] at same
      cases Option.some.inj same
      exact courierInformed
    · rw [List.getElem?_set_ne own] at same
      exact (informed.courierInformed m c same).elsewhere moved.keepsOthers
        (sound.others same found (Ne.symm own))

theorem CouriersInformed.act (sound : Sound setup s trace accepted) (informed : CouriersInformed s)
    (action : Action) : CouriersInformed (s.act setup action).session := by
  cases action with
  | start =>
    simp only [Session.act, Core.start]
    split
    · exact informed
    · exact informed.attempt sound informed.flags.start (Run.startQuiet s.core.run).isOpen
        (Run.startAbort s.core.run) fun launches => (startFirst launches).1
  | send f =>
    have flags := informed.flags.enqueue f
    have quiet := Run.enqueueQuiet s.core.run f
    have abort := Run.enqueueAbort s.core.run f
    have first := enqueueFirst (r := s.core.run) (f := f)
    simp only [Session.act, Core.send]
    generalize s.core.run.enqueue f = entered at flags quiet abort first
    obtain ⟨r, result⟩ := entered
    cases result with
    | error e =>
      have nothing : false = true → s.core.run.phase = .idle := by simp
      exact informed.attempt sound flags quiet.isOpen abort nothing
    | ok launch =>
      exact informed.attempt sound flags quiet.isOpen abort fun launches => (first (by rw [launches])).1
  | stop => exact informed.stop sound
  | cancel => exact informed.cancel
  | reset => exact informed.reset sound
  | wake n signal => exact informed.wake sound n signal

theorem CouriersInformed.run (sound : Sound setup s trace accepted) (informed : CouriersInformed s)
    (actions : List Action) : CouriersInformed (s.run setup actions).1 := by
  induction actions generalizing s trace accepted with
  | nil => exact informed
  | cons action rest ih => exact ih (sound.act action) (informed.act sound action)

theorem informedRun (setup : Setup) (actions : List Action) :
    CouriersInformed (new.run setup actions).1 := by
  have nothing : CouriersInformed new := ⟨idleFlagsAgree, by simp [new]⟩
  exact nothing.run (soundNew setup) actions

end

end ModelServing.Session
