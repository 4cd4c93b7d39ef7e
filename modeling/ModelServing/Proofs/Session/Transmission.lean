import ModelServing.Proofs.Session.Passage

/-! What a session sends: for every order of calls and wake-ups, each run has its own courier, and the
wire of a courier is what its run accepted, in this order and without a gap. Once an open run has
its sink and the courier is at rest nothing is missing, so the wire is a function of what was
accepted and not of when it was. -/
namespace ModelServing.Session

def Stage.isSending : Stage → Bool
  | .opening _ | .sending _ => true
  | _ => false

def Courier.isAtRest (c : Courier) (core : Core) : Bool :=
  (c.next? core).isNone && !c.stage.isSending

theorem Courier.Serves.carried {setup : Setup} {c : Courier} {core : Core} {accepted : List Frame}
    {sent : List WireFrame} (serves : c.Serves setup core accepted sent) :
    setup.Carried c.generation accepted sent := by
  obtain ⟨r, found, withRun⟩ := serves
  exact withRun.carries.carried

theorem Courier.Serves.complete {setup : Setup} {c : Courier} {core : Core} {accepted : List Frame}
    {sent : List WireFrame} (serves : c.Serves setup core accepted sent)
    (live : core.isLive c.generation = true) (sink : core.run.sink ≠ .absent)
    (rest : c.isAtRest core = true) : sent = setup.wire c.generation accepted := by
  have current := Core.liveIs live
  have found := core.runCurrent
  rw [← current] at found
  have carries := (serves.current current).carries
  rw [current, Core.liveCurrent] at live
  rw [live] at carries
  simp only [isAtRest, Bool.and_eq_true, Option.isNone_iff_eq_none, Bool.not_eq_true'] at rest
  obtain ⟨still, quiet⟩ := rest
  have all {taken} (flows : core.run.Flows true accepted taken) (dry : core.run.outbox = []) :
      setup.wire c.generation taken = setup.wire c.generation accepted := by
    have parts := flows.parts
    rw [dry, List.append_nil] at parts
    rw [parts]
  cases at_ : c.stage with
  | connecting =>
    rw [at_] at carries
    cases carries with
    | connecting waits => exact absurd (waits.sink rfl) sink
  | opening f | sending f =>
    rw [at_] at quiet
    contradiction
  | awaitingAck =>
    rw [at_] at carries
    cases carries with
    | awaitingAck waits => exact absurd (waits.sink rfl) sink
  | attaching | leaving failure =>
    simp only [next?, at_] at still
    contradiction
  | pumping more =>
    rw [at_] at carries
    cases carries with
    | pumping flows dry =>
      cases more with
      | false => exact all flows (dry rfl).1
      | true =>
        simp only [next?, at_, ite_eq_left_iff, reduceCtorEq, imp_false, Decidable.not_not] at still
        refine all flows ?_
        cases box : core.run.outbox with
        | nil => rfl
        | cons f rest => simp [Core.offer, found, box] at still
  | gone =>
    rw [at_] at carries
    cases carries with
    | gone carried dead => contradiction

structure Sound (setup : Setup) (s : Session) (trace : Trace) (accepted : List (Nat × Frame)) :
    Prop where
  serves : ∀ n (c : Courier), s.couriers[n]? = some c →
    c.Serves setup s.core (entriesOf accepted c.generation) (trace.sends n)
  apart : (s.couriers.map Courier.generation).Nodup
  untouched : s.core.run.phase = .idle →
    s.core.run = .idle ∧ entriesOf accepted s.core.generation = []
  entered : ∀ e ∈ accepted, e.1 ≤ s.core.generation
  asked : ∀ e ∈ trace, e.1 < s.couriers.length

section
variable {setup : Setup} {s : Session} {trace : Trace} {accepted : List (Nat × Frame)}

theorem soundNew (setup : Setup) : Sound setup new [] [] where
  serves := by simp [new]
  apart := List.nodup_nil
  untouched _ := ⟨rfl, rfl⟩
  entered := by simp
  asked := by simp

theorem Courier.Serves.elsewhere {c : Courier} {core core' : Core} {own : Nat} {frames : List Frame}
    {sent : List WireFrame} (serves : c.Serves setup core frames sent)
    (keepsOthers : core.KeepsOthers own core') (different : c.generation ≠ own) :
    c.Serves setup core' frames sent := by
  obtain ⟨r, found, withRun⟩ := serves
  refine ⟨r, (keepsOthers.others _ different).trans found, ?_⟩
  rw [keepsOthers.liveOthers different]
  exact withRun

theorem Sound.fed (sound : Sound setup s trace accepted) {r entered} (events : List Event)
    (fed : s.core.run.Fed r entered) :
    Sound setup { s with core := s.core.become r events } trace
      (accepted ++ entered.toList.map (s.core.generation, ·)) := by
  refine ⟨?_, sound.apart, ?_, ?_, sound.asked⟩
  · intro n c found
    have serves := sound.serves n c found
    rw [entriesOfAppend]
    by_cases current : c.generation = s.core.generation
    · rw [current, entriesOfOwn, ← current]
      exact (Courier.becomeServes current events ((serves.current current).fed fed)).2
    · rw [entriesOfOther (Ne.symm current), List.append_nil]
      exact serves.elsewhere (s.core.keepsOthersBecome r events) current
  · intro idle
    cases fed with
    | holds holds =>
      have same := holds.idle idle
      subst same
      rw [Option.toList_none, List.map_nil, List.append_nil]
      exact sound.untouched idle
    | closes outbox phase stops sink =>
      have closed : Phase.closed = .idle := phase.symm.trans idle
      contradiction
    | keeps willing sink | passes willing sink attended sunk => contradiction
  · intro e member
    rcases List.mem_append.mp member with old | new
    · exact sound.entered e old
    · obtain ⟨f, _, rfl⟩ := List.mem_map.mp new
      exact Nat.le_refl _

theorem Sound.launch (sound : Sound setup s trace accepted)
    (alone : ∀ c ∈ s.couriers, c.generation ≠ s.core.generation)
    (withRun : CourierWithRun setup (.launch s.core.generation) s.core.run s.core.run.isOpen
      (entriesOf accepted s.core.generation) []) :
    Sound setup (s.launch setup).1 (trace ++ (s.launch setup).2) accepted := by
  have silent (n : Nat) : Trace.sends (s.launch setup).2 n = [] := by
    by_cases own : s.couriers.length = n
    · simp [Trace.sends, Session.launch, entriesOf, own, Demand.frame?]
    · simp [Trace.sends, Session.launch, entriesOf, own]
  refine ⟨?_, ?_, sound.untouched, sound.entered, ?_⟩
  · intro n c found
    rw [sendsAppend, silent, List.append_nil]
    simp only [Session.launch] at found ⊢
    by_cases old : n < s.couriers.length
    · rw [List.getElem?_append_left old] at found
      exact sound.serves n c found
    · have last : n = s.couriers.length := by
        have bound := (List.getElem?_eq_some_iff.mp found).1
        simp only [List.length_append, List.length_singleton] at bound
        omega
      subst last
      rw [List.getElem?_concat_length] at found
      cases Option.some.inj found
      have nothing : trace.sends s.couriers.length = [] := by
        rw [Trace.sends, entriesOfAbsent fun e member => Nat.ne_of_lt (sound.asked e member)]
        rfl
      rw [nothing]
      refine ⟨s.core.run, s.core.runCurrent, ?_⟩
      rw [show (Courier.launch s.core.generation).generation = s.core.generation from rfl,
        Core.liveCurrent]
      exact withRun
  · simp only [Session.launch, List.map_append, List.map_cons, List.map_nil]
    refine List.nodup_append.mpr ⟨sound.apart, by simp, ?_⟩
    intro a old b new
    obtain ⟨c, member, rfl⟩ := List.mem_map.mp old
    rw [List.mem_singleton.mp new]
    exact alone c member
  · intro e member
    simp only [Session.launch, List.length_append, List.length_singleton] at member ⊢
    rcases List.mem_append.mp member with old | new
    · exact Nat.lt_succ_of_lt (sound.asked e old)
    · rw [List.mem_singleton.mp new]
      exact Nat.lt_succ_self _

theorem launchCourierWithRun {r : Run} {entered} (fed : Run.idle.Fed r entered)
    (started : r.phase = .started) (generation : Nat) :
    CourierWithRun setup (.launch generation) r r.isOpen entered.toList [] := by
  cases fed with
  | holds holds =>
    refine ⟨rfl, by simp [started], ?_, markedNil _, .connecting ⟨holds.outbox, ?_, ?_⟩⟩
    · rw [holds.abort]
      simp [Run.idle]
    · exact fun _ => holds.pending
    · exact fun _ => holds.sink
  | closes outbox phase stops sink =>
    rw [started] at phase
    contradiction
  | @keeps f willing sink =>
    exact ⟨rfl, by simp, by simp [Run.idle], (markedNil false).next f,
      .connecting ⟨rfl, fun _ => rfl, fun _ => rfl⟩⟩
  | passes willing sink attended sunk => contradiction

theorem Sound.admit (sound : Sound setup s trace accepted) {r entered} (events : List Event)
    (fed : s.core.run.Fed r entered) {launch : Bool}
    (first : launch = true → s.core.run.phase = .idle ∧ r.phase = .started) :
    let s' : Session := { s with core := s.core.become r events }
    Sound setup (s'.launchIf setup launch).1 (trace ++ (s'.launchIf setup launch).2)
      (accepted ++ entered.toList.map (s.core.generation, ·)) := by
  intro s'
  have next := sound.fed events fed
  cases launch with
  | false =>
    rw [launchIf, List.append_nil]
    exact next
  | true =>
    obtain ⟨idle, started⟩ := first rfl
    obtain ⟨same, nothing⟩ := sound.untouched idle
    rw [same] at fed
    refine next.launch ?_ ?_
    · intro c member current
      obtain ⟨n, found⟩ := List.getElem?_of_mem member
      exact ((sound.serves n c found).current current).busy idle
    · have whole : entriesOf (accepted ++ entered.toList.map (s.core.generation, ·))
          s.core.generation = entered.toList := by
        rw [entriesOfAppend, nothing, entriesOfOwn, List.nil_append]
      change CourierWithRun setup (.launch s.core.generation) r r.isOpen
        (entriesOf _ s.core.generation) []
      rw [whole]
      exact launchCourierWithRun fed started _

theorem Courier.Serves.reset {c : Courier} {core : Core} {frames : List Frame}
    {sent : List WireFrame} (serves : c.Serves setup core frames sent) :
    c.Serves setup core.reset frames sent := by
  obtain ⟨r, found, withRun⟩ := serves
  have past : c.generation ≠ core.reset.generation := by
    have bound := Core.foundBound found
    rw [core.resetGeneration]
    omega
  refine ⟨_, Core.resetRun? found, ?_⟩
  rw [Core.liveElsewhere past]
  by_cases current : c.generation = core.generation
  · rw [if_pos current]
    exact withRun.superseded
  · rw [if_neg current]
    rwa [Core.liveElsewhere current] at withRun

theorem Sound.reset (sound : Sound setup s trace accepted) :
    Sound setup { s with core := s.core.reset } trace accepted := by
  have next := s.core.resetGeneration
  refine ⟨fun n c found => (sound.serves n c found).reset, sound.apart, ?_, ?_, sound.asked⟩
  · intro _
    refine ⟨rfl, ?_⟩
    change entriesOf accepted s.core.reset.generation = []
    rw [next]
    exact entriesOfLater sound.entered (Nat.lt_succ_self _)
  · intro e member
    have earlier := sound.entered e member
    change e.1 ≤ s.core.reset.generation
    omega

theorem Sound.others (sound : Sound setup s trace accepted) {m n : Nat} {a b : Courier}
    (first : s.couriers[m]? = some a) (second : s.couriers[n]? = some b) (different : m ≠ n) :
    a.generation ≠ b.generation := by
  intro same
  have bound : m < (s.couriers.map Courier.generation).length := by
    rw [List.length_map]
    exact (List.getElem?_eq_some_iff.mp first).1
  refine different ((List.getElem?_inj bound sound.apart).mp ?_)
  rw [List.getElem?_map, List.getElem?_map, first, second, Option.map_some, Option.map_some, same]

theorem Sound.wake (sound : Sound setup s trace accepted) (n : Nat) (signal : Signal) :
    Sound setup (s.wake setup n signal).1 (trace ++ (s.wake setup n signal).2) accepted := by
  unfold Session.wake
  split
  · rw [List.append_nil]
    exact sound
  · rename_i courier found
    have within := (List.getElem?_eq_some_iff.mp found).1
    have moved := Courier.stepKeepsServing (sound.serves n courier found) signal
    dsimp only
    generalize courier.step setup s.core signal = move at moved
    refine ⟨?_, ?_, ?_, ?_, ?_⟩
    · intro m c same
      rw [sendsAppend]
      by_cases own : n = m
      · subst own
        rw [List.getElem?_set_self within] at same
        cases Option.some.inj same
        rw [sendsOwn, moved.generation]
        exact moved.serves
      · rw [List.getElem?_set_ne own] at same
        rw [sendsOther own, List.append_nil]
        exact (sound.serves m c same).elsewhere moved.keepsOthers (sound.others same found (Ne.symm own))
    · have same : (s.couriers.set n move.courier).map Courier.generation =
          s.couriers.map Courier.generation := by
        apply List.ext_getElem?
        intro m
        rw [List.map_set, List.getElem?_set]
        split
        · rename_i own
          subst own
          rw [moved.generation, List.getElem?_map, found, Option.map_some, if_pos (by simpa using within)]
        · rfl
      change ((s.couriers.set n move.courier).map Courier.generation).Nodup
      rw [same]
      exact sound.apart
    · intro idle
      rw [moved.keepsOthers.generation]
      by_cases current : courier.generation = s.core.generation
      · have here : move.courier.generation = move.core.generation := by
          rw [moved.generation, moved.keepsOthers.generation, current]
        exact absurd idle (moved.serves.current here).busy
      · have run := moved.keepsOthers.others s.core.generation (Ne.symm current)
        rw [← moved.keepsOthers.generation, Core.runCurrent, moved.keepsOthers.generation,
          Core.runCurrent] at run
        rw [Option.some.inj run] at idle ⊢
        exact sound.untouched idle
    · rw [moved.keepsOthers.generation]
      exact sound.entered
    · intro e member
      rw [List.length_set]
      rcases List.mem_append.mp member with old | new
      · exact sound.asked e old
      · obtain ⟨d, _, rfl⟩ := List.mem_map.mp new
        exact within

theorem startFirst {r : Run} (launches : r.start.2 = true) :
    r.phase = .idle ∧ r.start.1.phase = .started := by
  obtain ⟨phase⟩ := r
  cases phase with
  | idle => exact ⟨rfl, rfl⟩
  | started | closed => contradiction

theorem enqueueFirst {r : Run} {f : Frame} (launches : (r.enqueue f).2 = .ok true) :
    r.phase = .idle ∧ (r.enqueue f).1.phase = .started := by
  have step := Run.enqueues r f
  generalize r.enqueue f = entered at step launches
  cases step with
  | refused | lost | ended => contradiction
  | waits | passes => exact ⟨by simpa using launches, rfl⟩

theorem requestStopFirst {r : Run} (launches : r.requestStop.2.1 = true) :
    r.phase = .idle ∧ r.requestStop.1.phase = .started := by
  have first := enqueueFirst (r := r) (f := .stop)
  rcases Run.requestStopSteps r with ⟨_, same⟩ | ⟨r', result, queued, same⟩
  · rw [same] at launches
    contradiction
  · rw [queued] at first
    cases result with
    | ok launch =>
      rw [same] at launches ⊢
      exact first (congrArg Except.ok launches)
    | error e =>
      rw [same] at launches
      contradiction

theorem Sound.act (sound : Sound setup s trace accepted) (action : Action) :
    Sound setup (s.act setup action).session (trace ++ (s.act setup action).trace)
      (accepted ++ (s.accepts setup action).toList.map (s.core.generation, ·)) := by
  cases action with
  | start =>
    simp only [Session.act, Core.start, accepts, Option.toList_none, List.map_nil]
    split
    · rw [attempt, List.append_nil, List.append_nil]
      exact sound
    · rename_i other
      exact sound.admit [] (Run.startFed other) startFirst
  | send f =>
    rw [acceptsSend]
    have fed := Run.enqueueFed s.core.run f
    have first := enqueueFirst (r := s.core.run) (f := f)
    simp only [Session.act, Core.send]
    cases entered : s.core.run.enqueue f with
    | mk run result =>
      rw [entered] at fed first
      cases result with
      | error e =>
        rw [attempt, List.append_nil]
        exact sound.fed [] fed
      | ok launch => exact sound.admit [] fed fun launches => first (by rw [launches])
  | stop =>
    rw [acceptsStop]
    exact sound.admit _ (Run.requestStopFed s.core.run) requestStopFirst
  | cancel =>
    have next := sound.fed s.core.run.cancel.2 (Run.cancelFed s.core.run)
    simpa [Session.act, accepts, Core.cancel] using next
  | reset =>
    simpa [Session.act, accepts] using sound.reset
  | wake n signal =>
    simpa [Session.act, accepts] using sound.wake n signal

theorem Sound.run (sound : Sound setup s trace accepted) (actions : List Action) :
    Sound setup (s.run setup actions).1 (trace ++ (s.run setup actions).2)
      (accepted ++ s.accepted setup actions) := by
  induction actions generalizing s trace accepted with
  | nil =>
    rw [Session.run, Session.accepted, List.append_nil, List.append_nil]
    exact sound
  | cons action rest ih =>
    have next := ih (sound.act action)
    rw [List.append_assoc, List.append_assoc] at next
    exact next

theorem soundRun (setup : Setup) (actions : List Action) :
    Sound setup (new.run setup actions).1 (new.run setup actions).2 (new.accepted setup actions) := by
  have sound := (soundNew setup).run actions
  rwa [List.nil_append, List.nil_append] at sound

end

end ModelServing.Session
