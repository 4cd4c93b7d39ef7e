import ModelServing.Proofs.Session.Hearing
import ModelServing.Proofs.Session.Loss
import ModelServing.Proofs.Session.Informed

/-! Inbound frames are neither lost, doubled nor put into another order: what a run tells is a function
of the frames that its courier has read, whatever callers do in between. -/
namespace ModelServing.Session

def befalls (s : Session) : Action → List (Nat × Incident)
  | .stop | .send .stop => [(s.core.generation, .stop)]
  | .wake n signal =>
    match s.couriers[n]? with
    | none => []
    | some c => (c.hears signal).toList.map fun f => (c.generation, .frame f)
  | _ => []

def story (s : Session) (setup : Setup) : List Action → List (Nat × Incident)
  | [] => []
  | action :: rest => s.befalls action ++ (s.act setup action).session.story setup rest

/-- Whether the courier of the run is about to report that it could not read a frame. -/
def MalformedUnreported (s : Session) : Prop :=
  ∃ (n : Nat) (c : Courier), s.couriers[n]? = some c ∧ c.generation = s.core.generation ∧
    c.stage = .leaving (some .malformedJson)

namespace Run
variable {r : Run}

theorem startUnheard (r : Run) : r.Unheard false r.start.1 := by
  have quiet := startQuiet r
  refine ⟨quiet.phase, ?_, ?_, quiet.cancelled, fun _ => ?_⟩ <;>
  · unfold start
    split <;> simp

theorem enqueueUnheard (uncancelled : r.cancelled = false) (f : Frame) :
    r.Unheard f.isStop (r.enqueue f).1 := by
  have quiet := enqueueQuiet r f
  have step := enqueues r f
  generalize r.enqueue f = entered at quiet step
  cases step with
  | refused refused =>
    refine ⟨quiet.phase, rfl, rfl, quiet.cancelled, fun wasOpen => ?_⟩
    have stopped : r.stopRequested = true := by simpa [refuses, uncancelled, wasOpen] using refused
    rw [stopped, Bool.true_or]
  | waits willing _ | passes willing _ _ | lost willing _ _ | ended willing _ =>
    refine ⟨quiet.phase, rfl, rfl, quiet.cancelled, fun _ => ?_⟩
    rw [(willingOpen willing).2, Bool.false_or]

theorem enqueueFails (flags : r.FlagsAgree) (willing : r.refuses = false) {f : Frame} {e : Error}
    (failed : (r.enqueue f).2 = .error e) : e = .connectionClosed := by
  have step := enqueues r f
  generalize r.enqueue f = entered at step failed
  cases step with
  | refused refused => simp [willing] at refused
  | waits | passes => contradiction
  | lost =>
    cases failed
    rfl
  | ended _ completed =>
    have unstopped := (willingOpen willing).2
    rw [flags.completed completed] at unstopped
    contradiction

theorem stopHeard {d : Dialect} {unreported : Prop} {incidents : List Incident} {told : List Event}
    (heard : Heard d unreported r incidents told) (flags : r.FlagsAgree)
    (uncancelled : r.cancelled = false) :
    Heard d unreported r.requestStop.1 (incidents ++ [.stop]) (told ++ r.requestStop.2.2) := by
  have stops : ∀ i ∈ [Incident.stop], i = .stop := fun i member => List.mem_singleton.mp member
  have unheard := enqueueUnheard uncancelled .stop
  by_cases refused : r.refuses = true
  · rw [refusedEnqueue refused] at unheard
    rw [requestStop, if_pos refused, List.append_nil]
    exact heard.keep unheard stops fun _ => id
  have willing := Bool.eq_false_iff.mpr refused
  rcases requestStopSteps r with ⟨yes, _⟩ | ⟨r', result, queued, same⟩
  · exact absurd yes refused
  · have fails {e : Error} := enqueueFails flags willing (f := .stop) (e := e)
    rw [queued] at unheard fails
    cases result with
    | ok launch =>
      rw [same, List.append_nil]
      exact heard.keep unheard stops fun _ => id
    | error e =>
      have closed := fails rfl
      subst closed
      have wasOpen := openPhase (willingOpen willing).1
      have still : r'.phase ≠ .closed := fun h => wasOpen (unheard.phase.mp h)
      rw [same, fail, closeOpen still]
      have first : stopsIn incidents = false :=
        (heard.stops wasOpen).symm.trans (willingOpen willing).2
      refine heard.ends wasOpen ?_ ?_ ?_ rfl stops fun _ => .inr ⟨first, rfl, rfl⟩
      · rfl
      · exact unheard.session
      · exact unheard.request

end Run

structure StoryTold (setup : Setup) (s : Session) (story : List (Nat × Incident)) : Prop where
  heard : s.core.run.cancelled = false → Heard setup.dialect s.MalformedUnreported s.core.run
    (entriesOf story s.core.generation) (entriesOf s.core.events s.core.generation)
  known : ∀ e ∈ story, e.1 ≤ s.core.generation
  queued : ∀ e ∈ s.core.events, e.1 ≤ s.core.generation

section
variable {setup : Setup} {s : Session} {story : List (Nat × Incident)}

theorem idleHeard (d : Dialect) (unreported : Prop) : Heard d unreported .idle [] [] where
  results := rfl
  session := rfl
  request := rfl
  stops _ := rfl
  ending := .running (by decide) rfl rfl

theorem StoryTold.next (storyTold : StoryTold setup s story) {core' : Core} {couriers' : List Courier}
    (generation : core'.generation = s.core.generation) {events : List Event}
    {more : List (Nat × Incident)} (known : ∀ e ∈ more, e.1 ≤ s.core.generation)
    (queue : core'.events = s.core.events ++ events.map (s.core.generation, ·))
    (heard : core'.run.cancelled = false →
      Heard setup.dialect (MalformedUnreported ⟨core', couriers'⟩) core'.run
      (entriesOf story s.core.generation ++ entriesOf more s.core.generation)
      (entriesOf s.core.events s.core.generation ++ events)) :
    StoryTold setup ⟨core', couriers'⟩ (story ++ more) where
  heard uncancelled := by
    have next := heard uncancelled
    rw [← entriesOfAppend] at next
    change Heard setup.dialect _ core'.run (entriesOf (story ++ more) core'.generation)
      (entriesOf core'.events core'.generation)
    rw [queue, generation, entriesOfAppend s.core.events, entriesOfOwn]
    exact next
  known e member := by
    change e.1 ≤ core'.generation
    rw [generation]
    rcases List.mem_append.mp member with old | new
    · exact storyTold.known e old
    · exact known e new
  queued e member := by
    change e ∈ core'.events at member
    change e.1 ≤ core'.generation
    rw [generation]
    rw [queue] at member
    rcases List.mem_append.mp member with old | new
    · exact storyTold.queued e old
    · obtain ⟨event, _, rfl⟩ := List.mem_map.mp new
      exact Nat.le_refl _

theorem MalformedUnreported.launchIf (launch : Bool) (unreported : s.MalformedUnreported) :
    (s.launchIf setup launch).1.MalformedUnreported := by
  obtain ⟨n, c, found, current, leaving⟩ := unreported
  cases launch with
  | false => exact ⟨n, c, found, current, leaving⟩
  | true =>
    refine ⟨n, c, ?_, current, leaving⟩
    simp only [Session.launchIf, launch]
    rw [List.getElem?_append_left (List.getElem?_eq_some_iff.mp found).1]
    exact found

theorem StoryTold.launchIf (storyTold : StoryTold setup s story) (launch : Bool) :
    StoryTold setup (s.launchIf setup launch).1 story := by
  refine ⟨?_, ?_, ?_⟩
  · rw [launchIfCore]
    exact fun uncancelled =>
      (storyTold.heard uncancelled).calm (.refl _) fun _ => MalformedUnreported.launchIf launch
  · rw [launchIfCore]
    exact storyTold.known
  · rw [launchIfCore]
    exact storyTold.queued

theorem StoryTold.become (storyTold : StoryTold setup s story) {r : Run} {events : List Event}
    (turn : s.core.run.Turn r events) {more : List Incident}
    (heard : s.core.run.cancelled = false → r.cancelled = false →
      Heard setup.dialect s.MalformedUnreported s.core.run (entriesOf story s.core.generation)
        (entriesOf s.core.events s.core.generation) →
      Heard setup.dialect s.MalformedUnreported r (entriesOf story s.core.generation ++ more)
        (entriesOf s.core.events s.core.generation ++ events)) :
    StoryTold setup ⟨s.core.become r events, s.couriers⟩
      (story ++ more.map (s.core.generation, ·)) := by
  have queue : (s.core.become r events).events =
      s.core.events ++ events.map (s.core.generation, ·) := rfl
  have generation : (s.core.become r events).generation = s.core.generation := rfl
  refine storyTold.next generation ?_ queue fun uncancelled => ?_
  · intro e member
    obtain ⟨i, _, rfl⟩ := List.mem_map.mp member
    exact Nat.le_refl _
  · have before := turn.uncancelled uncancelled
    rw [entriesOfOwn]
    exact heard before uncancelled (storyTold.heard before)

theorem StoryTold.start (storyTold : StoryTold setup s story) :
    StoryTold setup (s.act setup .start).session (story ++ s.befalls .start) := by
  simp only [Session.act, Core.start, befalls, List.append_nil]
  split
  · exact storyTold
  · have next : StoryTold setup ⟨s.core.become s.core.run.start.1 [], s.couriers⟩
        (story ++ ([] : List Incident).map (s.core.generation, ·)) :=
      storyTold.become (Run.startQuiet s.core.run).turn fun _ _ heard => by
        rw [List.append_nil, List.append_nil]
        exact heard.calm (Run.startUnheard s.core.run) fun _ => id
    rw [List.map_nil, List.append_nil] at next
    exact next.launchIf _

def stopsOf (f : Frame) : List Incident := if f.isStop then [.stop] else []

theorem stopsOfStops (f : Frame) : (∀ i ∈ stopsOf f, i = .stop) ∧ stopsIn (stopsOf f) = f.isStop := by
  cases f with
  | stop => exact ⟨fun i member => List.mem_singleton.mp member, rfl⟩
  | command value | binary bytes => exact ⟨fun i member => (nomatch member), rfl⟩

theorem StoryTold.send (storyTold : StoryTold setup s story) (f : Frame) :
    StoryTold setup (s.act setup (.send f)).session (story ++ s.befalls (.send f)) := by
  obtain ⟨stops, same⟩ := stopsOfStops f
  have befallen : s.befalls (.send f) = (stopsOf f).map (s.core.generation, ·) := by
    cases f with
    | stop | command value | binary bytes => rfl
  have next : StoryTold setup ⟨s.core.become (s.core.run.enqueue f).1 [], s.couriers⟩
      (story ++ s.befalls (.send f)) := by
    rw [befallen]
    refine storyTold.become (Run.enqueueQuiet s.core.run f).turn fun uncancelled _ heard => ?_
    have unheard := Run.enqueueUnheard uncancelled f
    rw [← same] at unheard
    rw [List.append_nil]
    exact heard.keep unheard stops fun _ => id
  simp only [Session.act, Core.send]
  generalize s.core.run.enqueue f = entered at next
  obtain ⟨r, result⟩ := entered
  cases result with
  | error e => exact next
  | ok launch => exact next.launchIf launch

theorem StoryTold.stop (storyTold : StoryTold setup s story) (informed : CouriersInformed s) :
    StoryTold setup (s.act setup .stop).session (story ++ s.befalls .stop) := by
  have next : StoryTold setup
      ⟨s.core.become s.core.run.requestStop.1 s.core.run.requestStop.2.2, s.couriers⟩
      (story ++ [Incident.stop].map (s.core.generation, ·)) :=
    storyTold.become (Run.requestStopTurn s.core.run) fun uncancelled _ heard =>
      Run.stopHeard heard informed.flags uncancelled
  exact next.launchIf _

theorem StoryTold.cancel (storyTold : StoryTold setup s story) :
    StoryTold setup { s with core := s.core.cancel } story := by
  have next : StoryTold setup { s with core := s.core.cancel }
      (story ++ ([] : List Incident).map (s.core.generation, ·)) := by
    refine storyTold.become (Run.cancelTurn s.core.run) fun _ uncancelled heard => ?_
    rcases Run.cancelSteps s.core.run with same | ⟨_, same⟩
    · rw [same, List.append_nil, List.append_nil]
      exact heard
    · rw [same] at uncancelled
      contradiction
  rwa [List.map_nil, List.append_nil] at next

theorem StoryTold.reset (storyTold : StoryTold setup s story) :
    StoryTold setup { s with core := s.core.reset } story := by
  have next := s.core.resetGeneration
  refine ⟨fun _ => ?_, ?_, ?_⟩
  · change Heard setup.dialect _ .idle (entriesOf story s.core.reset.generation)
      (entriesOf s.core.events s.core.reset.generation)
    rw [next, entriesOfLater storyTold.known (Nat.lt_succ_self _),
      entriesOfLater storyTold.queued (Nat.lt_succ_self _)]
    exact idleHeard _ _
  · intro e member
    have earlier := storyTold.known e member
    change e.1 ≤ s.core.reset.generation
    omega
  · intro e member
    have earlier := storyTold.queued e member
    change e.1 ≤ s.core.reset.generation
    omega

end

namespace Courier
variable {setup : Setup} {c : Courier} {core core' : Core}

structure Calm (core core' : Core) : Prop where
  events : core'.events = core.events
  unheard : core.run.Unheard false core'.run

theorem calmRefl (core : Core) : Calm core core := ⟨rfl, .refl _⟩

theorem modifyCalm (core : Core) (generation : Nat) {f : Run → Run}
    (unheard : ∀ r : Run, r.Unheard false (f r)) : Calm core (core.modify generation f) := by
  unfold Core.modify
  split
  · exact ⟨rfl, unheard _⟩
  · exact ⟨rfl, .refl _⟩

theorem leaveCalm (core : Core) (generation : Nat) : Calm core (core.leave generation) :=
  modifyCalm core generation fun _ => ⟨.rfl, rfl, rfl, rfl, fun _ => (Bool.or_false _).symm⟩

theorem takeCalm (core : Core) (generation : Nat) : Calm core (core.take generation) :=
  modifyCalm core generation fun _ => ⟨.rfl, rfl, rfl, rfl, fun _ => (Bool.or_false _).symm⟩

theorem attachCalm {generation : Nat} {attended attached : Bool}
    (same : core.attach generation attended = (core', attached)) : Calm core core' := by
  unfold Core.attach at same
  split at same
  · obtain ⟨rfl, _⟩ := Prod.mk.inj same
    refine ⟨List.append_nil _, ?_⟩
    have quiet := Run.attachQuiet core.run attended
    refine ⟨quiet.phase, ?_, ?_, quiet.cancelled, fun _ => ?_⟩ <;>
    · simp only [Core.become]
      split <;> simp
  · obtain ⟨rfl, _⟩ := Prod.mk.inj same
    exact calmRefl core

inductive Tells (setup : Setup) (c : Courier) (core : Core) (signal : Signal) : Move → Prop where
  | calm {move} (deaf : core.isLive c.generation = true → c.hears signal = none)
      (calm : Calm core move.core)
      (still : core.isLive c.generation = true → move.courier = c ∨ c.stage.isUnderway = true) :
      Tells setup c core signal move
  | hears {move f r events result} (live : core.isLive c.generation = true)
      (heard : c.hears signal = some f) (underway : c.stage.isUnderway = true)
      (reception : core.run.Reception setup.dialect f (r, events, result))
      (calm : Calm (core.become r events) move.core)
      (unread : result = .error .malformedJson →
        move.courier.stage = .leaving (some .malformedJson)) :
      Tells setup c core signal move
  | reports {move failure last outcome} (live : core.isLive c.generation = true)
      (deaf : c.hears signal = none) (leaving : c.stage = .leaving failure)
      (told : last.outcome? = some outcome)
      (unread : failure = some .malformedJson → last = .failed .malformedJson)
      (closes : move.core = core.become (core.run.close outcome last).1 [last]) :
      Tells setup c core signal move

theorem receiveStale {d : Dialect} {f : WireFrame} {result : Except Error Inbound}
    (live : core.isLive c.generation ≠ true)
    (received : core.receive c.generation d f = (core', result)) :
    core' = core ∧ result = .ok .stale := by
  rw [Core.receive, if_neg live] at received
  obtain ⟨rfl, rfl⟩ := Prod.mk.inj received
  exact ⟨rfl, rfl⟩

theorem reportTells {failure : Option Error} (leaving : c.stage = .leaving failure) :
    Tells setup c core .onward (c.report core failure) := by
  by_cases live : core.isLive c.generation = true
  · have wasOpen := Core.liveOpen live
    cases failure with
    | some e =>
      have told : (Event.failed e).outcome? = some (.failed e.toApiError) := rfl
      refine .reports live rfl leaving told (fun same => ?_) ?_
      · rw [Option.some.inj same]
      · simp only [report, Core.failed, if_pos live, Run.fail, Run.closeOpen wasOpen]
    | none =>
      cases stopped : core.run.stopRequested with
      | true =>
        have told : Event.completed.outcome? = some .completed := rfl
        refine .reports live rfl leaving told (by simp) ?_
        simp only [report, Core.ended, if_pos live, Run.ended, if_pos stopped, Run.closeOpen wasOpen]
      | false =>
        have told : (Event.failed .connectionClosed).outcome? =
          some (.failed Error.connectionClosed.toApiError) := rfl
        refine .reports live rfl leaving told (by simp) ?_
        simp [report, Core.ended, live, Run.ended, stopped, Run.fail, Run.closeOpen wasOpen]
  · refine .calm (fun alive => absurd alive live) ?_ fun alive => absurd alive live
    have same : (c.report core failure).core = core := by
      cases failure <;> simp only [report, Core.ended, Core.failed, if_neg live]
    rw [same]
    exact calmRefl core

theorem stepTells (setup : Setup) (c : Courier) (core : Core) (signal : Signal) :
    Tells setup c core signal (c.step setup core signal) := by
  have course := stepCourse setup c core signal
  generalize c.step setup core signal = move at course
  cases course with
  | stays deaf => exact .calm (fun _ => deaf) (calmRefl core) fun _ => .inl rfl
  | advances deaf next => exact .calm (fun _ => deaf) (calmRefl core) fun _ => .inr next.underway
  | opens connecting first =>
    exact .calm (fun _ => rfl) (calmRefl core) fun _ => .inr (by rw [connecting]; rfl)
  | attaches attaching attached =>
    exact .calm (fun _ => rfl) (attachCalm attached) fun _ => .inr (by rw [attaching]; rfl)
  | sends pumping offered =>
    exact .calm (fun _ => rfl) (takeCalm core _) fun _ => .inr (by rw [pumping]; rfl)
  | departs deaf underway farewell =>
    exact .calm (fun _ => deaf) (leaveCalm core _) fun _ => .inr underway
  | reports leaving => exact reportTells leaving
  | @reads f core' inbound stage listening received goesOn =>
    by_cases live : core.isLive c.generation = true
    · obtain ⟨r, events, result, same, reception⟩ := Core.receiveSteps live setup.dialect f
      rw [same] at received
      obtain ⟨rfl, rfl⟩ := Prod.mk.inj received
      exact .hears live (hearsListening listening f) (listeningUnderway listening).1 reception
        (calmRefl _) (by simp)
    · obtain ⟨rfl, stale⟩ := receiveStale live received
      exact .calm (fun alive => absurd alive live) (calmRefl _) fun alive => absurd alive live
  | @dismissed f core' result failure demands listening received verdict farewell =>
    by_cases live : core.isLive c.generation = true
    · obtain ⟨r, events, result', same, reception⟩ := Core.receiveSteps live setup.dialect f
      rw [same] at received
      obtain ⟨rfl, rfl⟩ := Prod.mk.inj received
      refine .hears live (hearsListening listening f) (listeningUnderway listening).1 reception
        (leaveCalm _ _) fun unread => ?_
      rcases verdict with ⟨ok, _⟩ | ⟨ok, _⟩ | ⟨e, failed, rfl⟩
      · rw [ok] at unread
        contradiction
      · rw [ok] at unread
        contradiction
      · rw [failed] at unread
        rw [Except.error.inj unread]
        rfl
    · obtain ⟨rfl, stale⟩ := receiveStale live received
      exact .calm (fun alive => absurd alive live) (leaveCalm _ _) fun alive => absurd alive live

end Courier

section
variable {setup : Setup} {s : Session} {story : List (Nat × Incident)} {trace : Trace}
  {accepted : List (Nat × Frame)} {n : Nat} {c : Courier}

theorem MalformedUnreported.own (unreported : s.MalformedUnreported)
    (sound : Sound setup s trace accepted)
    (found : s.couriers[n]? = some c) (current : c.generation = s.core.generation) :
    c.stage = .leaving (some .malformedJson) := by
  obtain ⟨m, c', found', current', leaving⟩ := unreported
  by_cases own : n = m
  · subst own
    cases Option.some.inj (found.symm.trans found')
    exact leaving
  · exact absurd (current.trans current'.symm) (sound.others found found' own)

theorem MalformedUnreported.wake {move : Courier.Move} (unreported : s.MalformedUnreported)
    (sound : Sound setup s trace accepted)
    (found : s.couriers[n]? = some c) (generation : move.core.generation = s.core.generation)
    (same : move.courier.generation = c.generation)
    (still : c.generation = s.core.generation → c.stage = .leaving (some .malformedJson) →
      move.courier.stage = .leaving (some .malformedJson)) :
    MalformedUnreported ⟨move.core, s.couriers.set n move.courier⟩ := by
  have within := (List.getElem?_eq_some_iff.mp found).1
  by_cases current : c.generation = s.core.generation
  · exact ⟨n, move.courier, List.getElem?_set_self within, by rw [same, current, generation],
      still current (unreported.own sound found current)⟩
  · obtain ⟨m, c', found', current', leaving⟩ := unreported
    have other : n ≠ m := by
      intro own
      subst own
      cases Option.some.inj (found.symm.trans found')
      exact current current'
    refine ⟨m, c', ?_, current'.trans generation.symm, leaving⟩
    rw [List.getElem?_set_ne other]
    exact found'

theorem CouriersInformed.live (informed : CouriersInformed s) (found : s.couriers[n]? = some c)
    (current : c.generation = s.core.generation) (underway : c.stage.isUnderway = true)
    (uncancelled : s.core.run.cancelled = false) : s.core.isLive c.generation = true := by
  rcases informed.courierInformed n c found underway with live | aborted
  · exact live
  · have run := s.core.runCurrent
    rw [← current] at run
    rw [Courier.abortedRun run] at aborted
    rw [informed.flags.aborted aborted] at uncancelled
    contradiction

theorem liveUncancelled {core : Core} {generation : Nat} (live : core.isLive generation = true) :
    core.run.cancelled = false := by
  cases cancelled : core.run.cancelled with
  | false => rfl
  | true => simp [Core.isLive, cancelled] at live

def Courier.incidents (c : Courier) (signal : Signal) : List (Nat × Incident) :=
  (c.hears signal).toList.map fun f => (c.generation, .frame f)

theorem Sound.incidentsKnown (sound : Sound setup s trace accepted)
    (found : s.couriers[n]? = some c) (signal : Signal) :
    ∀ e ∈ c.incidents signal, e.1 ≤ s.core.generation := by
  intro e member
  obtain ⟨f, _, rfl⟩ := List.mem_map.mp member
  obtain ⟨r, found', _⟩ := sound.serves n c found
  exact Core.foundBound found'

section
variable {move : Courier.Move} {signal : Signal}

theorem StoryTold.wakeCalm (storyTold : StoryTold setup s story) (sound : Sound setup s trace accepted)
    (informed : CouriersInformed s) (found : s.couriers[n]? = some c)
    (generation : move.core.generation = s.core.generation)
    (same : move.courier.generation = c.generation)
    (deaf : s.core.isLive c.generation = true → c.hears signal = none)
    (calm : Courier.Calm s.core move.core)
    (still : s.core.isLive c.generation = true → move.courier = c ∨ c.stage.isUnderway = true) :
    StoryTold setup ⟨move.core, s.couriers.set n move.courier⟩ (story ++ c.incidents signal) := by
  have queue : move.core.events = s.core.events ++ ([] : List Event).map (s.core.generation, ·) := by
    rw [List.map_nil, List.append_nil]
    exact calm.events
  refine storyTold.next generation (sound.incidentsKnown found signal) queue fun uncancelled => ?_
  have before := calm.unheard.cancelled.symm.trans uncancelled
  have nothing : entriesOf (c.incidents signal) s.core.generation = [] := by
    refine entriesOfAbsent fun e member current => ?_
    obtain ⟨f, heard, rfl⟩ := List.mem_map.mp member
    have heard := Option.mem_toList.mp heard
    have underway := (listeningUnderway (Courier.hearsFrame heard).2).1
    rw [deaf (informed.live found current underway before)] at heard
    contradiction
  rw [nothing, List.append_nil, List.append_nil]
  refine (storyTold.heard before).calm calm.unheard fun wasOpen unreported => ?_
  refine unreported.wake sound found generation same fun current leaving => ?_
  have live : s.core.isLive c.generation = true := by
    rw [current, Core.liveCurrent]
    simp [Run.isOpen, before, wasOpen]
  rcases still live with unmoved | underway
  · rw [unmoved]
    exact leaving
  · rw [leaving] at underway
    contradiction

theorem StoryTold.wakeHears (storyTold : StoryTold setup s story) (sound : Sound setup s trace accepted)
    (found : s.couriers[n]? = some c) (generation : move.core.generation = s.core.generation)
    (same : move.courier.generation = c.generation) {f : WireFrame} {r : Run} {events : List Event}
    {result : Except Error Inbound} (live : s.core.isLive c.generation = true)
    (heard : c.hears signal = some f) (underway : c.stage.isUnderway = true)
    (reception : s.core.run.Reception setup.dialect f (r, events, result))
    (calm : Courier.Calm (s.core.become r events) move.core)
    (unread : result = .error .malformedJson →
      move.courier.stage = .leaving (some .malformedJson)) :
    StoryTold setup ⟨move.core, s.couriers.set n move.courier⟩ (story ++ c.incidents signal) := by
  have current := Core.liveIs live
  have before := liveUncancelled live
  have queue : move.core.events = s.core.events ++ events.map (s.core.generation, ·) := calm.events
  refine storyTold.next generation (sound.incidentsKnown found signal) queue fun _ => ?_
  have reported : ¬s.MalformedUnreported := fun unreported => by
    rw [unreported.own sound found current] at underway
    contradiction
  have own : entriesOf (c.incidents signal) s.core.generation = [.frame f] := by
    rw [Courier.incidents, heard, current]
    exact entriesOfOwn s.core.generation [Incident.frame f]
  rw [own]
  refine ((storyTold.heard before).receive (Core.liveOpen live) reported reception).calm
    calm.unheard fun _ failed => ?_
  have within := (List.getElem?_eq_some_iff.mp found).1
  exact ⟨n, move.courier, List.getElem?_set_self within, by rw [same, current, generation],
    unread failed⟩

theorem StoryTold.wakeReports (storyTold : StoryTold setup s story)
    (sound : Sound setup s trace accepted) (found : s.couriers[n]? = some c)
    (generation : move.core.generation = s.core.generation) {failure : Option Error} {last : Event}
    {outcome : Outcome} (live : s.core.isLive c.generation = true) (deaf : c.hears signal = none)
    (leaving : c.stage = .leaving failure) (told : last.outcome? = some outcome)
    (unread : failure = some .malformedJson → last = .failed .malformedJson)
    (closes : move.core = s.core.become (s.core.run.close outcome last).1 [last]) :
    StoryTold setup ⟨move.core, s.couriers.set n move.courier⟩ (story ++ c.incidents signal) := by
  have current := Core.liveIs live
  have before := liveUncancelled live
  have wasOpen := Core.liveOpen live
  have queue : move.core.events = s.core.events ++ [last].map (s.core.generation, ·) := by
    rw [closes]
    rfl
  refine storyTold.next generation (sound.incidentsKnown found signal) queue fun _ => ?_
  rw [Courier.incidents, deaf, closes, Run.closeOpen wasOpen]
  refine (storyTold.heard before).ends wasOpen ?_ ?_ ?_ (terminalOfOutcome told)
    (by simp [entriesOf]) fun unreported => ?_
  · rfl
  · rfl
  · rfl
  · rw [unreported.own sound found current] at leaving
    cases leaving
    exact .inl (unread rfl)

end

theorem StoryTold.wake (sound : Sound setup s trace accepted) (informed : CouriersInformed s)
    (storyTold : StoryTold setup s story) (n : Nat) (signal : Signal) :
    StoryTold setup (s.wake setup n signal).1 (story ++ s.befalls (.wake n signal)) := by
  simp only [Session.wake, befalls]
  cases found : s.couriers[n]? with
  | none =>
    rw [List.append_nil]
    exact storyTold
  | some c =>
    have moved := Courier.stepKeepsServing (sound.serves n c found) signal
    have tells := Courier.stepTells setup c s.core signal
    dsimp only
    generalize c.step setup s.core signal = move at moved tells
    have generation := moved.keepsOthers.generation
    cases tells with
    | calm deaf calm still =>
      exact storyTold.wakeCalm sound informed found generation moved.generation deaf calm still
    | hears live heard underway reception calm unread =>
      exact storyTold.wakeHears sound found generation moved.generation live heard underway reception
        calm unread
    | reports live deaf leaving told unread closes =>
      exact storyTold.wakeReports sound found generation live deaf leaving told unread closes

theorem StoryTold.act (sound : Sound setup s trace accepted) (informed : CouriersInformed s)
    (storyTold : StoryTold setup s story) (action : Action) :
    StoryTold setup (s.act setup action).session (story ++ s.befalls action) := by
  cases action with
  | start => exact storyTold.start
  | send f => exact storyTold.send f
  | stop => exact storyTold.stop informed
  | cancel =>
    rw [befalls, List.append_nil]
    · exact storyTold.cancel
    all_goals simp
  | reset =>
    rw [befalls, List.append_nil]
    · exact storyTold.reset
    all_goals simp
  | wake n signal => exact storyTold.wake sound informed n signal

theorem StoryTold.run (sound : Sound setup s trace accepted) (informed : CouriersInformed s)
    (storyTold : StoryTold setup s story) (actions : List Action) :
    StoryTold setup (s.run setup actions).1 (story ++ s.story setup actions) := by
  induction actions generalizing s trace accepted story with
  | nil =>
    rw [Session.story, List.append_nil]
    exact storyTold
  | cons action rest ih =>
    have next := ih (sound.act action) (informed.act sound action)
      (storyTold.act sound informed action)
    rw [List.append_assoc] at next
    exact next

end

end ModelServing.Session
