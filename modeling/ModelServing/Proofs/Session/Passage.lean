import ModelServing.Proofs.Session.Cargo
import ModelServing.Proofs.Session.Generations

/-! One wake-up of a courier: whatever woke it, its cargo stays in place and other runs are kept. -/
namespace ModelServing.Session

def Courier.Serves (c : Courier) (setup : Setup) (core : Core) (accepted : List Frame)
    (sent : List WireFrame) : Prop :=
  ∃ r, core.run? c.generation = some r ∧
    CourierWithRun setup c r (core.isLive c.generation) accepted sent

structure Courier.Move.KeepsServing (m : Courier.Move) (setup : Setup) (c : Courier) (core : Core)
    (accepted : List Frame) (sent : List WireFrame) : Prop where
  generation : m.courier.generation = c.generation
  keepsOthers : core.KeepsOthers c.generation m.core
  serves : m.courier.Serves setup m.core accepted (sent ++ m.demands.filterMap Demand.frame?)

def Stage.isUnderway : Stage → Bool
  | .leaving _ | .gone => false
  | _ => true

theorem Carries.strands {setup : Setup} {generation : Nat} {r : Run} {live : Bool}
    {accepted : List Frame} {stage : Stage} {sent : List WireFrame}
    (carries : Carries setup generation r live accepted stage sent)
    (underway : stage.isUnderway = true) (alive : live = true) :
    ∃ taken, r.leave.Strands accepted taken ∧
      (stage ≠ .connecting → sent = setup.wire generation taken) := by
  have early (w : r.Waits live accepted) : r.leave.Strands accepted [] :=
    ⟨by simp [Run.leave, w.outbox, w.pending alive], rfl⟩
  have late {taken} (w : r.Flows live accepted taken) : r.leave.Strands accepted taken :=
    ⟨by rw [w.parts]; simp [Run.leave, w.pending alive], rfl⟩
  cases carries with
  | connecting w => exact ⟨[], early w, fun h => absurd rfl h⟩
  | opening first w => exact ⟨[], early w, fun _ => by rw [setup.wireNil, first]⟩
  | awaitingAck w | attaching w => exact ⟨[], early w, fun _ => (setup.wireNil generation).symm⟩
  | pumping w dry => exact ⟨_, late w, fun _ => rfl⟩
  | sending w => exact ⟨_, late w, fun _ => rfl⟩
  | leaving carried strands => contradiction
  | gone carried dead => contradiction

namespace Courier
open Move

section
variable {setup : Setup} {c : Courier} {core core' : Core} {accepted : List Frame}
  {sent : List WireFrame}

theorem Move.KeepsServing.after {m : Move} (moved : m.KeepsServing setup c core' accepted sent)
    (keepsOthers : core.KeepsOthers c.generation core') : m.KeepsServing setup c core accepted sent :=
  ⟨moved.generation, keepsOthers.trans moved.keepsOthers, moved.serves⟩

theorem stayKeepsServing (serves : c.Serves setup core accepted sent) :
    (c.stay core).KeepsServing setup c core accepted sent := by
  refine ⟨rfl, .refl core _, ?_⟩
  simpa [stay] using serves

theorem stageKeepsServing (serves : c.Serves setup core accepted sent) (stage : Stage)
    (carries : ∀ r, Carries setup c.generation r (core.isLive c.generation) accepted c.stage sent →
      Carries setup c.generation r (core.isLive c.generation) accepted stage sent) :
    KeepsServing ⟨{ c with stage }, core, []⟩ setup c core accepted sent := by
  obtain ⟨r, found, withRun⟩ := serves
  refine ⟨rfl, .refl core _, r, found, ?_⟩
  rw [List.filterMap_nil, List.append_nil]
  exact ⟨withRun.used, withRun.busy, withRun.abort, withRun.marked, carries r withRun.carries⟩

theorem letGoKeepsServing (serves : c.Serves setup core accepted sent)
    (underway : c.stage.isUnderway = true) {failure : Option Error} {demands : List Demand} (silent : demands.filterMap Demand.frame? = [])
    (reason : failure = none → c.stage = .connecting → core.isLive c.generation = false) :
    (c.letGo core failure demands).KeepsServing setup c core accepted sent := by
  obtain ⟨r, found, withRun⟩ := serves
  have same (other : Nat) : (core.leave c.generation).isLive other = core.isLive other :=
    core.modifyLive c.generation (f := Run.leave) (fun _ => rfl) other
  refine ⟨rfl, core.keepsOthersModify _ _, r.leave, ?_, ?_⟩
  · change (core.modify c.generation Run.leave).run? c.generation = _
    rw [Core.modifyRun?, if_pos rfl, found, Option.map_some]
  · change CourierWithRun setup { c with stage := .leaving failure } r.leave
      ((core.leave c.generation).isLive c.generation) accepted _
    rw [same]
    have nothing : sent ++ (c.letGo core failure demands).demands.filterMap Demand.frame? = sent := by
      simp [letGo, List.filterMap_append, silent, Demand.frame?]
    rw [nothing]
    refine ⟨withRun.used, withRun.busy, withRun.abort, withRun.marked,
      .leaving withRun.carries.carried ?_⟩
    intro live
    obtain ⟨taken, strands, all⟩ := withRun.carries.strands underway live
    refine ⟨taken, strands, fun none_ => all fun connecting => ?_⟩
    rw [reason none_ connecting] at live
    contradiction

theorem failKeepsServing (serves : c.Serves setup core accepted sent)
    (underway : c.stage.isUnderway = true) (e : Error) : (c.fail core e).KeepsServing setup c core accepted sent :=
  letGoKeepsServing serves underway rfl (by simp)

theorem hangUpKeepsServing (serves : c.Serves setup core accepted sent)
    (underway : c.stage.isUnderway = true) (connected : c.stage ≠ .connecting) (reason : String) :
    (c.hangUp core reason).KeepsServing setup c core accepted sent :=
  letGoKeepsServing serves underway rfl fun _ connecting => absurd connecting connected

theorem finishKeepsServing (serves : c.Serves setup core accepted sent)
    (underway : c.stage.isUnderway = true) (connected : c.stage ≠ .connecting) :
    (c.finish core []).KeepsServing setup c core accepted sent :=
  letGoKeepsServing serves underway rfl fun _ connecting => absurd connecting connected

theorem abortedDead (serves : c.Serves setup core accepted sent) (aborted : c.isAborted core = true) :
    core.isLive c.generation = false := by
  obtain ⟨r, found, withRun⟩ := serves
  apply withRun.abort
  simpa [isAborted, found] using aborted

theorem Serves.current (serves : c.Serves setup core accepted sent)
    (current : c.generation = core.generation) :
    CourierWithRun setup c core.run core.run.isOpen accepted sent := by
  obtain ⟨r, found, withRun⟩ := serves
  rw [current, core.liveCurrent] at withRun
  rw [current, core.runCurrent] at found
  cases Option.some.inj found
  exact withRun

theorem becomeServes (current : c.generation = core.generation) {r : Run} (events : List Event)
    (withRun : CourierWithRun setup c r r.isOpen accepted sent) :
    core.KeepsOthers c.generation (core.become r events) ∧
      c.Serves setup (core.become r events) accepted sent := by
  have live : (core.become r events).isLive core.generation = r.isOpen :=
    (core.become r events).liveCurrent
  rw [current]
  refine ⟨core.keepsOthersBecome r events, r, ?_, ?_⟩
  · rw [current]
    exact (core.become r events).runCurrent
  · rw [current, live]
    exact withRun

theorem fedServes (serves : c.Serves setup core accepted sent)
    (live : core.isLive c.generation = true) {r : Run} (events : List Event)
    (fed : core.run.phase ≠ .idle → core.run.Fed r none) :
    core.KeepsOthers c.generation (core.become r events) ∧
      c.Serves setup (core.become r events) accepted sent := by
  have current := Core.liveIs live
  have withRun := serves.current current
  have next := withRun.fed (fed withRun.busy)
  rw [Option.toList_none, List.append_nil] at next
  exact becomeServes current events next

theorem receiveServes (serves : c.Serves setup core accepted sent) (d : Dialect) (f : WireFrame) :
    core.KeepsOthers c.generation (core.receive c.generation d f).1 ∧
      c.Serves setup (core.receive c.generation d f).1 accepted sent := by
  unfold Core.receive
  split
  · rename_i live
    exact fedServes serves live _ fun busy => Run.receiveFed busy d f
  · exact ⟨.refl core _, serves⟩

theorem deliverKeepsServing (serves : c.Serves setup core accepted sent)
    (underway : c.stage.isUnderway = true) (connected : c.stage ≠ .connecting) (f : WireFrame)
    (reason : String) {started : Courier → Core → Move}
    (next : ∀ {core}, c.Serves setup core accepted sent →
      (started c core).KeepsServing setup c core accepted sent) :
    (c.deliver setup core f reason started).KeepsServing setup c core accepted sent := by
  obtain ⟨keepsOthers, still⟩ := receiveServes serves setup.dialect f
  unfold deliver
  split
  all_goals
    rename_i received
    rw [received] at keepsOthers still
  · exact (failKeepsServing still underway _).after keepsOthers
  · exact (stayKeepsServing still).after keepsOthers
  · exact (next still).after keepsOthers
  · exact (hangUpKeepsServing still underway connected reason).after keepsOthers
  · exact (hangUpKeepsServing still underway connected reason).after keepsOthers

theorem closePhase (r : Run) (outcome : Outcome) (event : Event) :
    (r.close outcome event).1.phase = .closed := by
  unfold Run.close
  split
  · assumption
  · rfl

theorem reportKeepsServing (serves : c.Serves setup core accepted sent) {failure : Option Error}
    (leaving : c.stage = .leaving failure) :
    (c.report core failure).KeepsServing setup c core accepted sent := by
  -- The run is not live afterwards: either it was not before, or it has been closed.
  have told : ∃ core', (c.report core failure) = ⟨{ c with stage := .gone }, core', []⟩ ∧
      core.KeepsOthers c.generation core' ∧ c.Serves setup core' accepted sent ∧
      core'.isLive c.generation = false := by
    refine ⟨(c.report core failure).core, rfl, ?_⟩
    by_cases live : core.isLive c.generation = true
    · have closes {r : Run} (events : List Event) (closed : r.phase = .closed)
          (fed : core.run.Fed r none) :
          core.KeepsOthers c.generation (core.become r events) ∧
            c.Serves setup (core.become r events) accepted sent ∧
            (core.become r events).isLive c.generation = false := by
        obtain ⟨keepsOthers, still⟩ := fedServes serves live events fun _ => fed
        exact ⟨keepsOthers, still, by simp [Core.isLive, Core.become, closed]⟩
      cases failure with
      | none =>
        simp only [report, Core.ended, if_pos live]
        refine closes _ ?_ (Run.endedFed core.run)
        unfold Run.ended
        split <;> exact closePhase _ _ _
      | some e =>
        simp only [report, Core.failed, if_pos live]
        exact closes _ (closePhase _ _ _) ((Run.fedNothing core.run).fail e)
    · have same : (c.report core failure).core = core := by
        cases failure <;> simp only [report, Core.ended, Core.failed, if_neg live]
      rw [same]
      exact ⟨.refl core _, serves, Bool.eq_false_iff.mpr live⟩
  obtain ⟨core', same, keepsOthers, still, dead⟩ := told
  rw [same]
  refine Move.KeepsServing.after (stageKeepsServing still .gone fun r carries => ?_) keepsOthers
  exact .gone carries.carried dead

theorem openedKeepsServing (serves : c.Serves setup core accepted sent)
    (waits : ∀ r live, Carries setup c.generation r live accepted c.stage sent →
      r.Waits live accepted ∧ sent = setup.openingOf c.generation) :
    (c.opened setup core).KeepsServing setup c core accepted sent := by
  unfold opened
  split
  · refine stageKeepsServing serves .awaitingAck fun r carries => ?_
    obtain ⟨waiting, same⟩ := waits r _ carries
    subst same
    exact .awaitingAck waiting
  · refine stageKeepsServing serves .attaching fun r carries => ?_
    obtain ⟨waiting, same⟩ := waits r _ carries
    subst same
    exact .attaching waiting

theorem connectedKeepsServing (serves : c.Serves setup core accepted sent)
    (connecting : c.stage = .connecting) :
    (c.connected setup core).KeepsServing setup c core accepted sent := by
  obtain ⟨r, found, withRun⟩ := serves
  have fresh (r : Run) (live : Bool)
      (carries : Carries setup c.generation r live accepted c.stage sent) :
      r.Waits live accepted ∧ sent = [] := by
    rw [connecting] at carries
    cases carries with
    | connecting waits => exact ⟨waits, rfl⟩
  obtain ⟨waits, nothing⟩ := fresh r _ withRun.carries
  subst nothing
  have unused : c.used = 0 := withRun.used
  have opens : setup.openingOf c.generation = (setup.dialect.opening setup.request
    (setup.ids.task c.generation) (setup.ids.event c.generation c.used)).toList := by
    rw [unused]
    rfl
  unfold connected
  dsimp only
  split
  · rename_i f first
    rw [first] at opens
    refine ⟨rfl, .refl core _, r, found, ?_⟩
    exact ⟨congrArg (· + 1) unused, withRun.busy, withRun.abort, withRun.marked, .opening opens waits⟩
  · rename_i silent
    rw [silent] at opens
    refine openedKeepsServing ⟨r, found, withRun⟩ fun r live carries => ?_
    exact ⟨(fresh r live carries).1, opens.symm⟩

theorem attachKeepsServing (serves : c.Serves setup core accepted sent)
    (attaching : c.stage = .attaching) :
    (c.attach core).KeepsServing setup c core accepted sent := by
  unfold attach
  by_cases live : core.isLive c.generation = true
  · have current := Core.liveIs live
    have wasOpen := live
    rw [current, core.liveCurrent] at wasOpen
    have withRun := serves.current current
    have carries := withRun.carries
    rw [attaching] at carries
    cases carries with
    | attaching waits =>
      have kept := waits.pending wasOpen
      have marked := withRun.marked
      rw [← kept] at marked
      have next : CourierWithRun setup { c with stage := .pumping true } core.run.sunk core.run.isOpen
          accepted (setup.openingOf c.generation) := by
        rw [← setup.wireNil] at withRun ⊢
        refine ⟨withRun.used, withRun.busy, withRun.abort, withRun.marked, .pumping ?_ (by simp)⟩
        exact ⟨kept.symm, fun _ => rfl, fun _ => core.run.sunkSink, fun _ => rfl⟩
      simp only [Core.attach, if_pos live, Run.attachSunk marked]
      obtain ⟨keepsOthers, still⟩ :=
        becomeServes (c := { c with stage := .pumping true }) current [] next
      refine ⟨rfl, keepsOthers, ?_⟩
      rw [List.filterMap_nil, List.append_nil]
      exact still
  · simp only [Core.attach, if_neg live]
    exact hangUpKeepsServing serves (by rw [attaching]; rfl) (by rw [attaching]; decide) _

theorem outboundKeepsServing (serves : c.Serves setup core accepted sent)
    (pumping : c.stage = .pumping true) :
    (c.outbound setup core).KeepsServing setup c core accepted sent := by
  obtain ⟨r, found, withRun⟩ := serves
  obtain ⟨taken, flows, same⟩ : ∃ taken, r.Flows (core.isLive c.generation) accepted taken ∧
      sent = setup.wire c.generation taken := by
    have carries := withRun.carries
    rw [pumping] at carries
    cases carries with
    | @pumping taken _ flows dry => exact ⟨taken, flows, rfl⟩
  subst same
  unfold outbound
  cases box : r.outbox with
  | nil =>
    by_cases present : r.sink = .present
    · have offered : core.offer c.generation = .nothing := by
        simp only [Core.offer, found, box, if_pos present]
      rw [offered]
      exact stayKeepsServing ⟨r, found, withRun⟩
    · have offered : core.offer c.generation = .done := by
        simp only [Core.offer, found, box, if_neg present]
      rw [offered]
      refine ⟨rfl, .refl core _, r, found, ?_⟩
      rw [List.filterMap_nil, List.append_nil]
      exact ⟨withRun.used, withRun.busy, withRun.abort, withRun.marked,
        .pumping flows fun _ => ⟨box, present⟩⟩
  | cons f rest =>
    have offered : core.offer c.generation = .frame f := by
      simp only [Core.offer, found, box]
    rw [offered]
    have live : (core.take c.generation).isLive c.generation = core.isLive c.generation :=
      core.modifyLive c.generation (f := fun r => { r with outbox := r.outbox.tail })
        (fun _ => rfl) c.generation
    refine ⟨rfl, core.keepsOthersModify _ _, { r with outbox := r.outbox.tail }, ?_, ?_⟩
    · change (core.modify c.generation _).run? c.generation = _
      rw [Core.modifyRun?, if_pos rfl, found, Option.map_some]
    · have next := setup.wireNext c.generation taken f
      rw [← withRun.used] at next
      refine ⟨?_, withRun.busy, fun told => live.trans (withRun.abort told), withRun.marked, ?_⟩
      · simp [withRun.used, Demand.frame?]
      · change Carries setup c.generation _ ((core.take c.generation).isLive c.generation) accepted _
          (setup.wire c.generation taken ++ [setup.shaped c.generation c.used f])
        rw [live, ← next]
        refine .sending ⟨?_, flows.pending, flows.sink, flows.attended⟩
        simp [flows.parts, box]

theorem connectedStageKeepsServing (serves : c.Serves setup core accepted sent)
    (underway : c.stage.isUnderway = true) (connected : c.stage ≠ .connecting) :
    (∀ e, (c.fail core e).KeepsServing setup c core accepted sent) ∧
    (c.finish core []).KeepsServing setup c core accepted sent ∧
    ∀ reason, (if c.isAborted core then c.hangUp core reason else c.stay core).KeepsServing setup c core
      accepted sent := by
  refine ⟨failKeepsServing serves underway, finishKeepsServing serves underway connected,
    fun reason => ?_⟩
  split
  · exact hangUpKeepsServing serves underway connected reason
  · exact stayKeepsServing serves

theorem connectingKeepsServing (serves : c.Serves setup core accepted sent)
    (at_ : c.stage = .connecting) (signal : Signal) :
    (c.step setup core signal).KeepsServing setup c core accepted sent := by
  have underway : c.stage.isUnderway = true := by rw [at_]; rfl
  unfold step
  rw [at_]
  cases signal with
  | connected => exact connectedKeepsServing serves at_
  | refused e => exact failKeepsServing serves underway e
  | aborted =>
    dsimp only
    split
    · rename_i aborted
      exact letGoKeepsServing serves underway rfl fun _ _ => abortedDead serves aborted
    · exact stayKeepsServing serves
  | sent | sendFailed e | arrived a | outbound | onward => exact stayKeepsServing serves

theorem openingKeepsServing (serves : c.Serves setup core accepted sent) {first : WireFrame}
    (at_ : c.stage = .opening first) (signal : Signal) :
    (c.step setup core signal).KeepsServing setup c core accepted sent := by
  have underway : c.stage.isUnderway = true := by rw [at_]; rfl
  unfold step
  rw [at_]
  cases signal with
  | sent =>
    refine openedKeepsServing serves fun r live carries => ?_
    rw [at_] at carries
    cases carries with
    | opening opens waits => exact ⟨waits, opens.symm⟩
  | sendFailed e => exact failKeepsServing serves underway e
  | connected | refused e | arrived a | outbound | onward | aborted => exact stayKeepsServing serves

theorem awaitingKeepsServing (serves : c.Serves setup core accepted sent)
    (at_ : c.stage = .awaitingAck) (signal : Signal) :
    (c.step setup core signal).KeepsServing setup c core accepted sent := by
  have underway : c.stage.isUnderway = true := by rw [at_]; rfl
  have connected : c.stage ≠ .connecting := by rw [at_]; decide
  obtain ⟨fails, finishes, aborts⟩ := connectedStageKeepsServing serves underway connected
  unfold step
  rw [at_]
  cases signal with
  | arrived a =>
    cases a with
    | frame f =>
      refine deliverKeepsServing serves underway connected f _ fun serves => ?_
      refine stageKeepsServing serves .attaching fun r carries => ?_
      rw [at_] at carries
      cases carries with
      | awaitingAck waits => exact .attaching waits
    | failed e => exact fails e
    | hungUp => exact finishes
  | aborted => exact aborts _
  | connected | refused e | sent | sendFailed e | outbound | onward => exact stayKeepsServing serves

theorem pumpingKeepsServing (serves : c.Serves setup core accepted sent) {more : Bool}
    (at_ : c.stage = .pumping more) (signal : Signal) :
    (c.step setup core signal).KeepsServing setup c core accepted sent := by
  have underway : c.stage.isUnderway = true := by rw [at_]; rfl
  have connected : c.stage ≠ .connecting := by simp [at_]
  obtain ⟨fails, finishes, aborts⟩ := connectedStageKeepsServing serves underway connected
  unfold step
  rw [at_]
  cases more with
  | false | true =>
    cases signal with
    | outbound => first | exact outboundKeepsServing serves at_ | exact stayKeepsServing serves
    | arrived a =>
      cases a with
      | frame f => exact deliverKeepsServing serves underway connected f _ stayKeepsServing
      | failed e => exact fails e
      | hungUp => exact finishes
    | aborted => exact aborts _
    | connected | refused e | sent | sendFailed e | onward => exact stayKeepsServing serves

theorem sendingKeepsServing (serves : c.Serves setup core accepted sent) {f : WireFrame}
    (at_ : c.stage = .sending f) (signal : Signal) :
    (c.step setup core signal).KeepsServing setup c core accepted sent := by
  have underway : c.stage.isUnderway = true := by rw [at_]; rfl
  unfold step
  rw [at_]
  cases signal with
  | sent =>
    refine stageKeepsServing serves (.pumping true) fun r carries => ?_
    rw [at_] at carries
    cases carries with
    | sending flows => exact .pumping flows (by simp)
  | sendFailed e => exact failKeepsServing serves underway e
  | connected | refused e | arrived a | outbound | onward | aborted => exact stayKeepsServing serves

theorem stepKeepsServing (serves : c.Serves setup core accepted sent) (signal : Signal) :
    (c.step setup core signal).KeepsServing setup c core accepted sent := by
  cases at_ : c.stage with
  | connecting => exact connectingKeepsServing serves at_ signal
  | opening first => exact openingKeepsServing serves at_ signal
  | awaitingAck => exact awaitingKeepsServing serves at_ signal
  | attaching =>
    unfold step
    rw [at_]
    cases signal with
    | onward => exact attachKeepsServing serves at_
    | connected | refused e | sent | sendFailed e | arrived a | outbound | aborted =>
      exact stayKeepsServing serves
  | pumping more => exact pumpingKeepsServing serves at_ signal
  | sending f => exact sendingKeepsServing serves at_ signal
  | leaving failure =>
    unfold step
    rw [at_]
    cases signal with
    | onward => exact reportKeepsServing serves at_
    | connected | refused e | sent | sendFailed e | arrived a | outbound | aborted =>
      exact stayKeepsServing serves
  | gone =>
    unfold step
    rw [at_]
    exact stayKeepsServing serves

end

end Courier

end ModelServing.Session
