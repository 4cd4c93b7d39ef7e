import ModelServing.Proofs.Session.Transmission
import ModelServing.Recognition
import ModelServing.Dialect.Realtime
import ModelServing.Dialect.Task

/-! What is lost when a run completes. The end of the transport after a stop counts as completion, and
so does a last message, whatever is still pending or in the sink; exactly these frames never reach
the wire. -/
namespace ModelServing.Session

namespace Run

theorem failGate {r : Run} (shut : r.gate.outcome = none) (e : Error) :
    (r.fail e).1.gate.outcome ≠ some .completed := by
  by_cases closed : r.phase = .closed
  · simp [fail, close, closed, shut]
  · simp [fail, closeOpen closed, Gate.release, shut]

theorem cancelGate {r : Run} (shut : r.gate.outcome = none) :
    r.cancel.1.gate.outcome ≠ some .completed := by
  rcases cancelSteps r with same | ⟨wasOpen, same⟩
  · simp [same, shut]
  · simp [same, abandoned, Gate.release, shut]

theorem requestStopGate {r : Run} (shut : r.gate.outcome = none) :
    r.requestStop.1.gate.outcome ≠ some .completed := by
  have kept := (enqueueQuiet r .stop).gate
  rcases requestStopSteps r with ⟨_, same⟩ | ⟨r', result, queued, same⟩
  · simp [same, shut]
  · rw [queued] at kept
    cases result with
    | ok launch =>
      dsimp only at kept
      simp [same, kept, shut]
    | error e =>
      rw [same]
      exact failGate (by rw [kept, shut]) e

end Run

namespace Core

theorem modifyGate (c : Core) (generation : Nat) {f : Run → Run}
    (same : ∀ r : Run, (f r).gate = r.gate) :
    (c.modify generation f).run.gate = c.run.gate := by
  unfold modify
  split
  · exact same c.run
  · rfl

theorem attachGate (c : Core) (generation : Nat) (attended : Bool) :
    (c.attach generation attended).1.run.gate = c.run.gate := by
  unfold attach
  split
  · exact (Run.attachQuiet c.run attended).gate
  · rfl

end Core

namespace Courier

section
variable {setup : Setup} {c : Courier} {core : Core}

theorem letGoGate (c : Courier) (core : Core) (failure : Option Error) (demands : List Demand) :
    (c.letGo core failure demands).core.run.gate = core.run.gate :=
  core.modifyGate c.generation fun _ => rfl

theorem openedGate (c : Courier) (setup : Setup) (core : Core) :
    (c.opened setup core).core.run.gate = core.run.gate := by
  unfold opened
  split <;> rfl

theorem connectedGate (c : Courier) (setup : Setup) (core : Core) :
    (c.connected setup core).core.run.gate = core.run.gate := by
  unfold connected
  dsimp only
  split
  · rfl
  · exact c.openedGate setup core

theorem attachGate (c : Courier) (core : Core) : (c.attach core).core.run.gate = core.run.gate := by
  have same := core.attachGate c.generation true
  unfold attach
  split
  · rename_i attached
    rwa [attached] at same
  · rename_i refused
    rw [refused] at same
    exact (c.letGoGate _ _ _).trans same

theorem outboundGate (c : Courier) (setup : Setup) (core : Core) :
    (c.outbound setup core).core.run.gate = core.run.gate := by
  unfold outbound
  split
  · rfl
  · rfl
  · exact core.modifyGate c.generation fun _ => rfl

theorem deliverGate {f : WireFrame} {reason : String} {started : Courier → Core → Move}
    (dead : core.isLive c.generation = false) :
    (c.deliver setup core f reason started).core.run.gate = core.run.gate := by
  have stale : core.receive c.generation setup.dialect f = (core, .ok .stale) := by
    simp [Core.receive, dead]
  rw [deliver, stale]
  exact c.letGoGate core none _

theorem reportGate {failure : Option Error} (dead : core.isLive c.generation = false) :
    (c.report core failure).core.run.gate = core.run.gate := by
  cases failure <;> simp [report, Core.ended, Core.failed, dead]

theorem failureReported (core : Core) (e : Error) (shut : core.run.gate.outcome = none) :
    (c.report core (some e)).core.run.gate.outcome ≠ some .completed := by
  simp only [report, Core.failed]
  split
  · exact Run.failGate shut e
  · simp [shut]

-- Only inbound frames and the report at the end reach a gate, and only that of an open run.
theorem stepGate (signal : Signal)
    (silent : c.stage = .connecting ∨ core.isLive c.generation = false) :
    (c.step setup core signal).core.run.gate = core.run.gate := by
  have dead {stage : Stage} (at_ : c.stage = stage) (connected : stage ≠ .connecting) :
      core.isLive c.generation = false :=
    silent.resolve_left fun connecting => connected (at_.symm.trans connecting)
  have leaves (failure : Option Error) (demands : List Demand) :=
    c.letGoGate core failure demands
  unfold step
  split
  · exact c.connectedGate setup core
  · exact leaves _ _
  · split
    · exact leaves _ _
    · rfl
  · exact c.openedGate setup core
  · exact leaves _ _
  · rename_i at_
    exact deliverGate (dead at_ (by simp))
  · exact leaves _ _
  · exact leaves _ _
  · split
    · exact leaves _ _
    · rfl
  · exact c.attachGate core
  · exact c.outboundGate setup core
  · rename_i at_
    exact deliverGate (dead at_ (by simp))
  · exact leaves _ _
  · exact leaves _ _
  · split
    · exact leaves _ _
    · rfl
  · rfl
  · exact leaves _ _
  · rename_i at_
    exact reportGate (dead at_ (by simp))
  · rfl

theorem stepCompletes (signal : Signal) (shut : core.run.gate.outcome = none)
    (done : (c.step setup core signal).core.run.gate.outcome = some .completed) :
    core.isLive c.generation = true ∧
      ((c.stage.isUnderway = true ∧ c.stage ≠ .connecting) ∨ c.stage = .leaving none) := by
  have noisy : ¬ (c.stage = .connecting ∨ core.isLive c.generation = false) := by
    intro silent
    rw [stepGate signal silent, shut] at done
    contradiction
  obtain ⟨connected, live⟩ := not_or.mp noisy
  refine ⟨eq_true_of_ne_false live, ?_⟩
  cases at_ : c.stage with
  | leaving failure =>
    cases failure with
    | none => exact .inr rfl
    | some e =>
      exfalso
      unfold step at done
      rw [at_] at done
      cases signal with
      | onward => exact failureReported core e shut done
      | connected | refused _ | sent | sendFailed _ | arrived _ | outbound | aborted =>
        dsimp only [stay] at done
        rw [shut] at done
        contradiction
  | gone =>
    unfold step at done
    rw [at_] at done
    dsimp only [stay] at done
    rw [shut] at done
    contradiction
  | connecting => exact absurd at_ connected
  | opening _ | awaitingAck | attaching | pumping _ | sending _ => exact .inl ⟨rfl, by simp⟩

end

end Courier

theorem actCompletes {setup : Setup} {s : Session} {action : Action}
    (shut : s.core.run.gate.outcome = none)
    (done : (s.act setup action).session.core.run.gate.outcome = some .completed) :
    ∃ n signal, action = .wake n signal ∧ ∃ c, s.couriers[n]? = some c ∧
      (c.step setup s.core signal).core.run.gate.outcome = some .completed := by
  cases action with
  | start =>
    exfalso
    simp only [act, attemptCore, Core.start] at done
    split at done
    · rw [shut] at done
      contradiction
    · simp only [Core.become, (Run.startQuiet s.core.run).gate, shut, reduceCtorEq] at done
  | send f =>
    simp only [act, attemptCore, Core.send, Core.become, (Run.enqueueQuiet s.core.run f).gate, shut,
      reduceCtorEq] at done
  | stop =>
    simp only [act, launchIfCore] at done
    exact absurd done (Run.requestStopGate shut)
  | cancel => exact absurd done (Run.cancelGate shut)
  | reset => contradiction
  | wake n signal =>
    refine ⟨n, signal, rfl, ?_⟩
    simp only [act, wake] at done
    split at done
    · rw [shut] at done
      contradiction
    · rename_i c found
      exact ⟨c, found, done⟩

theorem Courier.Serves.left {setup : Setup} {c : Courier} {core : Core} {accepted : List Frame}
    {sent : List WireFrame} (serves : c.Serves setup core accepted sent)
    (live : core.isLive c.generation = true)
    (stage : (c.stage.isUnderway = true ∧ c.stage ≠ .connecting) ∨ c.stage = .leaving none) :
    Marked accepted core.run.stopRequested ∧ ∃ taken,
      accepted = taken ++ (core.run.outbox ++ core.run.pending) ∧
      sent = setup.wire c.generation taken := by
  have current := Core.liveIs live
  have withRun := serves.current current
  rw [current, Core.liveCurrent] at live
  refine ⟨withRun.marked, ?_⟩
  have carries := withRun.carries
  rcases stage with ⟨underway, connected⟩ | leaving
  · obtain ⟨taken, strands, same⟩ := carries.strands underway live
    exact ⟨taken, strands.parts, same connected⟩
  · rw [leaving] at carries
    cases carries with
    | leaving carried strands =>
      obtain ⟨taken, strand, same⟩ := strands live
      exact ⟨taken, strand.parts, same rfl⟩

def callerInput (frames : List Frame) : List Frame := frames.filter fun f => !f.isStop

theorem Marked.ends {frames : List Frame} {stopRequested : Bool}
    (marked : Marked frames stopRequested) :
    frames = callerInput frames ∨ frames = callerInput frames ++ [.stop] := by
  obtain ⟨before, unmarked, whole⟩ := marked
  have all : before.filter (fun f => !f.isStop) = before :=
    List.filter_eq_self.mpr fun f member => by rw [unmarked f member]; rfl
  rcases whole with rfl | ⟨rfl, _⟩
  · exact .inl all.symm
  · refine .inr ?_
    have marker : [Frame.stop].filter (fun f => !f.isStop) = [] := rfl
    rw [callerInput, List.filter_append, all, marker, List.append_nil]

theorem Marked.taken {frames taken left : List Frame} {stopRequested : Bool}
    (marked : Marked frames stopRequested) (parts : frames = taken ++ left) :
    (callerInput frames).length ≤ taken.length ↔ ∀ f ∈ left, f.isStop = true := by
  have rest : left = frames.drop taken.length := by rw [parts, List.drop_left]
  constructor
  · intro short f member
    have beyond : (callerInput frames).drop taken.length = [] := List.drop_eq_nil_of_le short
    rw [rest] at member
    rcases marked.ends with whole | ends
    · rw [whole, beyond] at member
      contradiction
    · rw [ends, List.drop_append, beyond, List.nil_append] at member
      rw [List.mem_singleton.mp (List.mem_of_mem_drop member)]
      rfl
  · intro stops
    have nothing : left.filter (fun f => !f.isStop) = [] :=
      List.filter_eq_nil_iff.mpr fun f member => by simp [stops f member]
    rw [callerInput, parts, List.filter_append, nothing, List.append_nil]
    exact List.length_filter_le _ _

theorem Setup.wireWithin (setup : Setup) (generation : Nat) {first second frames : List Frame}
    (one : first <+: frames) (other : second <+: frames) :
    setup.wire generation first <+: setup.wire generation second ↔ first.length ≤ second.length := by
  constructor
  · intro part
    have lengths := part.length_le
    rw [setup.wireLength, setup.wireLength] at lengths
    omega
  · intro short
    exact setup.wirePrefix generation (List.prefix_of_prefix_length_le one other short)

theorem completedLoses (setup : Setup) (actions : List Action) (action : Action) :
    let s := (new.run setup actions).1
    let trace := (new.run setup actions).2
    let generation := s.core.generation
    let accepted := entriesOf (new.accepted setup actions) generation
    let left := s.core.run.outbox ++ s.core.run.pending
    s.core.run.gate.outcome = none →
    (s.act setup action).session.core.run.gate.outcome = some .completed →
    ∃ n c, s.couriers[n]? = some c ∧ c.generation = generation ∧
      (∃ taken, accepted = taken ++ left ∧ trace.sends n = setup.wire generation taken) ∧
      (setup.wire generation (callerInput accepted) <+: trace.sends n ↔ ∀ f ∈ left, f.isStop = true) := by
  intro s trace generation accepted left shut done
  have sound : Sound setup s trace (new.accepted setup actions) := soundRun setup actions
  obtain ⟨n, signal, _, c, found, completes⟩ := actCompletes shut done
  obtain ⟨live, stage⟩ := Courier.stepCompletes signal shut completes
  have current : c.generation = generation := Core.liveIs live
  obtain ⟨marked, taken, parts, sent⟩ := (sound.serves n c found).left live stage
  rw [current] at marked parts sent
  refine ⟨n, c, found, current, ⟨taken, parts, sent⟩, ?_⟩
  have first : callerInput accepted <+: accepted := by
    rcases marked.ends with whole | ends
    · exact ⟨[], by rw [List.append_nil]; exact whole.symm⟩
    · exact ⟨[.stop], ends.symm⟩
  rw [sent, setup.wireWithin generation first ⟨left, parts.symm⟩]
  exact marked.taken parts

def bareSetup (d : Dialect) (r : Request) : Setup :=
  ⟨d, r, "", [], ⟨fun _ => "", fun _ _ => "", fun _ => "", fun _ => ""⟩⟩

def realtimeSetup : Setup := bareSetup Dialect.realtime (.new "qwen-omni-turbo-realtime")

def attendedInput : List Action :=
  [.send (.binary [0xAA]), .wake 0 .connected, .wake 0 .onward, .wake 0 .outbound, .wake 0 .sent,
    .stop, .wake 0 .outbound, .wake 0 .sent, .wake 0 (.arrived .hungUp)]

theorem attendedInputArrives :
    (new.run realtimeSetup attendedInput).1.core.run.gate.outcome = none ∧
    ((new.run realtimeSetup attendedInput).1.act realtimeSetup
      (.wake 0 .onward)).session.core.run.gate.outcome = some .completed ∧
    ∃ n c, (new.run realtimeSetup attendedInput).1.couriers[n]? = some c ∧
      realtimeSetup.wire (new.run realtimeSetup attendedInput).1.core.generation
        (callerInput (entriesOf (new.accepted realtimeSetup attendedInput)
          (new.run realtimeSetup attendedInput).1.core.generation)) <+:
      (new.run realtimeSetup attendedInput).2.sends n := by
  have result := completedLoses realtimeSetup attendedInput (.wake 0 .onward) (by decide) (by decide)
  obtain ⟨n, c, found, _, _, all⟩ := result
  exact ⟨by decide, by decide, n, c, found, all.mpr (by decide)⟩

def taskSetup : Setup :=
  bareSetup Dialect.task (.recognition "paraformer-realtime-v2" "pcm" 16000)

def unattendedInput : List Action :=
  [.send (.binary [0xAA]), .stop, .wake 0 .connected, .wake 0 .sent, .wake 0 (.arrived .hungUp)]

theorem completedWithUnsent :
    new.accepted taskSetup unattendedInput = [(0, .binary [0xAA]), (0, .stop)] ∧
    (new.run taskSetup unattendedInput).1.core.run.gate.outcome = none ∧
    ((new.run taskSetup unattendedInput).1.act taskSetup
      (.wake 0 .onward)).session.core.run.gate.outcome = some .completed ∧
    ∀ e ∈ (new.run taskSetup unattendedInput).2, e.2 ≠ .send (.binary [0xAA]) := by
  decide

end ModelServing.Session
