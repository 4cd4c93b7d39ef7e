import ModelServing.Proofs.Gate.Waits
import ModelServing.Proofs.Gate.Waiter
import ModelServing.Rehearsal.Vigil

/-! A timed gate shows what its calls have come to once all are at rest. What a gate promises is said of
all orders in which the calls move. -/
namespace ModelServing

def WaitCall.settled (g : WaitCall) (now : Nat) (gate : Gate) : WaitCall :=
  (((g.poll now gate).poll now gate).poll now gate).poll now gate

section
variable {g : WaitCall} {now : Nat} {gate : Gate}

theorem settledRest (rest : g.isAtRest now = true) : g.settled now gate = g := by
  obtain ⟨since, timeout, stage⟩ := g
  obtain ⟨notice, rfl⟩ | rfl | ⟨rfl, early⟩ := WaitCall.restStage rest
  · rfl
  · rfl
  · have early : (⟨since, timeout, .timing false⟩ : WaitCall).isDue now = false := early
    simp [WaitCall.settled, WaitCall.poll, early]

theorem settledNotified (rest : g.isAtRest now = true) (present : g.stage ≠ .dropped) {o : Outcome}
    (stored : gate.outcome = some o) :
    (g.notify.settled now gate).waiter = g.waiter.look now gate ∧
      (g.notify.settled now gate).isAtRest now = true ∧
      (g.notify.settled now gate).stage ≠ .dropped := by
  obtain ⟨since, timeout, stage⟩ := g
  obtain ⟨notice, rfl⟩ | dropped | ⟨rfl, -⟩ := WaitCall.restStage rest
  · simp [WaitCall.notify, WaitCall.settled, WaitCall.poll, WaitCall.waiter, Waiter.look,
      WaitStage.notice?, WaitCall.isAtRest]
  · exact absurd dropped present
  · simp [WaitCall.notify, WaitCall.settled, WaitCall.poll, stored, WaitCall.waiter, Waiter.look,
      WaitStage.notice?, WaitCall.isAtRest, WaitCall.deadline]

theorem settledNew (now : Nat) (gate : Gate) (timeout : Option Nat) :
    let g := (⟨now, timeout, .unregistered⟩ : WaitCall).settled now gate
    g.waiter = .start now timeout gate ∧ g.isAtRest now = true ∧ g.stage ≠ .dropped := by
  intro g
  cases stored : gate.outcome with
  | some o =>
    simp [g, WaitCall.settled, WaitCall.poll, stored, WaitCall.waiter, Waiter.start, Waiter.look,
      Waiter.expire, WaitStage.notice?, WaitCall.isAtRest, WaitCall.deadline]
  | none =>
    cases timeout with
    | none =>
      simp [g, WaitCall.settled, WaitCall.poll, stored, WaitCall.waiter, Waiter.start, Waiter.look,
        Waiter.expire, WaitStage.notice?, WaitCall.isAtRest, WaitCall.deadline, WaitCall.isDue]
    | some t =>
      by_cases zero : now + t ≤ now
      · have same : now + t = now := Nat.le_antisymm zero (Nat.le_add_right _ _)
        simp [g, WaitCall.settled, WaitCall.poll, stored, WaitCall.waiter, Waiter.start, Waiter.look,
          Waiter.expire, WaitStage.notice?, WaitCall.isAtRest, WaitCall.deadline, WaitCall.isDue, same]
      · simp [g, WaitCall.settled, WaitCall.poll, stored, WaitCall.waiter, Waiter.start, Waiter.look,
          Waiter.expire, WaitStage.notice?, WaitCall.isAtRest, WaitCall.deadline, WaitCall.isDue, zero]

theorem restExpire (rest : g.isAtRest now = true) (present : g.stage ≠ .dropped) :
    g.waiter.expire now = g.waiter := by
  obtain ⟨since, timeout, stage⟩ := g
  obtain ⟨notice, rfl⟩ | dropped | ⟨rfl, early⟩ := WaitCall.restStage rest
  · rfl
  · exact absurd dropped present
  · cases timeout with
    | none => rfl
    | some t =>
      have early : now < since + t := by simpa [WaitCall.isDue, WaitCall.deadline] using early
      simp [WaitCall.waiter, Waiter.expire, WaitStage.notice?, WaitCall.deadline,
        Nat.not_le.mpr early]

theorem settledNext (rest : g.isAtRest now = true) (present : g.stage ≠ .dropped) :
    (g.settled (now + 1) gate).waiter = g.waiter.expire (now + 1) ∧
      (g.settled (now + 1) gate).isAtRest (now + 1) = true ∧
      (g.settled (now + 1) gate).stage ≠ .dropped := by
  obtain ⟨since, timeout, stage⟩ := g
  obtain ⟨notice, rfl⟩ | dropped | ⟨rfl, early⟩ := WaitCall.restStage rest
  · simp [WaitCall.settled, WaitCall.poll, WaitCall.waiter, Waiter.expire, WaitStage.notice?,
      WaitCall.isAtRest]
  · exact absurd dropped present
  · cases timeout with
    | none =>
      simp [WaitCall.settled, WaitCall.poll, WaitCall.waiter, Waiter.expire, WaitStage.notice?,
        WaitCall.isAtRest, WaitCall.deadline, WaitCall.isDue]
    | some t =>
      have early : now < since + t := by simpa [WaitCall.isDue, WaitCall.deadline] using early
      by_cases due : since + t ≤ now + 1
      · have same : since + t = now + 1 := by omega
        simp [WaitCall.settled, WaitCall.poll, WaitCall.waiter, Waiter.expire, WaitStage.notice?,
          WaitCall.isAtRest, WaitCall.deadline, WaitCall.isDue, same]
      · simp [WaitCall.settled, WaitCall.poll, WaitCall.waiter, Waiter.expire, WaitStage.notice?,
          WaitCall.isAtRest, WaitCall.deadline, WaitCall.isDue, due]

end

namespace GateCalls

section
variable {l : GateCalls} {v : TimedGate}

theorem playAppend (l : GateCalls) (moves more : List Move) :
    l.play (moves ++ more) = (l.play moves).play more := List.foldl_append

def settling (count : Nat) : List Move :=
  (List.range count).flatMap fun i => List.replicate 4 (.poll i)

theorem pollFour (l : GateCalls) (n : Nat) : l.play (List.replicate 4 (.poll n)) =
    { l with waits := l.waits.modify n (·.settled l.now l.gate) } := by
  simp only [play, List.replicate, List.foldl_cons, List.foldl_nil, move, List.modify_modify_eq]
  rfl

theorem playSettling (l : GateCalls) (count : Nat) : l.play (settling count) =
    { l with waits := l.waits.mapIdx fun i g =>
      if i < count then g.settled l.now l.gate else g } := by
  induction count with
  | zero =>
    have same : l.waits.mapIdx (fun _ g => g) = l.waits := by
      apply List.ext_getElem?
      simp
    simp [settling, play, same]
  | succ count ih =>
    rw [settling, List.range_succ, List.flatMap_append, playAppend, ← settling, ih]
    simp only [List.flatMap_cons, List.flatMap_nil, List.append_nil, pollFour]
    congr 1
    apply List.ext_getElem?
    intro j
    simp only [List.getElem?_modify, List.getElem?_mapIdx]
    cases l.waits[j]? with
    | none => rfl
    | some g =>
      simp only [Option.map_eq_map, Option.map_some, Option.some.injEq]
      by_cases same : count = j
      · subst same
        simp
      · by_cases before : j < count
        · simp [same, before, Nat.lt_succ_of_lt before]
        · simp [same, before, show ¬j < count + 1 by omega]

theorem settle (l : GateCalls) : l.play (settling l.waits.length) =
    { l with waits := l.waits.map (·.settled l.now l.gate) } := by
  rw [playSettling]
  congr 1
  apply List.ext_getElem?
  intro j
  rw [List.getElem?_mapIdx, List.getElem?_map]
  cases found : l.waits[j]? with
  | none => rfl
  | some g => simp [(List.getElem?_eq_some_iff.mp found).1]

structure Shows (l : GateCalls) (v : TimedGate) : Prop where
  sound : l.Sound
  returned : ∀ r ∈ l.releases, ∃ first, r.progress = .returned first
  still : ∀ g ∈ l.waits, g.isAtRest l.now = true ∧ g.stage ≠ .dropped
  view : l.view = v

theorem Shows.rest (shows_ : l.Shows v) : l.isAtRest = true := by
  simp only [isAtRest, Bool.and_eq_true, List.all_eq_true]
  refine ⟨fun r member => ?_, fun g member => (shows_.still g member).1⟩
  obtain ⟨first, same⟩ := shows_.returned r member
  simp [same]

theorem showsBegin : opened.Shows .begin where
  sound := soundOpened
  returned := by simp [opened]
  still := by simp [opened]
  view := rfl

def Follows (l : GateCalls) (v : TimedGate) : Prop := ∃ moves, (l.play moves).Shows v

theorem Follows.trans {v' : TimedGate} (follows : l.Follows v)
    (next : ∀ l : GateCalls, l.Shows v → l.Follows v') : l.Follows v' := by
  obtain ⟨moves, shown⟩ := follows
  obtain ⟨more, ends⟩ := next _ shown
  exact ⟨moves ++ more, by rwa [playAppend]⟩

theorem followsSettled (l' : GateCalls) (moves : List Move) (played : l.play moves = l')
    (sound : l.Sound) (returned : ∀ r ∈ l'.releases, ∃ first, r.progress = .returned first)
    (still : ∀ g ∈ l'.waits, (g.settled l'.now l'.gate).isAtRest l'.now = true ∧
      (g.settled l'.now l'.gate).stage ≠ .dropped)
    (view : ⟨l'.now, l'.gate, l'.waits.map fun g => (g.settled l'.now l'.gate).waiter⟩ = v) :
    l.Follows v := by
  refine ⟨moves ++ settling l'.waits.length, sound.play _, ?_, ?_, ?_⟩
  all_goals rw [playAppend, played, settle]
  · exact returned
  · intro g' member
    obtain ⟨g, inside, rfl⟩ := List.mem_map.mp member
    exact still g inside
  · rw [← view, GateCalls.view, List.map_map]
    rfl

theorem Shows.wait (shown : l.Shows v) (timeout : Option Nat) : l.Follows (v.wait timeout) := by
  obtain ⟨waiter, rest, present⟩ := settledNew l.now l.gate timeout
  have kept (g : WaitCall) (member : g ∈ l.waits) : g.settled l.now l.gate = g :=
    settledRest (shown.still g member).1
  refine followsSettled { l with waits := l.waits ++ [⟨l.now, timeout, .unregistered⟩] }
    [.wait timeout] rfl shown.sound shown.returned ?_ ?_
  · intro g member
    rcases List.mem_append.mp member with before | new
    · change (g.settled l.now l.gate).isAtRest l.now = true ∧
        (g.settled l.now l.gate).stage ≠ .dropped
      rw [kept g before]
      exact shown.still g before
    · rw [List.mem_singleton.mp new]
      exact ⟨rest, present⟩
  · have before : l.waits.map (fun g => (g.settled l.now l.gate).waiter) =
        l.waits.map WaitCall.waiter :=
      List.map_congr_left fun g member => by rw [kept g member]
    simp only [List.map_append, List.map_cons, List.map_nil, before, waiter, ← shown.view,
      GateCalls.view, TimedGate.wait]

theorem Shows.released (shown : l.Shows v) (released : l.gate.outcome ≠ none) (g : WaitCall)
    (member : g ∈ l.waits) : ∃ notice, g.stage = .answered notice := by
  have away : g.isWaiting = false := Bool.eq_false_iff.mpr fun waiting =>
    released (shown.sound.restShut shown.rest member waiting)
  cases stage : g.stage with
  | answered notice => exact ⟨notice, rfl⟩
  | dropped => exact absurd stage (shown.still g member).2
  | unregistered | registered _ | parked _ | timing _ => simp [WaitCall.isWaiting, stage] at away

theorem lateRelease (released : l.gate.isReleased = true) (o : Outcome) :
    l.play [.release o, .proceed l.releases.length] =
      { l with releases := l.releases ++ [⟨o, .returned false⟩] } := by
  simp [play, move, proceed, released]

theorem firstRelease (shut : l.gate.isReleased = false) (o : Outcome) :
    l.play [.release o, .proceed l.releases.length, .proceed l.releases.length] =
      { l with
        gate := l.gate.release o
        releases := l.releases ++ [⟨o, .returned true⟩]
        waits := l.waits.map WaitCall.notify } := by
  simp [play, move, proceed, shut]

theorem Shows.release (shown : l.Shows v) (o : Outcome) : l.Follows (v.release o).2 := by
  have returned (first : Bool) :
      ∀ r ∈ l.releases ++ [⟨o, .returned first⟩], ∃ first, r.progress = .returned first := by
    intro r member
    rcases List.mem_append.mp member with before | new
    · exact shown.returned r before
    · exact ⟨first, by rw [List.mem_singleton.mp new]⟩
  rw [← shown.view, TimedGate.release]
  cases released : l.gate.isReleased with
  | true =>
    obtain ⟨p, stored⟩ := Option.isSome_iff_exists.mp released
    refine followsSettled _ _ (lateRelease released o) shown.sound (returned false) ?_ ?_
    · intro g member
      rw [settledRest (shown.still g member).1]
      exact shown.still g member
    · have same : l.gate.release o = l.gate := by
        rw [Gate.release, stored, Option.getD_some, ← stored]
      simp only [GateCalls.view, same, List.map_map]
      congr 1
      refine List.map_congr_left fun g member => ?_
      obtain ⟨notice, stage⟩ := shown.released (by simp [stored]) g member
      rw [settledRest (shown.still g member).1]
      simp [WaitCall.waiter, Waiter.look, WaitStage.notice?, stage]
  | false =>
    refine followsSettled _ _ (firstRelease released o) shown.sound (returned true) ?_ ?_
    · intro g' member
      obtain ⟨g, inside, rfl⟩ := List.mem_map.mp member
      obtain ⟨rest, present⟩ := shown.still g inside
      exact (settledNotified rest present rfl).2
    · simp only [GateCalls.view, List.map_map]
      congr 1
      refine List.map_congr_left fun g member => ?_
      obtain ⟨rest, present⟩ := shown.still g member
      exact (settledNotified rest present rfl).1

theorem Shows.tick (shown : l.Shows v) : l.Follows (v.pass 1) := by
  have allowed : l.mayPass 1 = true := by
    simp only [mayPass, Bool.and_eq_true, shown.rest, true_and, List.all_eq_true, Bool.or_eq_true,
      Bool.not_eq_true', Option.all_eq_true, decide_eq_true_eq]
    intro g member
    cases waiting : g.isWaiting with
    | false => exact .inl rfl
    | true =>
      refine .inr fun d at_ => ?_
      have early := (restWaiting shown.rest member waiting).2
      exact Nat.succ_le_of_lt (by simpa [WaitCall.isDue, at_] using early)
  refine followsSettled { l with now := l.now + 1 } [.pass 1] ?_ shown.sound shown.returned ?_ ?_
  · simp [play, move, allowed]
  · intro g member
    obtain ⟨rest, present⟩ := shown.still g member
    exact (settledNext rest present).2
  · rw [← shown.view, TimedGate.pass]
    simp only [GateCalls.view, List.map_map]
    congr 1
    refine List.map_congr_left fun g member => ?_
    obtain ⟨rest, present⟩ := shown.still g member
    exact (settledNext rest present).1

theorem passNext (v : TimedGate) (millis : Nat) : v.pass (millis + 1) = (v.pass millis).pass 1 := by
  simp only [TimedGate.pass, List.map_map, Nat.add_assoc]
  congr 1
  refine List.map_congr_left fun w _ => ?_
  rw [Function.comp_apply, w.expireAgain, Nat.max_eq_right (by omega)]

theorem Shows.pass (shown : l.Shows v) (millis : Nat) : l.Follows (v.pass millis) := by
  induction millis with
  | zero =>
    have same : v.pass 0 = v := by
      rw [← shown.view, TimedGate.pass]
      simp only [GateCalls.view, List.map_map]
      congr 1
      exact List.map_congr_left fun g member =>
        restExpire (shown.still g member).1 (shown.still g member).2
    exact ⟨[], by rwa [same]⟩
  | succ millis ih =>
    rw [passNext]
    exact ih.trans fun _ next => next.tick

theorem Shows.perform (shown : l.Shows v) (step : TimedGate.Step) :
    l.Follows ((v.perform step).2.pass 1) := by
  have tick {v' : TimedGate} (follows : l.Follows v') : l.Follows (v'.pass 1) :=
    follows.trans fun _ next => next.tick
  refine tick ?_
  cases step with
  | release o => exact shown.release o
  | wait timeout => exact shown.wait timeout
  | rest millis => exact shown.pass millis
  | await timeout =>
    simp only [TimedGate.perform, TimedGate.await]
    split
    · exact ⟨[], shown⟩
    · exact shown.pass timeout

end

end GateCalls

def TimedGate.after (v : TimedGate) (steps : List TimedGate.Step) : TimedGate :=
  steps.foldl (fun v step => (v.perform step).2.pass 1) v

theorem GateCalls.Follows.after {l : GateCalls} {v : TimedGate} (follows : l.Follows v)
    (steps : List TimedGate.Step) : l.Follows (v.after steps) := by
  induction steps generalizing v with
  | nil => exact follows
  | cons step rest ih => exact ih (follows.trans fun _ shown => shown.perform step)

/-- For every order of all steps of releases and waits and for every passing of time. -/
theorem gateHolds :
    (∀ moves, let l := GateCalls.opened.play moves
      (l.gate.outcome = none → ∀ r ∈ l.releases, r.progress = .storing) ∧
      (∀ n o more, l.gate.outcome = none → l.releases[n]? = some ⟨o, .storing⟩ →
        (l.play (.proceed n :: more)).Won n o) ∧
      (∀ o, l.gate.outcome = some o → ∃ n, ∀ more, (l.play more).Won n o) ∧
      (∀ n r more, l.releases[n]? = some r → 2 ≤ more.count (.proceed n) →
        ∃ first, (l.play more).releases[n]? = some ⟨r.outcome, .returned first⟩) ∧
      (∀ i g, l.waits[i]? = some g →
        (∀ time o, g.stage = .answered ⟨time, some o⟩ → l.gate.outcome = some o) ∧
        (∀ time, g.stage = .answered ⟨time, none⟩ → g.deadline = some time) ∧
        (l.isAtRest = true → g.isWaiting = true →
          l.gate.outcome = none ∧ ∀ d, g.deadline = some d → l.now < d) ∧
        (l.isAtRest = true → l.gate.outcome = none → ∀ d, g.deadline = some d → d ≤ l.now →
          g.stage = .answered ⟨d, none⟩ ∨ g.stage = .dropped) ∧
        ∀ more, l.announced ∨ g.isDue l.now = true → 8 ≤ more.count (.poll i) →
          ∃ g', (l.play more).waits[i]? = some g' ∧ g'.isWaiting = false) ∧
      (∀ more i g notice, l.gate.outcome ≠ none → (l.play more).waits[i]? = some g →
        g.stage = .answered notice →
        (l.waits.length ≤ i ∨ ∀ d, g.deadline = some d → l.now < d) →
        notice.outcome = l.gate.outcome) ∧
      (∀ i more, i < l.waits.length → ∃ others, others.Sublist more ∧
        (∀ m ∈ others, m.isOf i = false) ∧ (l.forget i).play others = (l.play more).forget i) ∧
      ∀ i g more, l.waits[i]? = some g → g.isWaiting = false →
        (l.forget i).play more = (l.play more).forget i) ∧
    ∀ steps, ∃ moves, let l := GateCalls.opened.play moves
      l.isAtRest = true ∧ l.view = TimedGate.begin.after steps := by
  refine ⟨fun moves => ?_, fun steps => ?_⟩
  · intro l
    have sound : l.Sound := GateCalls.soundOpened.play moves
    refine ⟨sound.ordered.shut, fun n o more shut had => ?_, fun o stored => ?_,
      fun n r more had own => ?_, fun i g found => ⟨?_, ?_, fun rest waiting => ⟨?_, fun d at_ => ?_⟩,
      fun rest shut d at_ due => ?_, fun more bounded own => ?_⟩,
      fun more i g notice released found answered inTime =>
        sound.learns released more found answered inTime,
      fun i more within => GateCalls.playOthers within more,
      fun i g more was away => GateCalls.playOver was away more⟩
    · exact (sound.ordered.wins shut had).play more
    · obtain ⟨n, won⟩ := sound.ordered.won o stored
      exact ⟨n, won.play⟩
    · refine GateCalls.releaseReturns had (Nat.le_trans ?_ own)
      cases r.progress <;> simp [Progress.remaining]
    · have fits := sound.fits g (List.mem_of_getElem? found)
      exact fun time o answered => (fits.told _ answered).1 o rfl
    · have fits := sound.fits g (List.mem_of_getElem? found)
      exact fun time answered => (fits.told _ answered).2.1 rfl
    · exact sound.restShut rest (List.mem_of_getElem? found) waiting
    · have early := (GateCalls.restWaiting rest (List.mem_of_getElem? found) waiting).2
      simpa [WaitCall.isDue, at_] using early
    · exact sound.restOverdue rest shut (List.mem_of_getElem? found) at_ due
    · obtain ⟨g', ends, -⟩ := GateCalls.playWait found more
      refine ⟨g', ends, sound.finishes 8 found ?_ own g' ends⟩
      refine bounded.imp (fun announced => ⟨announced, ?_⟩) fun due => ⟨due, ?_⟩
      · cases g.stage <;> simp [WaitStage.soon]
      · cases g.stage <;> simp [WaitStage.late]
  · have begun : GateCalls.opened.Follows .begin := ⟨[], GateCalls.showsBegin⟩
    obtain ⟨moves, shown⟩ := begun.after steps
    exact ⟨moves, shown.rest, shown.view⟩

example : ((GateCalls.opened.play [.wait none, .poll 0, .release .completed, .poll 0, .proceed 0,
    .poll 0, .proceed 0, .poll 0, .poll 0, .poll 0, .poll 0]).waits.map WaitCall.waiter) =
    [⟨none, some ⟨0, some .completed⟩⟩] := by decide

end ModelServing
