import ModelServing.Proofs.Session.Conduct
import ModelServing.Proofs.Session.Loss

/-! What becomes of the connection of a run that was cancelled or reset. It is given up with the next
wake-up, without any help of the peer, unless the courier is in the middle of a send: then it
hears nothing, and the connection is held for as long as the send takes. -/
namespace ModelServing.Session

def Signal.isInternal : Signal → Bool
  | .outbound | .onward | .aborted => true
  | _ => false

/-- Whether nothing happens any more unless the transport or the peer does something. -/
def Courier.Settled (c : Courier) (setup : Setup) (core : Core) : Prop :=
  ∀ signal : Signal, signal.isInternal = true → c.step setup core signal = c.stay core

namespace Courier
variable {setup : Setup} {c : Courier} {core : Core}

theorem sendingSettled (sending : c.stage.isSending = true) : c.Settled setup core := by
  intro signal internal
  unfold step
  cases at_ : c.stage with
  | opening f | sending f =>
    cases signal with
    | outbound | onward | aborted => rfl
    | connected | refused e | sent | sendFailed e | arrived a => contradiction
  | connecting | awaitingAck | attaching | pumping more | leaving failure | gone =>
    simp [at_, Stage.isSending] at sending

theorem deadGivesUp (courierInformed : c.Informed core) (dead : core.isLive c.generation = false)
    (underway : c.stage.isUnderway = true) (idle : c.stage.isSending = false) :
    ∃ signal : Signal, signal.isInternal = true ∧
      .giveUp ∈ (c.step setup core signal).demands := by
  have aborted : c.isAborted core = true := by
    rcases courierInformed underway with live | aborted
    · exact absurd (dead.symm.trans live) (by decide)
    · exact aborted
  cases at_ : c.stage with
  | connecting | awaitingAck =>
    refine ⟨.aborted, rfl, ?_⟩
    simp [step, at_, aborted, finish, hangUp, letGo]
  | pumping more =>
    refine ⟨.aborted, rfl, ?_⟩
    cases more with
    | false | true => simp [step, at_, aborted, finish, hangUp, letGo]
  | attaching =>
    refine ⟨.onward, rfl, ?_⟩
    simp [step, at_, attach, Core.attach, dead, finish, hangUp, letGo]
  | opening f | sending f =>
    rw [at_] at idle
    contradiction
  | leaving failure | gone =>
    rw [at_] at underway
    contradiction

theorem releasedIff {log : List Exchange} (orderly : Orderly setup c log)
    (courierInformed : c.Informed core) (dead : core.isLive c.generation = false) (settled : c.Settled setup core) :
    .asked .giveUp ∈ log ↔ c.stage.isSending = false := by
  constructor
  · intro given
    cases underway : c.stage.isUnderway with
    | true => exact absurd (orderly.undisturbed underway _ given) (by decide)
    | false =>
      cases at_ : c.stage with
      | leaving failure | gone => rfl
      | connecting | opening f | awaitingAck | attaching | pumping more | sending f =>
        rw [at_] at underway
        contradiction
  · intro idle
    cases underway : c.stage.isUnderway with
    | false => exact orderly.released underway
    | true =>
      obtain ⟨signal, internal, gives⟩ : ∃ signal : Signal, signal.isInternal = true ∧
          .giveUp ∈ (c.step setup core signal).demands := deadGivesUp courierInformed dead underway idle
      rw [settled signal internal] at gives
      contradiction

end Courier

theorem cancelDead (r : Run) : r.cancel.1.isOpen = false := by
  unfold Run.cancel
  split
  · rename_i refused
    have either : r.cancelled = true ∨ r.phase = .closed := by simpa using refused
    rcases either with cancelled | closed
    · simp [Run.isOpen, cancelled]
    · simp [Run.isOpen, closed]
  · rename_i accepted
    have wasOpen : r.phase ≠ .closed := fun h => accepted (by simp [h])
    rw [Run.closeOpen (r := { r with cancelled := true }) wasOpen]
    rfl

theorem abandonDead {setup : Setup} {s : Session} {action : Action}
    (abandons : action = .cancel ∨ action = .reset) :
    let s' := (s.act setup action).session
    s.core.generation ≤ s'.core.generation ∧ s'.core.isLive s.core.generation = false := by
  rcases abandons with rfl | rfl
  · exact ⟨Nat.le_refl _, s.core.cancel.liveCurrent.trans (cancelDead s.core.run)⟩
  · have next := s.core.resetGeneration
    refine ⟨?_, Core.liveElsewhere ?_⟩
    · change s.core.generation ≤ s.core.reset.generation
      omega
    · change s.core.generation ≠ s.core.reset.generation
      omega

theorem runAppend (s : Session) (setup : Setup) (actions more : List Action) :
    (s.run setup (actions ++ more)).1 = ((s.run setup actions).1.run setup more).1 := by
  induction actions generalizing s with
  | nil => rfl
  | cons action rest ih => exact ih (s.act setup action).session

theorem abandonedDead (setup : Setup) (before after : List Action) {action : Action}
    (abandons : action = .cancel ∨ action = .reset) :
    (new.run setup (before ++ action :: after)).1.core.isLive
      (new.run setup before).1.core.generation = false := by
  rw [runAppend]
  generalize (new.run setup before).1 = s
  obtain ⟨known, dead⟩ : s.core.generation ≤ (s.act setup action).session.core.generation ∧
      (s.act setup action).session.core.isLive s.core.generation = false := abandonDead abandons
  obtain ⟨operations, same⟩ := (s.act setup action).session.runPerforms setup after
  change ((s.act setup action).session.run setup after).1.core.isLive s.core.generation = false
  rw [same]
  exact Core.performAllDead known dead operations

theorem abandonedReleases (setup : Setup) (before after : List Action) (action : Action)
    (abandons : action = .cancel ∨ action = .reset) :
    let abandoned := (new.run setup before).1.core.generation
    let s := (new.run setup (before ++ action :: after)).1
    let trace := (new.run setup (before ++ action :: after)).2
    ∀ n c, s.couriers[n]? = some c → c.generation = abandoned →
      (c.Settled setup s.core → (.giveUp ∈ entriesOf trace n ↔ c.stage.isSending = false)) ∧
      (c.stage.isSending = false → .giveUp ∈ entriesOf trace n ∨
        ∃ signal : Signal, signal.isInternal = true ∧
          .giveUp ∈ (c.step setup s.core signal).demands) ∧
      (c.stage.isSending = true → c.Settled setup s.core) := by
  intro abandoned s trace n c found own
  have dead : s.core.isLive c.generation = false := by
    rw [own]
    exact abandonedDead setup before after abandons
  have courierInformed : c.Informed s.core := (informedRun setup _).courierInformed n c found
  have orderly := (properRun setup (before ++ action :: after)).orderly n c found
  have asked : .giveUp ∈ entriesOf trace n ↔
      .asked .giveUp ∈ entriesOf (new.exchanges setup (before ++ action :: after)) n := by
    rw [show trace = _ from rfl, ← askedExchanges, List.mem_filterMap]
    constructor
    · rintro ⟨e, member, same⟩
      cases e with
      | asked d =>
        cases Option.some.inj same
        exact member
      | read f last => contradiction
    · exact fun member => ⟨_, member, rfl⟩
  rw [asked]
  refine ⟨Courier.releasedIff orderly courierInformed dead, fun idle => ?_, Courier.sendingSettled⟩
  cases underway : c.stage.isUnderway with
  | false => exact .inl (orderly.released underway)
  | true => exact .inr (Courier.deadGivesUp courierInformed dead underway idle)

def idleConnection : List Action :=
  [.send (.binary [0xAA]), .wake 0 .connected, .wake 0 .onward, .wake 0 .outbound, .wake 0 .sent]

def cancelledIdle : List Action :=
  idleConnection ++ .cancel :: [.wake 0 .aborted, .wake 0 .onward]

theorem idleReleased : (Action.cancel = .cancel ∨ Action.cancel = .reset) ∧
    ∃ c, (new.run realtimeSetup cancelledIdle).1.couriers[0]? = some c ∧
      c.Settled realtimeSetup (new.run realtimeSetup cancelledIdle).1.core ∧
      .giveUp ∈ entriesOf (new.run realtimeSetup cancelledIdle).2 0 := by
  have settled : Courier.Settled ⟨0, .gone, 1⟩ realtimeSetup
      (new.run realtimeSetup cancelledIdle).1.core := by
    intro signal _
    cases signal <;> rfl
  have released := abandonedReleases realtimeSetup idleConnection [.wake 0 .aborted, .wake 0 .onward]
    .cancel (.inl rfl) 0 ⟨0, .gone, 1⟩ (by decide) (by decide)
  exact ⟨.inl rfl, _, by decide, settled, (released.1 settled).mpr rfl⟩

def busyConnection : List Action :=
  [.send (.binary [0xAA]), .wake 0 .connected, .wake 0 .onward, .wake 0 .outbound, .cancel]

theorem busyHeld :
    (new.run realtimeSetup busyConnection).1.core.run.cancelled = true ∧
    (∃ c, (new.run realtimeSetup busyConnection).1.couriers[0]? = some c ∧
      c.Settled realtimeSetup (new.run realtimeSetup busyConnection).1.core) ∧
    (0, .connect "" []) ∈ (new.run realtimeSetup busyConnection).2 ∧
    ∀ e ∈ (new.run realtimeSetup busyConnection).2,
      e.2 ≠ .giveUp ∧ ∀ code reason, e.2 ≠ .close code reason := by
  have sending : (new.run realtimeSetup busyConnection).2 =
      [(0, .connect "" []), (0, .send (.binary [0xAA]))] := by decide
  have held : Courier.Settled ⟨0, .sending (.binary [0xAA]), 1⟩ realtimeSetup
      (new.run realtimeSetup busyConnection).1.core := Courier.sendingSettled rfl
  refine ⟨by decide, ⟨_, by decide, held⟩, ?_, ?_⟩
  · simp [sending]
  · simp [sending]

end ModelServing.Session
