import ModelServing.Proofs.Session.Consistency
import ModelServing.Proofs.Session.Reading

/-! The gate of a run over all calls and reads: shut while the run is the current one and open, and
from then on it gives the same outcome for ever. Whatever can end an open run does so at its gate. -/
namespace ModelServing.Session

theorem Run.Turn.keepsGate {r r' : Run} {events o} (turn : r.Turn r' events)
    (stored : r.gate.outcome = some o) : r'.gate.outcome = some o := by
  cases turn with
  | goesOn results quiet heard => rw [quiet.gate, stored]
  | closes results wasOpen closed told gate cancelled =>
    rw [gate, Gate.outcome_release, stored, Option.getD_some]

namespace Core
variable {c c' : Core} {generation : Nat} {r : Run} {o : Outcome}

theorem gateFound (found : c.run? generation = some r) : c.gate generation = r.gate := by
  rw [gate, found, Option.map_some, Option.getD_some]

theorem gateCurrent (c : Core) : c.gate c.generation = c.run.gate := gateFound c.runCurrent

theorem gateStored (stored : (c.gate generation).outcome = some o) :
    ∃ r, c.run? generation = some r ∧ r.gate.outcome = some o := by
  rw [gate] at stored
  cases found : c.run? generation with
  | none =>
    rw [found, Option.map_none, Option.getD_none] at stored
    contradiction
  | some r =>
    rw [found, Option.map_some, Option.getD_some] at stored
    exact ⟨r, rfl, stored⟩

theorem Turn.keepsGate (turn : c.Turn c') (stored : (c.gate generation).outcome = some o) :
    (c'.gate generation).outcome = some o := by
  obtain ⟨r, found, given⟩ := gateStored stored
  cases turn with
  | @current r' events turn =>
    by_cases current : generation = c.generation
    · subst current
      cases Option.some.inj (c.runCurrent.symm.trans found)
      rw [show c.generation = (c.become r' events).generation from rfl, gateCurrent]
      exact turn.keepsGate given
    · rw [gateFound (((c.keepsOthersBecome r' events).others _ current).trans found)]
      exact given
  | @past n f quiet =>
    have length : (c.past.modify n f).length = c.past.length := List.length_modify _ _ _
    by_cases current : generation = c.generation
    · rw [run?, if_pos current] at found
      cases Option.some.inj found
      rw [gate, run?, if_pos (by simpa only [Core.generation, length] using current)]
      exact given
    · rw [run?, if_neg current] at found
      rw [gate, run?, if_neg (by simpa only [Core.generation, length] using current),
        List.getElem?_modify, found]
      dsimp only [Option.map_eq_map, Option.map_some, Option.getD_some]
      split
      · rw [(quiet r).gate, given]
      · exact given
  | reset =>
    rw [gateFound (resetRun? found)]
    split
    · rw [Run.superseded, Gate.outcome_release, given, Option.getD_some]
    · exact given

inductive Passes (c : Core) : Core → Prop where
  | calls (operations : List Operation) : Passes c (c.performAll operations)
  | reads (events : List (Nat × Event)) : Passes c { c with events }

theorem readPasses (c : Core) : c.Passes c.read.2 := by
  unfold read
  split <;> exact .reads _

theorem performAllTurns {motive : Core → Prop} (operations : List Operation) (start : motive c)
    (turns : ∀ c c', motive c → c.Turn c' → motive c') : motive (c.performAll operations) := by
  unfold performAll
  exact List.foldlRecOn operations _ start fun c held operation _ =>
    turns c _ held (performTurn c operation)

theorem Passes.keepsGate (passes : c.Passes c') (stored : (c.gate generation).outcome = some o) :
    (c'.gate generation).outcome = some o := by
  cases passes with
  | calls operations =>
    exact performAllTurns (motive := fun c => (c.gate generation).outcome = some o) operations
      stored fun _ _ held turn => turn.keepsGate held
  | reads events => exact stored

theorem Passes.later (passes : c.Passes c') : c.generation ≤ c'.generation ∧ c.Onward c' := by
  cases passes with
  | calls operations => exact c.performAllOnward operations
  | reads events => exact ⟨Nat.le_refl _, fun _ => .refl _⟩

theorem Accounts.calls {queued} (accounts : c.Accounts queued) (operations : List Operation) :
    let c' := c.performAll operations
    c'.Accounts (queued ++ c'.events.drop c.events.length) := by
  intro c'
  have all : ∃ more, c'.events = c.events ++ more ∧ c'.Accounts (queued ++ more) := by
    refine performAllTurns (motive := fun c' => ∃ more, c'.events = c.events ++ more ∧
      c'.Accounts (queued ++ more)) operations ⟨[], by simp, by simpa using accounts⟩ ?_
    rintro c₁ c₂ ⟨more, grown, held⟩ turn
    obtain ⟨new, queue⟩ := turn.queues
    have next := held.turn turn
    rw [← queue, List.drop_left, List.append_assoc] at next
    exact ⟨more ++ new, by rw [← queue, grown, List.append_assoc], next⟩
  obtain ⟨more, grown, held⟩ := all
  rwa [grown, List.drop_left]

theorem Accounts.reads {queued} (accounts : c.Accounts queued) : c.read.2.Accounts queued := by
  unfold read
  split <;> exact ⟨accounts.current, accounts.past, accounts.known⟩

theorem Accounts.shutLive {queued} (accounts : c.Accounts queued)
    (known : generation ≤ c.generation) (shut : (c.gate generation).outcome = none) :
    generation = c.generation ∧ c.isLive generation = true := by
  have current : generation = c.generation := by
    rcases Nat.lt_or_eq_of_le known with earlier | same
    · have released := accounts.pastReleased earlier
      rw [Gate.isReleased, shut] at released
      contradiction
    · exact same
  subst current
  rw [gateCurrent] at shut
  have wasOpen : c.run.phase ≠ .closed := fun closed => by
    have released := accounts.current.released.mpr (.inl closed)
    rw [Gate.isReleased, shut] at released
    contradiction
  obtain ⟨uncancelled, -⟩ := accounts.current.resultsOnly wasOpen
  refine ⟨rfl, ?_⟩
  rw [liveCurrent]
  simp [Run.isOpen, uncancelled, wasOpen]

theorem becomeCloses {outcome : Outcome} {event : Event} (wasOpen : r.phase ≠ .closed)
    (shut : r.gate.outcome = none) (events : List Event) :
    ((c.become (r.close outcome event).1 events).gate c.generation).outcome = some outcome := by
  rw [show c.generation = (c.become (r.close outcome event).1 events).generation from rfl,
    gateCurrent]
  simp only [become, Run.closeOpen wasOpen, Gate.outcome_release, shut, Option.getD_none]

section
variable (live : c.isLive generation = true) (shut : (c.gate generation).outcome = none)
include live shut

theorem liveShut :
    c.generation = generation ∧ c.run.phase ≠ .closed ∧ c.run.gate.outcome = none := by
  have current := liveIs live
  refine ⟨current.symm, liveOpen live, ?_⟩
  rwa [current, gateCurrent] at shut

theorem liveCancels : (c.cancel.gate generation).outcome = some .cancelled := by
  obtain ⟨rfl, wasOpen, given⟩ := liveShut live shut
  have welcome : ¬ (c.run.cancelled || c.run.phase == .closed) = true := by
    rw [liveCurrent] at live
    simpa [Run.isOpen] using live
  rw [cancel, Run.cancel, if_neg welcome,
    Run.closeOpen (r := { c.run with cancelled := true }) wasOpen]
  simp [gate, run?, become, Core.generation, Gate.release, given]

theorem liveFails (e : Error) :
    ((c.failed generation e).gate generation).outcome = some (.failed e.toApiError) := by
  obtain ⟨rfl, wasOpen, given⟩ := liveShut live shut
  rw [failed, if_pos live]
  exact becomeCloses wasOpen given _

theorem liveEnds (stopped : c.run.stopRequested = true) :
    ((c.ended generation).gate generation).outcome = some .completed := by
  obtain ⟨rfl, wasOpen, given⟩ := liveShut live shut
  rw [ended, if_pos live, Run.ended, if_pos stopped]
  exact becomeCloses wasOpen given _

theorem liveHears {d : Dialect} {f : WireFrame} {last : Event} (json : f.json? ≠ none)
    (ending : d.ending? c.run.stopRequested (c.run.named d f).requestId f = some last) :
    ((c.receive generation d f).1.gate generation).outcome = last.outcome? := by
  obtain ⟨rfl, wasOpen, given⟩ := liveShut live shut
  obtain ⟨r, events, result, same, reception⟩ := receiveSteps live d f
  rw [same]
  cases reception with
  | goesOn unended verdict =>
    rw [ending] at unended
    contradiction
  | ends _ ended told =>
    cases Option.some.inj (ending.symm.trans ended)
    rw [told]
    exact becomeCloses (r := c.run.named d f) wasOpen given _
  | fails malformed => exact absurd malformed json

end

end Core

end ModelServing.Session
