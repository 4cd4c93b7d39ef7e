import ModelServing.Proofs.Log
import ModelServing.Proofs.Session.Operation

/-! Gates and events tell the same story. A run that has closed told its end in exactly one event, the
last one, and its gate gives that end; a run that gave way before it closed told no end and its
gate gives the reset. Nothing is said of how long a run stays open. -/
namespace ModelServing.Session

theorem terminalOfOutcome {last : Event} {outcome} (told : last.outcome? = some outcome) :
    last.isTerminal = true := by
  cases last with
  | result r => simp [Event.outcome?] at told
  | completed | failed | cancelled => rfl

theorem noTerminalResult (results : List Reply) :
    (results.map Event.result).filter Event.isTerminal = [] := by
  simp [List.filter_map, Function.comp_def, Event.isTerminal]

inductive Run.Account (r : Run) (unclosed : Option Outcome) : List Event → Prop where
  | running (results : List Reply) (phase : r.phase ≠ .closed) (gate : r.gate.outcome = unclosed)
      (cancelled : r.cancelled = false) : Account r unclosed (results.map .result)
  | ended (results : List Reply) {last outcome} (phase : r.phase = .closed)
      (told : last.outcome? = some outcome) (gate : r.gate.outcome = some outcome)
      (cancelled : r.cancelled = decide (last = .cancelled)) :
      Account r unclosed (results.map .result ++ [last])

namespace Run

theorem Account.quiet {r r' : Run} {unclosed told} (account : r.Account unclosed told)
    (quiet : r.Quiet r') : r'.Account unclosed told := by
  cases account with
  | running results phase gate cancelled =>
    exact .running results (fun h => phase (quiet.phase.mp h)) (by rw [quiet.gate, gate])
      (by rw [quiet.cancelled, cancelled])
  | ended results phase ends gate cancelled =>
    exact .ended results (quiet.phase.mpr phase) ends (by rw [quiet.gate, gate])
      (by rw [quiet.cancelled, cancelled])

theorem Account.turn {r r' : Run} {told events} (account : r.Account none told)
    (turn : r.Turn r' events) : r'.Account none (told ++ events) := by
  cases turn with
  | goesOn more quiet heard =>
    cases account with
    | running results phase gate cancelled =>
      rw [← List.map_append]
      exact (Account.running (results ++ more) phase gate cancelled).quiet quiet
    | ended results phase ends gate cancelled =>
      rw [heard phase, List.map_nil, List.append_nil]
      exact (Account.ended results phase ends gate cancelled).quiet quiet
  | closes more wasOpen closed ends gate cancelled =>
    cases account with
    | running results phase unreleased uncancelled =>
      rw [← List.append_assoc, ← List.map_append]
      refine .ended (results ++ more) closed ends ?_ ?_
      · rw [gate, Gate.outcome_release, unreleased, Option.getD_none]
      · rw [cancelled, uncancelled, Bool.false_or]
    | ended results phase _ _ _ => exact absurd phase wasOpen

theorem Account.superseded {r : Run} {told} (account : r.Account none told) :
    r.superseded.Account (some .reset) told := by
  cases account with
  | running results phase gate cancelled =>
    refine .running results phase ?_ cancelled
    simp only [Run.superseded, Gate.outcome_release, gate, Option.getD_none]
  | ended results phase ends gate cancelled =>
    refine .ended results phase ends ?_ cancelled
    simp only [Run.superseded, Gate.outcome_release, gate, Option.getD_some]

theorem Account.released {r : Run} {unclosed told} (account : r.Account unclosed told) :
    r.gate.isReleased = true ↔ r.phase = .closed ∨ unclosed.isSome = true := by
  cases account with
  | running results phase gate cancelled => simp [Gate.isReleased, gate, phase]
  | ended results phase ends gate cancelled => simp [Gate.isReleased, gate, phase]

theorem Account.ends {r : Run} {unclosed told} (account : r.Account unclosed told) :
    (r.phase = .closed →
      ∃ last, told.filter Event.isTerminal = [last] ∧ r.gate.outcome = last.outcome?) ∧
    (r.phase ≠ .closed → told.filter Event.isTerminal = [] ∧ r.gate.outcome = unclosed) := by
  cases account with
  | running results phase gate cancelled =>
    exact ⟨fun h => absurd h phase, fun _ => ⟨noTerminalResult results, gate⟩⟩
  | @ended results last outcome phase ends gate cancelled =>
    refine ⟨fun _ => ⟨last, ?_, by rw [gate, ends]⟩, fun h => absurd phase h⟩
    rw [List.filter_append, noTerminalResult, List.nil_append]
    simp [terminalOfOutcome ends]

end Run

namespace Core

structure Accounts (c : Core) (queued : List (Nat × Event)) : Prop where
  current : c.run.Account none (entriesOf queued c.generation)
  past : ∀ generation (r : Run), c.past[generation]? = some r →
    r.Account (some .reset) (entriesOf queued generation)
  known : ∀ e ∈ queued, e.1 ≤ c.generation

theorem accountsNew : new.Accounts [] where
  current := .running [] (by decide) rfl rfl
  past := by simp [new]
  known := by simp

theorem Accounts.become {c : Core} {queued} (accounts : c.Accounts queued) {r events}
    (turn : c.run.Turn r events) :
    (c.become r events).Accounts (queued ++ events.map (c.generation, ·)) where
  current := by
    change r.Account none (entriesOf (queued ++ events.map (c.generation, ·)) c.generation)
    rw [entriesOfAppend, entriesOfOwn]
    exact accounts.current.turn turn
  past generation old found := by
    have earlier : generation < c.generation := (List.getElem?_eq_some_iff.mp found).1
    rw [entriesOfAppend, entriesOfOther (by omega), List.append_nil]
    exact accounts.past generation old found
  known e member := by
    rcases List.mem_append.mp member with before | new
    · exact accounts.known e before
    · obtain ⟨event, _, rfl⟩ := List.mem_map.mp new
      exact Nat.le_refl _

theorem Accounts.modify {c : Core} {queued} (accounts : c.Accounts queued) (n : Nat) {f : Run → Run}
    (quiet : ∀ r : Run, r.Quiet (f r)) :
    ({ c with past := c.past.modify n f } : Core).Accounts queued := by
  have same : (c.past.modify n f).length = c.past.length := List.length_modify _ _ _
  refine ⟨?_, ?_, ?_⟩
  · simpa only [generation, same] using accounts.current
  · intro generation r found
    rw [List.getElem?_modify] at found
    obtain ⟨old, before, rfl⟩ := Option.map_eq_some_iff.mp found
    have account := accounts.past generation old before
    split
    · exact account.quiet (quiet old)
    · exact account
  · simpa only [generation, same] using accounts.known

theorem Accounts.reset {c : Core} {queued} (accounts : c.Accounts queued) :
    c.reset.Accounts queued := by
  have next := c.resetGeneration
  refine ⟨?_, ?_, ?_⟩
  · rw [next, entriesOfLater accounts.known (Nat.lt_succ_self _)]
    exact .running [] (by simp [Core.reset, Run.idle]) rfl rfl
  · intro generation r found
    rcases Nat.lt_trichotomy generation c.past.length with earlier | same | later
    · rw [Core.reset, List.getElem?_append_left earlier] at found
      exact accounts.past generation r found
    · subst same
      rw [Core.reset, List.getElem?_concat_length] at found
      cases Option.some.inj found
      exact accounts.current.superseded
    · have length := (List.getElem?_eq_some_iff.mp found).1
      simp only [Core.reset, List.length_append, List.length_singleton] at length
      omega
  · intro e member
    have := accounts.known e member
    omega

theorem Accounts.turn {c c' : Core} {queued} (accounts : c.Accounts queued) (turn : c.Turn c') :
    c'.Accounts (queued ++ c'.events.drop c.events.length) := by
  cases turn with
  | @current r events turn =>
    have queue : (c.become r events).events = c.events ++ events.map (c.generation, ·) := rfl
    rw [queue, List.drop_left]
    exact accounts.become turn
  | @past n f quiet =>
    rw [List.drop_length, List.append_nil]
    exact accounts.modify n quiet
  | reset =>
    change c.reset.Accounts (queued ++ c.events.drop c.events.length)
    rw [List.drop_length, List.append_nil]
    exact accounts.reset

-- Nobody reads here, so the queue itself holds all events that were ever queued.
theorem accountsPerformed (operations : List Operation) :
    (new.performAll operations).Accounts (new.performAll operations).events := by
  unfold performAll
  apply List.foldlRecOn (motive := fun c : Core => c.Accounts c.events)
  · exact accountsNew
  intro c accounts operation _
  have turn := performTurn c operation
  have accounts' := accounts.turn turn
  rwa [List.prefix_iff_eq_append.mp turn.queues] at accounts'

theorem Accounts.run? {c : Core} {queued} (accounts : c.Accounts queued) {generation r}
    (found : c.run? generation = some r) :
    r.Account (if generation = c.generation then none else some .reset)
      (entriesOf queued generation) := by
  unfold Core.run? at found
  split at found
  · rename_i same
    cases Option.some.inj found
    rw [same, if_pos rfl]
    exact accounts.current
  · rename_i different
    rw [if_neg different]
    exact accounts.past generation r found

theorem Accounts.pastReleased {c : Core} {queued} (accounts : c.Accounts queued) {generation}
    (earlier : generation < c.generation) : (c.gate generation).isReleased = true := by
  have found : c.past[generation]? = some c.past[generation] := List.getElem?_eq_getElem earlier
  have account := accounts.past generation _ found
  simp only [gate, Core.run?, if_neg (Nat.ne_of_lt earlier), found, Option.map_some,
    Option.getD_some]
  exact account.released.mpr (.inr rfl)

theorem gatesMatchEvents (operations : List Operation) :
    let c := new.performAll operations
    (c.run.gate.isReleased = true ↔ c.run.phase = .closed) ∧
    (∀ generation < c.generation, (c.gate generation).isReleased = true) ∧
    ∀ generation r, c.run? generation = some r →
      let ends := (entriesOf c.events generation).filter Event.isTerminal
      (r.phase = .closed → ∃ last, ends = [last] ∧ r.gate.outcome = last.outcome?) ∧
      (r.phase ≠ .closed → ends = [] ∧
        r.gate.outcome = if generation = c.generation then none else some .reset) := by
  intro c
  have accounts : c.Accounts c.events := accountsPerformed operations
  refine ⟨?_, fun generation => accounts.pastReleased, ?_⟩
  · have released := accounts.current.released
    simpa using released
  · intro generation r found
    exact (accounts.run? found).ends

end Core

end ModelServing.Session
