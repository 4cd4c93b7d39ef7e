import ModelServing.Proofs.Session.Intake

/-! Runs by their generation: which one a call can reach, and what becomes of all others. -/
namespace ModelServing.Session

namespace Core

structure KeepsOthers (c : Core) (own : Nat) (c' : Core) : Prop where
  generation : c'.generation = c.generation
  others : ∀ other, other ≠ own → c'.run? other = c.run? other

theorem KeepsOthers.refl (c : Core) (generation : Nat) : c.KeepsOthers generation c :=
  ⟨rfl, fun _ _ => rfl⟩

theorem KeepsOthers.trans {c c' c'' : Core} {generation : Nat} (first : c.KeepsOthers generation c')
    (second : c'.KeepsOthers generation c'') : c.KeepsOthers generation c'' :=
  ⟨second.generation.trans first.generation,
    fun other different => (second.others other different).trans (first.others other different)⟩

theorem runCurrent (c : Core) : c.run? c.generation = some c.run := if_pos rfl

theorem liveRun {c : Core} {generation : Nat} {r : Run} (found : c.run? generation = some r) :
    c.isLive generation = (generation == c.generation && r.isOpen) := by
  by_cases same : generation = c.generation
  · subst same
    rw [runCurrent] at found
    cases Option.some.inj found
    simp [isLive, Run.isOpen]
  · rw [isLive, beq_false_of_ne same, Bool.false_and, Bool.false_and, Bool.false_and]

theorem liveCurrent (c : Core) : c.isLive c.generation = c.run.isOpen := by
  rw [liveRun c.runCurrent, beq_self_eq_true, Bool.true_and]

theorem liveIs {c : Core} {generation : Nat} (live : c.isLive generation = true) :
    generation = c.generation := by
  simp only [isLive, Bool.and_eq_true, beq_iff_eq] at live
  exact live.1.1

theorem liveElsewhere {c : Core} {generation : Nat} (different : generation ≠ c.generation) :
    c.isLive generation = false := by
  simp [isLive, different]

theorem KeepsOthers.liveOthers {c c' : Core} {generation other : Nat}
    (keepsOthers : c.KeepsOthers generation c') (different : other ≠ generation) : c'.isLive other = c.isLive other := by
  by_cases same : other = c.generation
  · have run := keepsOthers.others other different
    rw [same, ← keepsOthers.generation, runCurrent, keepsOthers.generation, runCurrent] at run
    rw [same, ← keepsOthers.generation, liveCurrent, Option.some.inj run, keepsOthers.generation,
      liveCurrent]
  · rw [liveElsewhere same, liveElsewhere (by rwa [keepsOthers.generation])]

theorem keepsOthersBecome (c : Core) (r : Run) (events : List Event) :
    c.KeepsOthers c.generation (c.become r events) := by
  refine ⟨rfl, fun other different => ?_⟩
  have elsewhere : other ≠ (c.become r events).generation := different
  rw [run?, run?, if_neg different, if_neg elsewhere]
  rfl

theorem modifyGeneration (c : Core) (generation : Nat) (f : Run → Run) :
    (c.modify generation f).generation = c.generation := by
  unfold modify
  split
  · rfl
  · exact List.length_modify _ _ _

theorem modifyRun? (c : Core) (generation : Nat) (f : Run → Run) (other : Nat) :
    (c.modify generation f).run? other =
      if generation = other then (c.run? other).map f else c.run? other := by
  rw [run?, run?, modifyGeneration, modify]
  by_cases current : other = c.generation
  · subst current
    by_cases own : generation = c.generation <;> simp [own]
  · by_cases same : generation = c.generation
    · have unlike : generation ≠ other := fun h => current (h.symm.trans same)
      rw [if_pos same, if_neg current, if_neg current, if_neg unlike]
    · rw [if_neg same, if_neg current, if_neg current, List.getElem?_modify]
      split <;> simp

theorem keepsOthersModify (c : Core) (generation : Nat) (f : Run → Run) :
    c.KeepsOthers generation (c.modify generation f) :=
  ⟨c.modifyGeneration generation f, fun other different => by
    rw [modifyRun?, if_neg different.symm]⟩

theorem modifyLive (c : Core) (generation : Nat) {f : Run → Run}
    (same : ∀ r : Run, (f r).isOpen = r.isOpen) (other : Nat) :
    (c.modify generation f).isLive other = c.isLive other := by
  by_cases current : other = c.generation
  · have put := c.modifyRun? generation f other
    have whole := c.modifyGeneration generation f
    subst current
    rw [runCurrent] at put
    split at put
    · rw [liveRun put, liveRun c.runCurrent, whole, same]
    · rw [liveRun put, liveRun c.runCurrent, whole]
  · rw [liveElsewhere current, liveElsewhere (by rwa [modifyGeneration])]

theorem foundBound {c : Core} {generation : Nat} {r : Run}
    (found : c.run? generation = some r) : generation ≤ c.generation := by
  by_cases current : generation = c.generation
  · exact Nat.le_of_eq current
  · rw [run?, if_neg current] at found
    exact Nat.le_of_lt (List.getElem?_eq_some_iff.mp found).1

theorem resetRun? {c : Core} {generation : Nat} {r : Run}
    (found : c.run? generation = some r) :
    c.reset.run? generation = some (if generation = c.generation then r.superseded else r) := by
  have later : generation ≠ c.reset.generation := by
    have bound := foundBound found
    rw [c.resetGeneration]
    omega
  rw [run?, if_neg later, reset]
  by_cases current : generation = c.generation
  · subst current
    rw [c.runCurrent] at found
    cases Option.some.inj found
    rw [if_pos rfl, generation, List.getElem?_concat_length]
  · rw [run?, if_neg current] at found
    rw [if_neg current, List.getElem?_append_left (List.getElem?_eq_some_iff.mp found).1, found]

end Core

end ModelServing.Session
