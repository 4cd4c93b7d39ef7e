import ModelServing.TaskStream

/-! What one consumer gets from a connection, up to the first arrival that ends the task: the same
whether it reads item by item or folds the replies as they come. What arrives later is not looked at. -/
namespace ModelServing.TaskStream

namespace Verdict

def ends : Verdict → Bool
  | .skip | .item _ => false
  | .last _ | .finish => true

def items : Verdict → List (Except Error Reply)
  | .skip | .finish => []
  | .item r => [.ok r]
  | .last i => [i]

end Verdict

def itemsIn (arrivals : List Arrival) : List (Except Error Reply) :=
  arrivals.flatMap fun a => (judge a).items

structure EndsAt (before : List Arrival) (a : Arrival) : Prop where
  unended : ∀ x ∈ before, (judge x).ends = false
  ends : (judge a).ends = true

section
variable {before after : List Arrival} {a x : Arrival}

theorem itemsNext (before : List Arrival) (a : Arrival) :
    itemsIn (before ++ [a]) = itemsIn before ++ (judge a).items := by
  rw [itemsIn, List.flatMap_append, List.flatMap_singleton]
  rfl

theorem EndsAt.tail (ends : EndsAt (x :: before) a) : EndsAt before a :=
  ⟨fun y member => ends.unended y (List.mem_cons_of_mem _ member), ends.ends⟩

theorem consumeEnds (ends : EndsAt before a) {reads : Nat} (enough : before.length + 1 < reads) :
    consume reads .reading (before ++ a :: after) =
      ⟨itemsIn (before ++ [a]), some .ended, .ended, after, [.closeNormally "finished"]⟩ := by
  induction before generalizing reads with
  | nil =>
    obtain ⟨reads, rfl⟩ := Nat.exists_eq_add_of_le' enough
    have last := ends.ends
    cases judged : judge a with
    | skip | item r =>
      rw [judged] at last
      contradiction
    -- The end is found by one read more after a last item, and by the same read without one.
    | last i => simp [consume, next, judged, itemsIn, Verdict.items, closing]
    | finish => simp [consume, next, judged, itemsIn, Verdict.items, closing]
  | cons x rest ih =>
    rw [List.length_cons] at enough
    have first := ends.unended x List.mem_cons_self
    have more {reads : Nat} (enough : rest.length + 1 < reads) := ih ends.tail enough
    cases reads with
    | zero => omega
    | succ reads =>
      cases judged : judge x with
      | last i | finish =>
        rw [judged] at first
        contradiction
      | skip =>
        have same : consume (reads + 1) .reading (x :: (rest ++ a :: after)) =
            consume (reads + 1) .reading (rest ++ a :: after) := by
          simp only [consume, next, judged]
        rw [List.cons_append, same, more (by omega)]
        simp [itemsIn, judged, Verdict.items]
      | item r =>
        rw [List.cons_append, consume, next, judged]
        dsimp only
        rw [more (by omega)]
        simp [itemsIn, judged, Verdict.items, closing]

namespace Call
variable {setup : Setup} {c next : Call}

theorem runOver {result : Except Error Reply} (done : c.result = some result)
    (signals : List Signal) : c.run setup signals = (c, []) := by
  induction signals with
  | nil => rfl
  | cons signal rest ih => simp [run, step, done, ih]

theorem stepReads (opened : c.opening = .opened) (unread : c.result = none) (a : Arrival) :
    c.step setup (.arrived a) = c.read a := by
  simp only [step, opened, unread]

theorem runSilent {signal : Signal} (silent : c.step setup signal = (next, []))
    (rest : List Signal) : c.run setup (signal :: rest) = next.run setup rest := by
  simp [run, silent]

theorem foldEnds (setup : Setup) (ends : EndsAt before a) (after : List Arrival)
    (opened : c.opening = .opened) (unread : c.result = none) :
    let ran := c.run setup ((before ++ a :: after).map .arrived)
    ran.1.result = some (c.folded.run (itemsIn (before ++ [a]))) ∧
      ∀ d ∈ ran.2, d = .closeNormally "finished" ∨ d = .giveUp := by
  induction before generalizing c with
  | nil =>
    have last := ends.ends
    rw [List.nil_append, List.map_cons, run, stepReads opened unread, read]
    cases judged : judge a with
    | skip | item r =>
      rw [judged] at last
      contradiction
    | last i =>
      cases i with
      | ok r | error e => simp [finish, runOver, itemsIn, judged, Verdict.items, Fold.run, closing]
    | finish => simp [finish, runOver, itemsIn, judged, Verdict.items, Fold.run, closing]
  | cons x rest ih =>
    have first := ends.unended x List.mem_cons_self
    cases judged : judge x with
    | last i | finish =>
      rw [judged] at first
      contradiction
    | skip =>
      have silent : c.step setup (.arrived x) = (c, []) := by
        rw [stepReads opened unread, read, judged]
      have same : itemsIn (x :: rest ++ [a]) = itemsIn (rest ++ [a]) := by
        simp [itemsIn, judged, Verdict.items]
      rw [List.cons_append, List.map_cons, runSilent silent, same]
      exact ih ends.tail opened unread
    | item r =>
      have silent : c.step setup (.arrived x) = ({ c with folded := c.folded.add r }, []) := by
        rw [stepReads opened unread, read, judged]
      have same : itemsIn (x :: rest ++ [a]) = .ok r :: itemsIn (rest ++ [a]) := by
        simp [itemsIn, judged, Verdict.items]
      rw [List.cons_append, List.map_cons, runSilent silent, same]
      exact ih ends.tail opened unread

end Call

end

end ModelServing.TaskStream
