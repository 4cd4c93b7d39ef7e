import ModelServing.Backoff
import Mathlib.Data.List.Induction
import Mathlib.Tactic.Ring

/-! The pauses in closed form. Doubling that is cut off at the ceiling each time comes to one power of two
that is cut off once, and what a backoff is depends on how many pauses it has given since it last began. -/
namespace ModelServing

namespace Backoff

inductive Call where
  | next
  | current
  | reset
  deriving DecidableEq

def answer (b : Backoff) : Call → Option Duration
  | .next => some b.next.1
  | .current => some b.current
  | .reset => none

def after (b : Backoff) : Call → Backoff
  | .next => b.next.2
  | .current => b
  | .reset => b.reset

def run (b : Backoff) (calls : List Call) : Backoff := calls.foldl after b

def delays (b : Backoff) : List Call → List Duration
  | [] => []
  | .next :: rest => b.next.1 :: delays b.next.2 rest
  | call :: rest => delays (b.after call) rest

def given (calls : List Call) : Nat := (calls.reverse.takeWhile (· ≠ .reset)).count .next

theorem givenAfter (calls : List Call) (call : Call) :
    given (calls ++ [call]) = match call with
      | .next => given calls + 1
      | .current => given calls
      | .reset => 0 := by
  cases call <;> simp [given]

/-- The pause behind so many others, in nanoseconds: no sum or product in it is cut off. -/
def interval (initial ceiling : Duration) (every n : Nat) : Nat :=
  min ceiling.nanos (initial.nanos * 2 ^ (n / max 1 every))

section
variable {initial ceiling : Duration} {every : Nat}

theorem quotientNext (n k : Nat) :
    (n + 1) / max 1 k = n / max 1 k + if (n + 1) % max 1 k = 0 then 1 else 0 := by
  rw [Nat.succ_div]
  simp [Nat.dvd_iff_mod_eq_zero]

theorem intervalNext (n : Nat) :
    interval initial ceiling every (n + 1) =
      if (n + 1) % max 1 every = 0 then min (2 * interval initial ceiling every n) ceiling.nanos
      else interval initial ceiling every n := by
  unfold interval
  rw [quotientNext]
  split
  · have doubled : initial.nanos * 2 ^ (n / max 1 every + 1) =
        2 * (initial.nanos * 2 ^ (n / max 1 every)) := by ring
    rw [doubled]
    omega
  · rfl

structure Made (initial ceiling : Duration) (every : Nat) (b : Backoff) : Prop where
  begins : b.initial = initial
  ends : b.ceiling = ceiling
  doubles : b.doublingEvery = max 1 every
  within : b.current.nanos ≤ ceiling.nanos

theorem madeNew : Made initial ceiling every (new initial ceiling every) where
  begins := rfl
  ends := rfl
  doubles := Nat.max_comm every 1
  within := by
    rw [new, Duration.minNanos]
    exact Nat.min_le_right _ _

variable {n : Nat} {b : Backoff}

theorem Made.reset (made : Made initial ceiling every b) : b.reset = new initial ceiling every := by
  simp [Backoff.reset, new, made.begins, made.ends, made.doubles, Nat.max_comm]

theorem Made.next (made : Made initial ceiling every b) : Made initial ceiling every b.next.2 where
  begins := made.begins
  ends := made.ends
  doubles := made.doubles
  within := by
    simp only [Backoff.next, made.ends]
    split
    · rw [Duration.minNanos]
      exact Nat.min_le_right _ _
    · exact made.within

theorem Made.after (made : Made initial ceiling every b) (call : Call) :
    Made initial ceiling every (b.after call) := by
  cases call with
  | next => exact made.next
  | current => exact made
  | reset =>
    rw [Backoff.after, made.reset]
    exact madeNew

theorem Made.run (made : Made initial ceiling every b) (calls : List Call) :
    Made initial ceiling every (b.run calls) := by
  induction calls generalizing b with
  | nil => exact made
  | cons call rest ih => exact ih (made.after call)

theorem Made.delaysBounded (made : Made initial ceiling every b) (calls : List Call) :
    ∀ d ∈ b.delays calls, d.nanos ≤ ceiling.nanos := by
  induction calls generalizing b with
  | nil => nofun
  | cons call rest ih =>
    cases call with
    | next => exact List.forall_mem_cons.mpr ⟨made.within, ih made.next⟩
    | current => exact ih made
    | reset => exact ih (made.after .reset)

theorem Made.nextGrows (made : Made initial ceiling every b) :
    b.current.nanos ≤ b.next.2.current.nanos := by
  simp only [Backoff.next]
  split
  · rw [Duration.minNanos, made.ends]
    exact Nat.le_min.mpr ⟨b.current.doubleGrows, made.within⟩
  · exact Nat.le_refl _

theorem Made.delaysGrow {calls : List Call} (unreset : .reset ∉ calls)
    (made : Made initial ceiling every b) :
    (b.delays calls).Pairwise (fun d e => d.nanos ≤ e.nanos) ∧
      ∀ d ∈ b.delays calls, b.current.nanos ≤ d.nanos := by
  induction calls generalizing b with
  | nil => exact ⟨.nil, nofun⟩
  | cons call rest ih =>
    have later : .reset ∉ rest := fun member => unreset (List.mem_cons_of_mem call member)
    cases call with
    | next =>
      obtain ⟨grow, above⟩ := ih later made.next
      have further : ∀ d ∈ b.next.2.delays rest, b.current.nanos ≤ d.nanos :=
        fun d member => made.nextGrows.trans (above d member)
      exact ⟨.cons further grow, List.forall_mem_cons.mpr ⟨Nat.le_refl _, further⟩⟩
    | current => exact ih later made
    | reset => exact absurd List.mem_cons_self unreset

structure Stands (initial ceiling : Duration) (every n : Nat) (b : Backoff) : Prop
    extends Made initial ceiling every b where
  lasts : b.current.nanos = interval initial ceiling every n
  counts : b.waits = n

theorem standsNew : Stands initial ceiling every 0 (new initial ceiling every) where
  toMade := madeNew
  lasts := by simp [new, Duration.minNanos, interval, Nat.min_comm]
  counts := rfl

theorem Stands.next (few : n + 1 < UInt32.size) (stands : Stands initial ceiling every n b) :
    Stands initial ceiling every (n + 1) b.next.2 := by
  have counts : (b.waits + 1 : Fin UInt32.size).val = n + 1 := by
    rw [Fin.val_add, stands.counts]
    exact Nat.mod_eq_of_lt few
  refine ⟨stands.toMade.next, ?_, counts⟩
  have most := ceiling.fits
  simp only [Backoff.next, stands.doubles, stands.ends, counts]
  rw [intervalNext]
  split
  · rw [Duration.minNanos, Duration.doubleNanos, stands.lasts]
    omega
  · exact stands.lasts

theorem standsRun {calls : List Call} (few : given calls < UInt32.size) :
    Stands initial ceiling every (given calls) ((new initial ceiling every).run calls) := by
  induction calls using List.reverseRecOn with
  | nil => exact standsNew
  | append_singleton calls call ih =>
    rw [givenAfter] at few ⊢
    rw [Backoff.run, List.foldl_append]
    cases call with
    | next => exact (ih (Nat.lt_of_succ_lt few)).next few
    | current => exact ih few
    | reset =>
      change Stands initial ceiling every 0 (((new initial ceiling every).run calls).reset)
      rw [(madeNew.run calls).reset]
      exact standsNew

end

theorem pausesInClosedForm (initial ceiling : Duration) (every : Nat) {calls : List Call}
    (few : given calls < UInt32.size) :
    let fresh := new initial ceiling every
    let b := fresh.run calls
    let pause : Duration := ⟨min ceiling.nanos (initial.nanos * 2 ^ (given calls / max 1 every)),
      (Nat.min_le_left _ _).trans ceiling.fits⟩
    b.waits = given calls ∧
    b.answer .current = some pause ∧
    b.answer .next = some pause ∧
    b.reset = fresh ∧
    (∀ more, ∀ d ∈ b.delays more, d.nanos ≤ ceiling.nanos) ∧
    ∀ more, Call.reset ∉ more → (b.delays more).Pairwise fun d e => d.nanos ≤ e.nanos := by
  intro fresh b pause
  have stands : Stands initial ceiling every (given calls) b := standsRun few
  have current : b.current = pause := Duration.ext stands.lasts
  exact ⟨stands.counts, congrArg some current, congrArg some current, stands.reset,
    stands.delaysBounded, fun more unreset => (stands.delaysGrow unreset).1⟩

theorem longestPauses :
    let calls : List Call := [.next, .reset, .next, .current, .next]
    let fresh := new (.ofSeconds 9223372036854775808) .longest 0
    let b := fresh.run calls
    given calls < UInt32.size ∧
    b.waits = 2 ∧
    b.answer .current = some .longest ∧
    b.answer .next = some .longest ∧
    b.reset = fresh ∧
    (∀ d ∈ b.delays [.next, .reset, .next], d.nanos ≤ Duration.limit) ∧
    (b.delays [.next, .current, .next]).Pairwise fun d e => d.nanos ≤ e.nanos := by
  intro calls fresh b
  have few : given calls < UInt32.size := by decide
  obtain ⟨waits, current, next, restarts, bounded, grow⟩ :=
    pausesInClosedForm (.ofSeconds 9223372036854775808) .longest 0 few
  have cut : min Duration.limit ((Duration.ofSeconds 9223372036854775808).nanos * 2 ^ (2 / max 1 0)) =
      Duration.limit := by decide
  have longest : (⟨_, (Nat.min_le_left _ _).trans Duration.longest.fits⟩ : Duration) = .longest :=
    Duration.ext cut
  exact ⟨few, Fin.ext waits, current.trans (congrArg some longest), next.trans (congrArg some longest),
    restarts, bounded _, grow _ (by decide)⟩

example : (default.delays (List.replicate 12 .next)).map Duration.seconds =
    [1, 1, 1, 2, 2, 2, 4, 4, 4, 5, 5, 5] := by decide

end Backoff

end ModelServing
