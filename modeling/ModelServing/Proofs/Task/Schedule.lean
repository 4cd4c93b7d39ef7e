import ModelServing.Task.Basic

/-! When a task is polled: the pauses of a poll are a function of what the fetches before them have
shown, and of nothing that was waited for earlier. -/
namespace ModelServing

namespace Poll

def isFinal : Except Error Reply → Bool
  | .ok r => r.taskStatus.isTerminal
  | .error e => !e.isTransient

def isUnfinished : Except Error Reply → Bool
  | .ok r => !r.taskStatus.isTerminal
  | .error _ => false

def used (outcome : Nat → Except Error Reply) (n : Nat) : Nat :=
  (List.range n).countP fun k => isUnfinished (outcome k)

theorem usedBound (outcome : Nat → Except Error Reply) (n : Nat) : used outcome n ≤ n := by
  have bound := List.countP_le_length (p := fun k => isUnfinished (outcome k)) (l := List.range n)
  rwa [List.length_range] at bound

theorem usedNext (outcome : Nat → Except Error Reply) (n : Nat) :
    used outcome (n + 1) = used outcome n + if isUnfinished (outcome n) then 1 else 0 := by
  rw [used, List.range_succ, List.countP_append, List.countP_singleton]
  rfl

theorem usedFirst (outcome : Nat → Except Error Reply) (n : Nat) :
    used outcome (n + 1) =
      used (fun k => outcome (k + 1)) n + if isUnfinished (outcome 0) then 1 else 0 := by
  rw [used, List.range_succ_eq_map, List.countP_cons, List.countP_map]
  rfl

theorem judgeSteps (b : Backoff) (outcome : Except Error Reply) :
    (isFinal outcome = true ∧ judge b outcome = .done outcome) ∨
    (isFinal outcome = false ∧
      judge b outcome = .pause b.current (b.use (if isUnfinished outcome then 1 else 0))) := by
  cases outcome with
  | ok r =>
    cases terminal : r.taskStatus.isTerminal with
    | true => exact .inl ⟨terminal, by simp [judge, terminal]⟩
    | false =>
      refine .inr ⟨terminal, ?_⟩
      simp [judge, terminal, isUnfinished, Backoff.use, Backoff.next]
  | error e =>
    cases transient : e.isTransient with
    | true => exact .inr ⟨by simp [isFinal, transient], by simp [judge, transient, isUnfinished,
        Backoff.use]⟩
    | false => exact .inl ⟨by simp [isFinal, transient], by simp [judge, transient]⟩

theorem watchKeeps {σ : Type} (Holds : σ → Prop) {fetch : Nat → σ → Nat × Except Error Reply × σ}
    {pause : Duration → Nat → σ → Nat × σ} (fetched : ∀ now s, Holds s → Holds (fetch now s).2.2)
    (paused : ∀ length now s, Holds s → Holds (pause length now s).2) (limit : Option Nat)
    (fetches now : Nat) (b : Backoff) {s : σ} (holds : Holds s) :
    Holds (watch fetch pause limit fetches now b s).2 := by
  induction fetches generalizing now b s with
  | zero => exact holds
  | succ fetches ih =>
    have after := fetched now s holds
    simp only [watch, once]
    generalize fetch now s = answer at after
    obtain ⟨taken, outcome, s'⟩ := answer
    dsimp only at after ⊢
    cases late limit (now + taken) with
    | some time => exact after
    | none =>
      dsimp only
      cases judge b outcome with
      | done result => exact after
      | pause delay next =>
        have rested := paused delay (now + taken) s' after
        dsimp only
        cases late limit (now + taken + (pause delay (now + taken) s').1) with
        | some time => exact rested
        | none => exact ih _ _ rested

end Poll

namespace Backoff

theorem useAdd (b : Backoff) (m n : Nat) : b.use (m + n) = (b.use m).use n := by
  induction m generalizing b with
  | zero => rw [Nat.zero_add, use]
  | succ m ih =>
    rw [Nat.succ_add]
    exact ih b.next.2

theorem waitsUse (b : Backoff) (n : Nat) : ((b.use n).waits : Nat) = (b.waits + n) % UInt32.size := by
  induction n generalizing b with
  | zero => exact (Nat.mod_eq_of_lt b.waits.isLt).symm
  | succ n ih =>
    have counted : (b.next.2.waits : Nat) = (b.waits + 1) % UInt32.size := Fin.val_add b.waits 1
    rw [use, ih, counted, Nat.mod_add_mod, Nat.add_assoc, Nat.add_comm 1 n]

end Backoff

namespace Tasks

inductive Asked where
  | submit (r : Request)
  | fetch (taskId : String) (as : Credentials)
  | pause (length : Duration)
  deriving DecidableEq

structure Record where
  answered : Nat
  asked : List Asked
  deriving DecidableEq

def scripted (script : Nat → Except Error Reply) (takes : Nat → Nat) (lasts : Duration → Nat) :
    Backend Record where
  submit r _ past :=
    (takes past.answered, script past.answered, ⟨past.answered + 1, past.asked ++ [.submit r]⟩)
  fetch taskId as _ past :=
    (takes past.answered, script past.answered, ⟨past.answered + 1, past.asked ++ [.fetch taskId as]⟩)
  pause length _ past := (lasts length, { past with asked := past.asked ++ [.pause length] })

def rounds (taskId : String) (as : Credentials) (pause : Nat → Duration) (n : Nat) : List Asked :=
  (List.range n).flatMap fun k => [.fetch taskId as, .pause (pause k)]

theorem roundsFirst (taskId : String) (as : Credentials) (pause : Nat → Duration) (n : Nat) :
    rounds taskId as pause (n + 1) = .fetch taskId as :: .pause (pause 0) ::
      rounds taskId as (fun k => pause (k + 1)) n := by
  rw [rounds, List.range_succ_eq_map, List.flatMap_cons, List.flatMap_map]
  rfl

structure Scheduled (taskId : String) (as : Credentials) (outcome : Nat → Except Error Reply)
    (pause : Nat → Duration) (fetches : Nat) (past : Record)
    (polled : Poll.Watched Reply × Record) : Prop where
  ends : ∀ n < fetches, (∀ k < n, Poll.isFinal (outcome k) = false) →
    Poll.isFinal (outcome n) = true → polled.1.result? = some (outcome n) ∧
      polled.2 = ⟨past.answered + (n + 1),
        past.asked ++ (rounds taskId as pause n ++ [.fetch taskId as])⟩
  goesOn : (∀ k < fetches, Poll.isFinal (outcome k) = false) → polled.1.result? = none ∧
    polled.2 = ⟨past.answered + fetches, past.asked ++ rounds taskId as pause fetches⟩

section
variable {taskId : String} {as : Credentials} {outcome : Nat → Except Error Reply}
  {pause : Nat → Duration} {fetches : Nat} {past : Record} {polled : Poll.Watched Reply × Record}

theorem Scheduled.first {time : Nat} (final : Poll.isFinal (outcome 0) = true) :
    Scheduled taskId as outcome pause (fetches + 1) past (.done time (outcome 0),
      ⟨past.answered + 1, past.asked ++ [.fetch taskId as]⟩) where
  ends n _ others _ := by
    cases n with
    | zero => exact ⟨rfl, rfl⟩
    | succ n =>
      rw [others 0 (Nat.succ_pos n)] at final
      contradiction
  goesOn others := by
    rw [others 0 (Nat.succ_pos fetches)] at final
    contradiction

theorem Scheduled.later (other : Poll.isFinal (outcome 0) = false)
    (rest : Scheduled taskId as (fun k => outcome (k + 1)) (fun k => pause (k + 1)) fetches
      ⟨past.answered + 1, past.asked ++ [.fetch taskId as] ++ [.pause (pause 0)]⟩ polled) :
    Scheduled taskId as outcome pause (fetches + 1) past polled where
  ends n within others final := by
    cases n with
    | zero =>
      rw [other] at final
      contradiction
    | succ n =>
      obtain ⟨result, record⟩ := rest.ends n (Nat.lt_of_succ_lt_succ within)
        (fun k earlier => others (k + 1) (Nat.succ_lt_succ earlier)) final
      refine ⟨result, ?_⟩
      rw [record, roundsFirst]
      simp only [List.append_assoc, List.cons_append, List.nil_append, Record.mk.injEq, and_true]
      omega
  goesOn others := by
    obtain ⟨result, record⟩ := rest.goesOn fun k earlier => others (k + 1) (Nat.succ_lt_succ earlier)
    refine ⟨result, ?_⟩
    rw [record, roundsFirst]
    simp only [List.append_assoc, List.cons_append, List.nil_append, Record.mk.injEq, and_true]
    omega

end

theorem watchScheduled {script : Nat → Except Error Reply} (takes : Nat → Nat)
    (lasts : Duration → Nat) (taskId : String) (as : Credentials) (fetches now : Nat) (b : Backoff)
    (past : Record) {outcome : Nat → Except Error Reply}
    (answers : ∀ k, script (past.answered + k) = outcome k) :
    let service := scripted script takes lasts
    Scheduled taskId as outcome (fun k => (b.use (Poll.used outcome k)).next.1) fetches past
      (Poll.watch (service.fetch taskId as) service.pause none fetches now b past) := by
  intro service
  induction fetches generalizing now b past outcome with
  | zero =>
    refine ⟨fun n within => absurd within (Nat.not_lt_zero n), fun _ => ⟨rfl, ?_⟩⟩
    rw [rounds, List.range_zero, List.flatMap_nil, List.append_nil]
    rfl
  | succ fetches ih =>
    have first := answers 0
    rw [Nat.add_zero] at first
    simp only [Poll.watch, Poll.once, service, scripted, Poll.late, Option.filter_none, first]
    rcases Poll.judgeSteps b (outcome 0) with ⟨final, verdict⟩ | ⟨other, verdict⟩
    · simp only [verdict]
      exact .first final
    · simp only [verdict]
      refine .later other ?_
      -- The rest is polled with what is left of the backoff, so its schedule is this one without its head.
      have schedule : (fun k => (b.use (Poll.used outcome (k + 1))).next.1) = fun k =>
          ((b.use (if Poll.isUnfinished (outcome 0) then 1 else 0)).use
            (Poll.used (fun k => outcome (k + 1)) k)).next.1 := by
        funext k
        rw [Poll.usedFirst, Nat.add_comm, Backoff.useAdd]
      rw [schedule]
      refine ih _ _ _ fun k => ?_
      rw [← answers (k + 1), Nat.add_right_comm, Nat.add_assoc]

theorem untimedPolls {σ : Type} (t : Tasks) (b : Backend σ) (limit : Option Nat) (fetches : Nat)
    (taskId : String) (as : Credentials) (now : Nat) (s : σ) :
    t.waitAs b limit fetches taskId as none now s =
      Poll.watch (b.fetch taskId as) b.pause limit fetches now t.pollBackoff s := by
  rw [waitAs, Option.map_none, Option.merge_none_right]
  split
  · rename_i expired
    exact expired.symm
  · rfl

/-- The service may have answered others before, earlier waits of the same `t` among them: what
comes of this one depends on the rest of the script only. -/
theorem waitFollowsSchedule (t : Tasks) (taskId : String) (script : Nat → Except Error Reply)
    (takes : Nat → Nat) (lasts : Duration → Nat) (fetches now : Nat) (past : Record) :
    let outcome := fun k => script (past.answered + k)
    let backoff := fun k => t.backoff.reset.use (Poll.used outcome k)
    let pause := fun k => (backoff k).next.1
    Scheduled taskId t.credentials outcome pause fetches past
      (t.waitOn (scripted script takes lasts) none fetches taskId none now past) ∧
    (∀ k e, outcome k = .error e → pause (k + 1) = pause k) ∧
    ∀ k < UInt32.size, (backoff k).waits = Poll.used outcome k := by
  intro outcome backoff pause
  refine ⟨?_, fun k e failed => ?_, fun k few => ?_⟩
  · rw [waitOn, untimedPolls]
    exact watchScheduled takes lasts taskId t.credentials fetches now t.pollBackoff past fun _ => rfl
  · have same : Poll.used outcome (k + 1) = Poll.used outcome k := by
      rw [Poll.usedNext, failed]
      rfl
    simp only [pause, backoff, same]
  · have within := Nat.lt_of_le_of_lt (Poll.usedBound outcome k) few
    rw [Backoff.waitsUse]
    exact (congrArg (· % UInt32.size) (Nat.zero_add _)).trans (Nat.mod_eq_of_lt within)

end Tasks

end ModelServing
