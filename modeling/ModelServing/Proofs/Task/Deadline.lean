import ModelServing.Proofs.Task.Schedule

/-! Waiting with a timeout is waiting without one, cut at the deadline. What is due at the deadline itself
still happens: the pause is over before the time is. -/
namespace ModelServing

namespace Duration

def InMillis (d : Duration) : Prop := nanosPerMilli ∣ d.nanos

def Whole (d : Duration) : Prop := 0 < d.nanos ∧ d.InMillis

theorem InMillis.millis {d : Duration} (inMillis : d.InMillis) :
    d.millis * nanosPerMilli = d.nanos := by
  obtain ⟨n, same⟩ := inMillis
  simp only [Duration.millis, same, nanosPerMilli]
  omega

theorem Whole.millis {d : Duration} (whole : d.Whole) : 0 < d.millis := by
  have same := whole.2.millis
  have positive := whole.1
  rw [← same] at positive
  exact Nat.pos_of_mul_pos_right positive

theorem Whole.min {a b : Duration} (first : a.Whole) (second : b.Whole) : (a.min b).Whole := by
  unfold Duration.min
  split
  · exact first
  · exact second

theorem Whole.double {d ceiling : Duration} (whole : d.Whole) (most : ceiling.Whole) :
    (d.double.min ceiling).Whole := by
  by_cases within : 2 * d.nanos ≤ limit
  · have twice : d.double.nanos = 2 * d.nanos := ofNanosFits within
    have doubled : d.double.Whole := by
      refine ⟨twice ▸ Nat.mul_pos Nat.two_pos whole.1, ?_⟩
      rw [InMillis, twice]
      exact Nat.dvd_mul_left_of_dvd whole.2 2
    exact doubled.min most
  · have longest : d.double.nanos = limit := Nat.min_eq_right (Nat.le_of_not_le within)
    have same : d.double.min ceiling = ceiling := by
      ext
      rw [minNanos, longest]
      exact Nat.min_eq_right ceiling.fits
    rwa [same]

end Duration

namespace Backoff

structure Whole (b : Backoff) : Prop where
  current : b.current.Whole
  ceiling : b.ceiling.Whole

theorem Whole.next {b : Backoff} (whole : b.Whole) : b.next.2.Whole := by
  refine ⟨?_, whole.ceiling⟩
  simp only [Backoff.next]
  split
  · exact whole.current.double whole.ceiling
  · exact whole.current

theorem Whole.use {b : Backoff} (whole : b.Whole) (n : Nat) : (b.use n).Whole := by
  induction n generalizing b with
  | zero => exact whole
  | succ n ih => exact ih whole.next

end Backoff

def Poll.Watched.time {α : Type} : Watched α → Nat
  | .done time _ | .expired time | .unfinished time => time

namespace Tasks

namespace Asked

def isCall : Asked → Bool
  | .submit _ | .fetch _ _ => true
  | .pause _ => false

def nanos : Asked → Nat
  | .submit _ | .fetch _ _ => 0
  | .pause length => length.nanos

end Asked

abbrev Diary := List (Nat × Asked)

namespace Diary

def answered (d : Diary) : Nat := d.countP fun note => note.2.isCall

def slept (d : Diary) : Nat := d.foldr (fun note total => note.2.nanos + total) 0

def upTo (d : Diary) (time : Nat) : Diary := d.filter fun note => note.1 ≤ time

theorem sleptRound (time : Nat) (taskId : String) (as : Credentials) (length : Duration)
    (later : Diary) : slept ((time, .fetch taskId as) :: (time, .pause length) :: later) =
      length.nanos + slept later :=
  Nat.zero_add _

theorem upToCut {first later : Diary} {time : Nat} (before : ∀ note ∈ first, note.1 ≤ time)
    (after : ∀ note ∈ later, time < note.1) : upTo (first ++ later) time = first := by
  have kept : first.filter (fun note => note.1 ≤ time) = first :=
    List.filter_eq_self.mpr fun note member => decide_eq_true (before note member)
  have gone : later.filter (fun note => note.1 ≤ time) = [] :=
    List.filter_eq_nil_iff.mpr fun note member => by simp [after note member]
  rw [upTo, List.filter_append, kept, gone, List.append_nil]

end Diary

def prompt (script : Nat → Except Error Reply) : Backend Diary where
  submit r now diary := (0, script diary.answered, diary ++ [(now, .submit r)])
  fetch taskId as now diary := (0, script diary.answered, diary ++ [(now, .fetch taskId as)])
  pause length now diary := (length.millis, diary ++ [(now, .pause length)])

def polls (script : Nat → Except Error Reply) (taskId : String) (as : Credentials) :
    Option Nat → Nat → Nat → Backoff → Diary → Poll.Watched Reply × Diary :=
  Poll.watch ((prompt script).fetch taskId as) (prompt script).pause

section
variable {script : Nat → Except Error Reply} {taskId : String} {as : Credentials} {now deadline : Nat}
  {b : Backoff} {diary : Diary}

theorem pollsSteps (script : Nat → Except Error Reply) (taskId : String) (as : Credentials) (now : Nat)
    (b : Backoff) (diary : Diary) :
    let asked : Diary := diary ++ [(now, .fetch taskId as)]
    (∀ limit fetches, (∀ time ∈ limit, now ≤ time) →
      polls script taskId as limit (fetches + 1) now b diary =
        (.done now (script diary.answered), asked)) ∨
    ∃ n, ∀ limit fetches, (∀ time ∈ limit, now ≤ time) →
      polls script taskId as limit (fetches + 1) now b diary =
        let resumed := now + b.current.millis
        let paused := asked ++ [(now, .pause b.current)]
        match Poll.late limit resumed with
        | some time => (.expired time, paused)
        | none => polls script taskId as limit fetches resumed (b.use n) paused := by
  intro asked
  have answered {limit : Option Nat} (inTime : ∀ time ∈ limit, now ≤ time) :
      Poll.late limit (now + 0) = none := by
    unfold Poll.late
    cases limit with
    | none => rfl
    | some time => simpa using inTime time rfl
  rcases Poll.judgeSteps b (script diary.answered) with ⟨_, verdict⟩ | ⟨_, verdict⟩
  · refine .inl fun limit fetches inTime => ?_
    simp only [polls, Poll.watch, Poll.once, prompt, answered inTime, verdict]
    rfl
  · refine .inr ⟨if Poll.isUnfinished (script diary.answered) then 1 else 0,
      fun limit fetches inTime => ?_⟩
    simp only [polls, Poll.watch, Poll.once, prompt, answered inTime, verdict]
    rfl

structure Passes (now fetches : Nat) (diary : Diary) (polled : Poll.Watched Reply × Diary) :
    Prop where
  notes : ∃ more, polled.2 = diary ++ more ∧ (∀ note ∈ more, now ≤ note.1) ∧
    now * Duration.nanosPerMilli + Diary.slept more =
      polled.1.time * Duration.nanosPerMilli
  onward : now ≤ polled.1.time
  busy : polled.1.result? = none → now + fetches ≤ polled.1.time

theorem pollsPass (script : Nat → Except Error Reply) (taskId : String) (as : Credentials) (now : Nat)
    (diary : Diary) (whole : b.Whole) (fetches : Nat) :
    Passes now fetches diary (polls script taskId as none fetches now b diary) := by
  induction fetches generalizing now b diary with
  | zero =>
    exact ⟨⟨[], (List.append_nil _).symm, nofun, Nat.add_zero _⟩, Nat.le_refl now,
      fun _ => Nat.le_refl now⟩
  | succ fetches ih =>
    rcases pollsSteps script taskId as now b diary with final | ⟨n, goesOn⟩
    · rw [final none fetches nofun]
      exact ⟨⟨_, rfl, List.forall_mem_singleton.mpr (Nat.le_refl now), Nat.add_zero _⟩,
        Nat.le_refl now, nofun⟩
    · rw [goesOn none fetches nofun]
      have positive := whole.current.millis
      obtain ⟨⟨more, notes, later, slept⟩, onward, busy⟩ := ih (now + b.current.millis)
        (diary ++ [(now, .fetch taskId as)] ++ [(now, .pause b.current)]) (whole.use n)
      refine ⟨⟨(now, .fetch taskId as) :: (now, .pause b.current) :: more, ?_, ?_, ?_⟩,
        Nat.le_of_add_right_le onward, fun unfinished => ?_⟩
      · refine notes.trans ?_
        simp only [List.append_assoc, List.cons_append, List.nil_append]
      · exact List.forall_mem_cons.mpr ⟨Nat.le_refl now, List.forall_mem_cons.mpr
          ⟨Nat.le_refl now, fun note member => Nat.le_of_add_right_le (later note member)⟩⟩
      · refine Eq.trans ?_ slept
        rw [Diary.sleptRound, ← whole.current.2.millis, Nat.add_mul, Nat.add_assoc]
      · have further := busy unfinished
        exact Nat.le_trans (by omega) further

theorem pollsCut (script : Nat → Except Error Reply) (taskId : String) (as : Credentials)
    (whole : b.Whole) (early : now ≤ deadline) {patience : Nat} (enough : deadline < now + patience)
    (before : ∀ note ∈ diary, note.1 ≤ deadline) (fetches : Nat) :
    let untimed := polls script taskId as none fetches now b diary
    let timed := polls script taskId as (some deadline) patience now b diary
    (untimed.1.time ≤ deadline → untimed.1.result? ≠ none → timed = untimed) ∧
    (deadline < untimed.1.time → timed = (.expired deadline, Diary.upTo untimed.2 deadline)) := by
  induction patience generalizing now b diary fetches with
  | zero => omega
  | succ patience ih =>
    cases fetches with
    | zero =>
      exact ⟨fun _ unfinished => absurd rfl unfinished, fun late => absurd early (Nat.not_le.mpr late)⟩
    | succ fetches =>
      have inTime : ∀ time ∈ some deadline, now ≤ time := fun time same =>
        Option.some.inj same ▸ early
      rcases pollsSteps script taskId as now b diary with final | ⟨n, goesOn⟩
      · rw [final none fetches nofun, final (some deadline) patience inTime]
        exact ⟨fun _ _ => rfl, fun late => absurd early (Nat.not_le.mpr late)⟩
      · rw [goesOn none fetches nofun, goesOn (some deadline) patience inTime]
        have positive := whole.current.millis
        have noted : ∀ note ∈ diary ++ [(now, .fetch taskId as)] ++ [(now, Asked.pause b.current)],
            note.1 ≤ deadline :=
          List.forall_mem_append.mpr ⟨List.forall_mem_append.mpr
            ⟨before, List.forall_mem_singleton.mpr early⟩, List.forall_mem_singleton.mpr early⟩
        by_cases beyond : deadline < now + b.current.millis
        · -- The pause lasts beyond the deadline, and so does all that comes after it.
          have expires : Poll.late (some deadline) (now + b.current.millis) = some deadline := by
            simp [Poll.late, beyond]
          obtain ⟨⟨more, notes, later, -⟩, onward, -⟩ := pollsPass script taskId as
            (now + b.current.millis) (diary ++ [(now, .fetch taskId as)] ++ [(now, .pause b.current)])
            (whole.use n) fetches
          simp only [expires]
          refine ⟨fun inside _ => absurd (Nat.lt_of_lt_of_le beyond onward) (Nat.not_lt.mpr inside),
            fun _ => Prod.ext rfl ?_⟩
          refine Eq.symm ((congrArg (Diary.upTo · deadline) notes).trans ?_)
          exact Diary.upToCut noted fun note member => Nat.lt_of_lt_of_le beyond (later note member)
        · have continues : Poll.late (some deadline) (now + b.current.millis) = none := by
            simp [Poll.late, Nat.not_lt.mp beyond]
          simp only [continues]
          exact ih (whole.use n) (Nat.not_lt.mp beyond) (by omega) noted fetches

end

theorem timedPolls (t : Tasks) (script : Nat → Except Error Reply) (patience : Nat) (taskId : String)
    (now : Nat) (timeout : Duration) {polled : Poll.Watched Reply × Diary}
    (same : polls script taskId t.credentials (some (now + timeout.millis)) patience now t.pollBackoff
      [] = polled) :
    let timed := t.waitOn (prompt script) none patience taskId (some timeout) now []
    (polled.1.result? ≠ none → timed = polled) ∧
    (polled.1 = .expired (now + timeout.millis) →
      timed = (.done (now + timeout.millis) (.error (.timeout timeout)), polled.2)) := by
  obtain ⟨watched, diary⟩ := polled
  have watch : Poll.watch ((prompt script).fetch taskId t.credentials) (prompt script).pause
      (some (now + timeout.millis)) patience now t.pollBackoff [] = (watched, diary) := same
  simp only [waitOn, waitAs, Option.map_some, Option.merge_none_left, watch]
  cases watched with
  | done time result =>
    refine ⟨fun _ => rfl, fun expired => ?_⟩
    contradiction
  | unfinished time =>
    refine ⟨fun unfinished => absurd rfl unfinished, fun expired => ?_⟩
    contradiction
  | expired time =>
    refine ⟨fun unfinished => absurd rfl unfinished, fun expired => ?_⟩
    cases expired
    exact if_pos rfl

/-- More than one fetch in a millisecond is never made, so the wait needs no more of them than there are
milliseconds up to the deadline. -/
theorem timeoutCuts (t : Tasks) (starts : t.backoff.initial.Whole) (rises : t.backoff.ceiling.Whole)
    (script : Nat → Except Error Reply) (taskId : String) (now : Nat) {timeout : Duration}
    (inMillis : timeout.InMillis) {patience : Nat} (enough : timeout.millis < patience) :
    let limit := timeout.millis
    let untimed := fun fetches => t.waitOn (prompt script) none fetches taskId none now []
    let timed := t.waitOn (prompt script) none patience taskId (some timeout) now []
    limit * Duration.nanosPerMilli = timeout.nanos ∧
    (∀ fetches time result diary, untimed fetches = (.done time result, diary) →
      ∃ total, time = now + total ∧ Diary.slept diary = total * Duration.nanosPerMilli ∧
        (total ≤ limit → timed = untimed fetches)) ∧
    ((∀ fetches time result diary, untimed fetches = (.done time result, diary) →
        now + limit < time) →
      ∀ fetches > limit, timed =
        (.done (now + limit) (.error (.timeout timeout)),
          Diary.upTo (untimed fetches).2 (now + limit))) := by
  intro limit untimed timed
  have whole : t.pollBackoff.Whole := ⟨starts.min rises, rises⟩
  have alone (fetches : Nat) : untimed fetches =
      polls script taskId t.credentials none fetches now t.pollBackoff [] :=
    untimedPolls t (prompt script) none fetches taskId t.credentials now []
  have passes := pollsPass script taskId t.credentials now [] whole
  have blank : ∀ note ∈ ([] : Diary), note.1 ≤ now + limit := nofun
  have cut := pollsCut script taskId t.credentials whole (Nat.le_add_right now limit)
    (Nat.add_lt_add_left enough now) blank
  refine ⟨inMillis.millis, fun fetches time result diary ended => ?_, fun endless fetches more => ?_⟩
  · obtain ⟨⟨more, notes, -, slept⟩, onward, -⟩ := passes fetches
    obtain ⟨same, -⟩ := cut fetches
    rw [← alone, ended] at notes slept onward same
    obtain ⟨total, rfl⟩ := Nat.exists_eq_add_of_le onward
    refine ⟨total, rfl, ?_, fun inTime => ?_⟩
    · rw [show diary = more from notes]
      exact Nat.add_left_cancel (slept.trans (Nat.add_mul now total _))
    · have polled := same (Nat.add_le_add_left inTime now) nofun
      exact ((timedPolls t script patience taskId now timeout polled).1 nofun).trans ended.symm
  · have beyond : now + limit < (untimed fetches).1.time := by
      have busy := (passes fetches).busy
      rw [← alone] at busy
      cases watched : (untimed fetches).1 with
      | done time result => exact endless fetches time result (untimed fetches).2 (Prod.ext watched rfl)
      | expired time | unfinished time =>
        rw [watched] at busy
        exact Nat.lt_of_lt_of_le (Nat.add_lt_add_left more now) (busy rfl)
    have polled := (cut fetches).2
    rw [← alone] at polled
    exact (timedPolls t script patience taskId now timeout (polled beyond)).2 rfl

def briefTasks : Tasks := ⟨.new (.ofMillis 1) (.ofMillis 2) 1, .none⟩

def statusReply (status : String) : Reply := .json (.ofMembers [("task_status", .string status)])

def briefScript (k : Nat) : Except Error Reply :=
  .ok (statusReply (if k < 2 then "RUNNING" else "SUCCEEDED"))

def briefPause (time millis : Nat) : Diary :=
  [(time, .fetch "t-1" .none), (time, .pause (.ofMillis millis))]

theorem thirdFetchInTime :
    briefTasks.backoff.initial.Whole ∧ briefTasks.backoff.ceiling.Whole ∧
    (Duration.ofMillis 3).InMillis ∧ (Duration.ofMillis 2).InMillis ∧
    let timed := fun limit => briefTasks.waitOn (prompt briefScript) none 4 "t-1"
      (some (.ofMillis limit)) 0 []
    let pauses := briefPause 0 1 ++ briefPause 1 2
    timed 3 = (.done 3 (.ok (statusReply "SUCCEEDED")), pauses ++ [(3, .fetch "t-1" .none)]) ∧
    timed 2 = (.done 2 (.error (.timeout (.ofMillis 2))), pauses) := by
  have starts : briefTasks.backoff.initial.Whole := ⟨by decide, 1, rfl⟩
  have rises : briefTasks.backoff.ceiling.Whole := ⟨by decide, 2, rfl⟩
  have three : (Duration.ofMillis 3).InMillis := ⟨3, rfl⟩
  have two : (Duration.ofMillis 2).InMillis := ⟨2, rfl⟩
  refine ⟨starts, rises, three, two, ?_, ?_⟩
  · obtain ⟨_, cut, _⟩ := timeoutCuts briefTasks starts rises briefScript "t-1" 0 three
      (by decide : 3 < 4)
    obtain ⟨total, time, _, same⟩ := cut 3 3 _ _ rfl
    have within : total ≤ 3 := by omega
    exact (same within).trans rfl
  · obtain ⟨_, _, expires⟩ := timeoutCuts briefTasks starts rises briefScript "t-1" 0 two
      (by decide : 2 < 4)
    refine (expires (fun fetches time result diary ended => ?_) 3 (by decide)).trans
      (congrArg (Prod.mk _) (by decide +kernel))
    match fetches with
    | 0 | 1 | 2 => cases ended
    | n + 3 =>
      cases ended
      decide

end Tasks

end ModelServing
