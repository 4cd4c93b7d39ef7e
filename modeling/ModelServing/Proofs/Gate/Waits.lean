import ModelServing.Proofs.Gate.Calls

/-! How waiting ends. A call that is at an open gate in time learns the outcome, after few steps of its
own and whatever the others do, and the others go on as if it were not there. -/
namespace ModelServing

def WaitStage.soon : WaitStage → Nat
  | .timing _ => 4
  | .parked _ => 3
  | .unregistered => 2
  | .registered _ => 1
  | .answered _ | .dropped => 0

def WaitStage.late : WaitStage → Nat
  | .unregistered => 8
  | .registered _ => 7
  | .parked _ => 6
  | .timing _ => 5
  | .answered _ | .dropped => 0

def Progress.remaining : Progress → Nat
  | .storing => 2
  | .notifying => 1
  | .returned _ => 0

def WaitCall.forgotten (g : WaitCall) : WaitCall := { g with stage := .dropped }

namespace GateCalls

section
variable {l : GateCalls} {m : Move} {i : Nat} {g : WaitCall}

/-- At an open gate this call learns the outcome: it has still to look, or will be notified in time. -/
def Assured (now : Nat) (g : WaitCall) : Prop :=
  match g.stage with
  | .unregistered | .registered _ | .dropped => True
  | .parked _ | .timing _ => ∀ d, g.deadline = some d → now < d
  | .answered notice => notice.outcome ≠ none

theorem Assured.poll {now : Nat} {gate : Gate} (assured : Assured now g)
    (released : gate.outcome ≠ none) : Assured now (g.poll now gate) := by
  cases stage : g.stage with
  | unregistered | dropped => simp [Assured, WaitCall.poll, stage]
  | answered _ => simpa [Assured, WaitCall.poll, stage] using assured
  | registered c =>
    obtain ⟨o, stored⟩ := Option.ne_none_iff_exists'.mp released
    simp [Assured, WaitCall.poll, stage, stored]
  | parked c =>
    cases c with
    | true => simp [Assured, WaitCall.poll, stage]
    | false => simpa [Assured, WaitCall.poll, WaitCall.deadline, stage] using assured
  | timing c =>
    have before : ∀ d, g.deadline = some d → now < d := by simpa [Assured, stage] using assured
    have early : g.isDue now = false := by
      refine Bool.eq_false_iff.mpr fun due => ?_
      obtain ⟨d, at_, passed⟩ := dueDeadline due
      exact Nat.not_lt.mpr passed (before d at_)
    simpa [Assured, WaitCall.poll, WaitCall.deadline, stage, early] using before

theorem Assured.notify {now : Nat} (assured : Assured now g) : Assured now g.notify := by
  cases stage : g.stage with
  | unregistered | registered _ | dropped => simp [Assured, WaitCall.notify, stage]
  | parked _ | timing _ | answered _ =>
    simpa [Assured, WaitCall.notify, WaitCall.deadline, stage] using assured

theorem Assured.drop {now : Nat} (assured : Assured now g) : Assured now g.drop := by
  unfold WaitCall.drop
  split
  · trivial
  · exact assured

-- Time passes only at rest, and at rest with an open gate nobody waits any more.
theorem Sound.assured (sound : l.Sound) (released : l.gate.outcome ≠ none)
    (assured : ∀ g, l.waits[i]? = some g → Assured l.now g) (m : Move) :
    ∀ g, (l.move m).waits[i]? = some g → Assured (l.move m).now g := by
  intro g' found
  have became := becomes found
  have still (same : ∀ millis, m ≠ .pass millis) : (l.move m).now = l.now := by
    rcases l.moveNow m with now | ⟨millis, passes, _⟩
    · exact now
    · exact absurd passes (same millis)
  cases became with
  | stays was unnotified others =>
    rcases l.moveNow m with now | ⟨millis, _, allowed, _⟩
    · rw [now]
      exact assured g' was
    · have away : g'.isWaiting = false := Bool.eq_false_iff.mpr fun waiting =>
        released (sound.restShut (mayPassRest allowed).1 (List.mem_of_getElem? was) waiting)
      have before := assured g' was
      cases stage : g'.stage with
      | answered _ => simpa [Assured, stage] using before
      | dropped => simp [Assured, stage]
      | unregistered | registered _ | parked _ | timing _ => simp [WaitCall.isWaiting, stage] at away
  | polls was => exact (assured _ was).poll released
  | drops was => exact (assured _ was).drop
  | notified was notifying =>
    rw [still (by simp)]
    exact (assured _ was).notify
  | enters last => trivial

theorem Sound.assuredPlay (sound : l.Sound) (released : l.gate.outcome ≠ none)
    (assured : ∀ g, l.waits[i]? = some g → Assured l.now g) (moves : List Move) :
    ∀ g, (l.play moves).waits[i]? = some g → Assured (l.play moves).now g := by
  induction moves generalizing l with
  | nil => exact assured
  | cons m rest ih =>
    obtain ⟨o, stored⟩ := Option.ne_none_iff_exists'.mp released
    exact ih (sound.move m) (by rw [moveGate stored]; simp) (sound.assured released assured m)

theorem playGate {o : Outcome} (stored : l.gate.outcome = some o) (moves : List Move) :
    (l.play moves).gate.outcome = some o := by
  induction moves generalizing l with
  | nil => exact stored
  | cons m rest ih => exact ih (moveGate stored)

theorem moveWait (was : l.waits[i]? = some g) (m : Move) : ∃ g', (l.move m).waits[i]? = some g' ∧
    g'.since = g.since ∧ g'.timeout = g.timeout := by
  have within := (List.getElem?_eq_some_iff.mp was).1
  cases m with
  | release o => exact ⟨g, was, rfl, rfl⟩
  | wait timeout => exact ⟨g, (List.getElem?_append_left within).trans was, rfl, rfl⟩
  | pass millis =>
    rw [passWaits]
    exact ⟨g, was, rfl, rfl⟩
  | poll n =>
    refine ⟨if n = i then g.poll l.now l.gate else g, ?_, ?_⟩
    · simp only [move, List.getElem?_modify, was, Option.map_eq_map, Option.map_some]
    · split
      · exact pollSame g _ _
      · exact ⟨rfl, rfl⟩
  | drop n =>
    refine ⟨if n = i then g.drop else g, ?_, ?_⟩
    · simp only [move, List.getElem?_modify, was, Option.map_eq_map, Option.map_some]
    · split
      · exact dropSame g
      · exact ⟨rfl, rfl⟩
  | proceed n =>
    have step := proceeds l n
    change ∃ g', (l.proceed n).waits[i]? = some g' ∧ _
    generalize l.proceed n = l' at step
    cases step with
    | late _ _ | first _ _ | spent _ => exact ⟨g, was, rfl, rfl⟩
    | notifies _ =>
      refine ⟨g.notify, ?_, notifySame g⟩
      rw [List.getElem?_map, was, Option.map_some]

theorem playWait (was : l.waits[i]? = some g) (moves : List Move) :
    ∃ g', (l.play moves).waits[i]? = some g' ∧ g'.since = g.since ∧ g'.timeout = g.timeout := by
  induction moves generalizing l g with
  | nil => exact ⟨g, was, rfl, rfl⟩
  | cons m rest ih =>
    obtain ⟨g', found, since, timeout⟩ := moveWait was m
    obtain ⟨last, ends, since', timeout'⟩ := ih found
    exact ⟨last, ends, since'.trans since, timeout'.trans timeout⟩

/-- A call is done after so many steps of its own: everyone has been notified, or its time is up. The
second bound leaves room for being notified on the way. -/
def Bounded (l : GateCalls) (g : WaitCall) (turns : Nat) : Prop :=
  l.announced ∧ g.stage.soon ≤ turns ∨ g.isDue l.now = true ∧ g.stage.late ≤ turns

theorem boundedDone (bounded : l.Bounded g 0) : g.isWaiting = false := by
  cases stage : g.stage with
  | answered _ | dropped => simp [WaitCall.isWaiting, stage]
  | unregistered | registered _ | parked _ | timing _ =>
    simp [Bounded, stage, WaitStage.soon, WaitStage.late] at bounded

theorem boundedMore {turns more : Nat} (bounded : l.Bounded g turns) (le : turns ≤ more) :
    l.Bounded g more :=
  bounded.imp (And.imp_right (Nat.le_trans · le)) (And.imp_right (Nat.le_trans · le))

theorem Fits.pollBounded (fits : l.Fits g) (ordered : l.Ordered) {turns : Nat}
    (bounded : l.Bounded g (turns + 1)) : l.Bounded (g.poll l.now l.gate) turns := by
  have due : (g.poll l.now l.gate).isDue l.now = g.isDue l.now := by
    rw [WaitCall.isDue, WaitCall.isDue, deadlineSame (pollSame g l.now l.gate)]
  have notified := fits.notified
  have awake := fits.awake
  rcases bounded with ⟨announced, bound⟩ | ⟨passed, bound⟩
  · refine .inl ⟨announced, ?_⟩
    obtain ⟨released, quiet⟩ := ordered.announcedOnce announced
    obtain ⟨o, stored⟩ := Option.ne_none_iff_exists'.mp released
    cases stage : g.stage with
    | unregistered =>
      simp only [WaitStage.soon, stage] at bound
      simp only [WaitCall.poll, stage, WaitStage.soon]
      omega
    | answered _ | dropped => simp [WaitCall.poll, WaitStage.soon, stage]
    | registered c => simp [WaitCall.poll, WaitStage.soon, stage, stored]
    | parked c =>
      cases c with
      | true => simp [WaitCall.poll, WaitStage.soon, stage] at bound ⊢; omega
      | false => exact absurd (awake (by simp [stage, WaitStage.isSleeping]) released) quiet
    | timing c =>
      simp only [stage, WaitStage.soon] at bound
      simp only [WaitCall.poll, stage]
      split
      · exact Nat.zero_le _
      · simp only [WaitStage.soon]
        omega
  · rw [Bounded, due]
    cases stage : g.stage with
    | unregistered =>
      refine .inr ⟨passed, ?_⟩
      simp only [WaitStage.late, stage] at bound
      simp only [WaitCall.poll, stage, WaitStage.late]
      omega
    | answered _ | dropped =>
      refine .inr ⟨passed, ?_⟩
      simp [WaitCall.poll, WaitStage.late, stage]
    | registered c =>
      refine .inr ⟨passed, ?_⟩
      simp only [stage, WaitStage.late] at bound
      simp only [WaitCall.poll, stage]
      split
      · exact Nat.zero_le _
      · simp only [WaitStage.late]
        omega
    | parked c =>
      simp only [stage, WaitStage.late] at bound
      cases c with
      | true =>
        refine .inl ⟨notified (by simp [stage, WaitStage.isNotified]), ?_⟩
        simp [WaitCall.poll, WaitStage.soon, stage]
        omega
      | false =>
        refine .inr ⟨passed, ?_⟩
        simp [WaitCall.poll, WaitStage.late, stage]
        omega
    | timing c =>
      refine .inr ⟨passed, ?_⟩
      simp [WaitCall.poll, WaitStage.late, stage, passed]

theorem notifyBounded {l' : GateCalls} (announced : l'.announced) {turns : Nat}
    (bounded : l.Bounded g turns) : l'.Bounded g.notify turns := by
  refine .inl ⟨announced, ?_⟩
  have either : g.stage.soon ≤ turns ∨ g.stage.late ≤ turns := bounded.imp And.right And.right
  cases stage : g.stage with
  | unregistered | registered _ | parked _ | timing _ =>
    simp only [WaitStage.soon, WaitStage.late, stage] at either
    simp only [WaitCall.notify, stage, WaitStage.soon]
    omega
  | answered _ | dropped => simp [WaitCall.notify, WaitStage.soon, stage]

theorem dropBounded {turns : Nat} (bounded : l.Bounded g turns) : l.Bounded g.drop turns := by
  unfold WaitCall.drop
  split
  · rcases bounded with ⟨announced, -⟩ | ⟨passed, -⟩
    · exact .inl ⟨announced, by simp [WaitStage.soon]⟩
    · exact .inr ⟨passed, by simp [WaitStage.late]⟩
  · exact bounded

theorem keepBounded {turns : Nat} (bounded : l.Bounded g turns) (m : Move) :
    (l.move m).Bounded g turns := by
  rcases bounded with ⟨announced, bound⟩ | ⟨passed, bound⟩
  · exact .inl ⟨moveAnnounced announced, bound⟩
  · refine .inr ⟨?_, bound⟩
    obtain ⟨d, at_, before⟩ := dueDeadline passed
    simpa [WaitCall.isDue, at_] using Nat.le_trans before (l.moveLater m)

theorem Sound.moveBounded (sound : l.Sound) (was : l.waits[i]? = some g) {turns : Nat} {m : Move}
    {g' : WaitCall} (found : (l.move m).waits[i]? = some g')
    (bounded : l.Bounded g (if m = .poll i then turns + 1 else turns)) :
    (l.move m).Bounded g' turns := by
  have became := becomes found
  cases became with
  | stays had unnotified others =>
    rw [was] at had
    cases Option.some.inj had
    rw [if_neg others] at bounded
    exact keepBounded bounded m
  | polls had =>
    rw [was] at had
    cases Option.some.inj had
    rw [if_pos rfl] at bounded
    exact (sound.fits g (List.mem_of_getElem? was)).pollBounded sound.ordered bounded
  | drops had =>
    rw [was] at had
    cases Option.some.inj had
    rw [if_neg (by simp)] at bounded
    exact dropBounded bounded
  | @notified n o _ had notifying =>
    rw [was] at had
    cases Option.some.inj had
    rw [if_neg (by simp)] at bounded
    refine notifyBounded ?_ bounded
    have step := proceeds l n
    change (l.proceed n).announced
    generalize l.proceed n = l' at step
    cases step with
    | late other _ | first other _ =>
      rw [notifying] at other
      cases other
    | spent neither => exact absurd notifying (neither o).2
    | notifies other => exact ⟨n, _, setOwn other _⟩
  | enters last =>
    have within := (List.getElem?_eq_some_iff.mp was).1
    omega

theorem Sound.finishes (sound : l.Sound) (turns : Nat) (was : l.waits[i]? = some g)
    (bounded : l.Bounded g turns) {moves : List Move} (own : turns ≤ moves.count (.poll i)) :
    ∀ g', (l.play moves).waits[i]? = some g' → g'.isWaiting = false := by
  induction moves generalizing l g turns with
  | nil =>
    intro g' found
    rw [List.count_nil, Nat.le_zero] at own
    subst own
    cases Option.some.inj (was.symm.trans found)
    exact boundedDone bounded
  | cons m rest ih =>
    obtain ⟨next, found, -⟩ := moveWait was m
    by_cases same : m = .poll i
    · subst same
      rw [List.count_cons_self] at own
      refine ih (sound.move _) (turns - 1) found (sound.moveBounded was found ?_) (by omega)
      rw [if_pos rfl]
      exact boundedMore bounded (by omega)
    · rw [List.count_cons_of_ne (by simpa using same)] at own
      exact ih (sound.move m) turns found (sound.moveBounded was found (by rwa [if_neg same])) own

theorem moveRelease {n : Nat} {r : Release} (had : l.releases[n]? = some r) (m : Move) :
    ∃ r', (l.move m).releases[n]? = some r' ∧ r'.outcome = r.outcome ∧
      r'.progress.remaining ≤ r.progress.remaining - if m = .proceed n then 1 else 0 := by
  have within := (List.getElem?_eq_some_iff.mp had).1
  cases m with
  | release o => exact ⟨r, (List.getElem?_append_left within).trans had, rfl, by simp⟩
  | wait timeout | poll k | drop k => exact ⟨r, had, rfl, by simp⟩
  | pass millis =>
    rw [(l.passReleases millis).2]
    exact ⟨r, had, rfl, by simp⟩
  | proceed k =>
    have step := proceeds l k
    change ∃ r', (l.proceed k).releases[n]? = some r' ∧ _
    generalize l.proceed k = l' at step
    by_cases own : k = n
    · subst own
      rw [if_pos rfl]
      cases step with
      | spent neither =>
        obtain ⟨o, progress⟩ := r
        refine ⟨⟨o, progress⟩, had, rfl, ?_⟩
        cases progress with
        | storing => exact absurd had (neither o).1
        | notifying => exact absurd had (neither o).2
        | returned first => exact Nat.le_refl _
      | late other _ | first other _ | notifies other =>
        rw [had] at other
        cases Option.some.inj other
        exact ⟨_, setOwn had _, rfl, by simp [Progress.remaining]⟩
    · rw [if_neg (by simpa using own)]
      cases step with
      | spent neither => exact ⟨r, had, rfl, Nat.le_refl _⟩
      | late _ _ | first _ _ | notifies _ =>
        exact ⟨r, (List.getElem?_set_ne own).trans had, rfl, Nat.le_refl _⟩

theorem releaseReturns {n : Nat} {r : Release} (had : l.releases[n]? = some r) {moves : List Move}
    (own : r.progress.remaining ≤ moves.count (.proceed n)) :
    ∃ first, (l.play moves).releases[n]? = some ⟨r.outcome, .returned first⟩ := by
  induction moves generalizing l r with
  | nil =>
    obtain ⟨o, progress⟩ := r
    cases progress with
    | returned first => exact ⟨first, had⟩
    | storing | notifying => simp [Progress.remaining] at own
  | cons m rest ih =>
    obtain ⟨r', found, outcome, fewer⟩ := moveRelease had m
    rw [← outcome]
    refine ih found ?_
    rw [List.count_cons] at own
    by_cases same : m = .proceed n
    · simp only [same, beq_self_eq_true, if_pos] at own fewer
      omega
    · simp only [beq_eq_false_iff_ne.mpr same, if_neg same] at own fewer
      simp at own
      omega

theorem Won.play {w : Nat} {o : Outcome} (won : l.Won w o) (moves : List Move) :
    (l.play moves).Won w o := by
  induction moves generalizing l with
  | nil => exact won
  | cons m rest ih => exact ih (won.move m)

def Move.isOf (m : Move) (i : Nat) : Bool :=
  match m with
  | .poll n | .drop n => n == i
  | _ => false

def forget (l : GateCalls) (i : Nat) : GateCalls :=
  { l with waits := l.waits.modify i WaitCall.forgotten }

theorem forgottenSame {g g' : WaitCall} (same : g'.since = g.since ∧ g'.timeout = g.timeout) :
    g'.forgotten = g.forgotten := by
  rw [WaitCall.forgotten, WaitCall.forgotten, same.1, same.2]

theorem allIndices (P : WaitCall → Bool) (waits : List WaitCall) :
    waits.all P = true ↔ ∀ (i : Nat) (g : WaitCall), waits[i]? = some g → P g = true := by
  rw [List.all_eq_true]
  refine ⟨fun all i g found => all g (List.mem_of_getElem? found), fun all g member => ?_⟩
  obtain ⟨i, found⟩ := List.getElem?_of_mem member
  exact all i g found

theorem allForget {P : WaitCall → Bool} (dropped : ∀ g : WaitCall, P g.forgotten = true)
    {waits : List WaitCall} (all : waits.all P = true) (i : Nat) :
    (waits.modify i WaitCall.forgotten).all P = true := by
  rw [allIndices] at all ⊢
  intro j g found
  simp only [List.getElem?_modify, Option.map_eq_map, Option.map_eq_some_iff] at found
  obtain ⟨g, was, rfl⟩ := found
  split
  · exact dropped g
  · exact all j g was

theorem forgetPass {millis : Nat} (allowed : l.mayPass millis = true) (i : Nat) :
    (l.forget i).mayPass millis = true := by
  simp only [mayPass, isAtRest, Bool.and_eq_true] at allowed ⊢
  obtain ⟨⟨returned, still⟩, within⟩ := allowed
  exact ⟨⟨returned, allForget (fun _ => rfl) still i⟩, allForget (fun _ => rfl) within i⟩

theorem forgetPassOver (was : l.waits[i]? = some g) (away : g.isWaiting = false) {millis : Nat}
    (allowed : (l.forget i).mayPass millis = true) : l.mayPass millis = true := by
  have back {P : WaitCall → Bool} (own : P g = true)
      (all : (l.waits.modify i WaitCall.forgotten).all P = true) :
      l.waits.all P = true := by
    rw [allIndices] at all ⊢
    intro j g' found
    by_cases same : i = j
    · subst same
      cases Option.some.inj (was.symm.trans found)
      exact own
    · exact all j g' ((List.getElem?_modify_ne _ _ same).trans found)
  simp only [mayPass, isAtRest, Bool.and_eq_true] at allowed ⊢
  obtain ⟨⟨returned, still⟩, within⟩ := allowed
  refine ⟨⟨returned, back ?_ still⟩, back (by simp [away]) within⟩
  cases stage : g.stage with
  | answered _ | dropped => simp [WaitCall.isAtRest, stage]
  | unregistered | registered _ | parked _ | timing _ => simp [WaitCall.isWaiting, stage] at away

theorem forgetOwn (own : m.isOf i = true) : (l.move m).forget i = l.forget i := by
  cases m with
  | poll n =>
    simp only [Move.isOf, beq_iff_eq] at own
    subst own
    simp only [move, forget, List.modify_modify_eq]
    congr
    funext g
    exact forgottenSame (pollSame g l.now l.gate)
  | drop n =>
    simp only [Move.isOf, beq_iff_eq] at own
    subst own
    simp only [move, forget, List.modify_modify_eq]
    congr
    funext g
    exact forgottenSame (dropSame g)
  | release _ | proceed _ | wait _ | pass _ => contradiction

theorem ownForgotten (own : m.isOf i = true) : (l.forget i).move m = l.forget i := by
  cases m with
  | poll n =>
    simp only [Move.isOf, beq_iff_eq] at own
    subst own
    simp only [move, forget, List.modify_modify_eq]
    rfl
  | drop n =>
    simp only [Move.isOf, beq_iff_eq] at own
    subst own
    simp only [move, forget, List.modify_modify_eq]
    rfl
  | release _ | proceed _ | wait _ | pass _ => contradiction

theorem forgetNotify (waits : List WaitCall) (i : Nat) :
    (waits.modify i WaitCall.forgotten).map WaitCall.notify =
      (waits.map WaitCall.notify).modify i WaitCall.forgotten := by
  apply List.ext_getElem?
  intro j
  rw [List.getElem?_map, List.getElem?_modify, List.getElem?_modify, List.getElem?_map]
  cases waits[j]? with
  | none => rfl
  | some g =>
    simp only [Option.map_eq_map, Option.map_some, Option.some.injEq]
    split
    · exact (forgottenSame (notifySame g)).symm
    · rfl

theorem forgetProceed (l : GateCalls) (n i : Nat) :
    (l.forget i).proceed n = (l.proceed n).forget i := by
  simp only [proceed, forget]
  cases l.releases[n]? with
  | none => rfl
  | some r =>
    obtain ⟨o, progress⟩ := r
    cases progress with
    | storing => by_cases released : l.gate.isReleased = true <;> simp [released]
    | notifying => simp only [forgetNotify]
    | returned first => rfl

theorem forgetMove (within : i < l.waits.length) (others : m.isOf i = false)
    (allowed : ∀ millis, m = .pass millis → (l.forget i).mayPass millis = l.mayPass millis) :
    (l.forget i).move m = (l.move m).forget i := by
  cases m with
  | release o => rfl
  | proceed n => exact forgetProceed l n i
  | wait timeout =>
    simp only [move, forget]
    congr 1
    apply List.ext_getElem?
    intro j
    simp only [List.getElem?_append, List.getElem?_modify, List.length_modify]
    split
    · rfl
    · have apart : i ≠ j := by omega
      simp [apart]
  | poll n =>
    have apart : n ≠ i := by simpa [Move.isOf] using others
    simp only [move, forget, List.modify_modify_ne _ _ _ apart]
  | drop n =>
    have apart : n ≠ i := by simpa [Move.isOf] using others
    simp only [move, forget, List.modify_modify_ne _ _ _ apart]
  | pass millis =>
    simp only [move, allowed millis rfl]
    split <;> rfl

theorem moveWithin (within : i < l.waits.length) (m : Move) : i < (l.move m).waits.length := by
  obtain ⟨g, found, -⟩ := moveWait (List.getElem?_eq_getElem within) m
  exact (List.getElem?_eq_some_iff.mp found).1

theorem playOthers (within : i < l.waits.length) (moves : List Move) :
    ∃ others, others.Sublist moves ∧ (∀ m ∈ others, m.isOf i = false) ∧
      (l.forget i).play others = (l.play moves).forget i := by
  induction moves generalizing l with
  | nil => exact ⟨[], .slnil, by simp, rfl⟩
  | cons m rest ih =>
    obtain ⟨others, sub, apart, same⟩ := ih (moveWithin within m)
    cases own : m.isOf i with
    | true =>
      rw [forgetOwn own] at same
      exact ⟨others, sub.cons m, apart, same⟩
    | false =>
      by_cases refused : ∃ millis, m = .pass millis ∧ l.mayPass millis = false
      · obtain ⟨millis, rfl, stays⟩ := refused
        rw [show l.move (.pass millis) = l by simp [move, stays]] at same
        refine ⟨others, sub.cons _, apart, same.trans ?_⟩
        rw [show l.play (.pass millis :: rest) = (l.move (.pass millis)).play rest from rfl,
          show l.move (.pass millis) = l by simp [move, stays]]
      · refine ⟨m :: others, sub.cons_cons m, ?_, ?_⟩
        · intro m' member
          rcases List.mem_cons.mp member with rfl | later
          · exact own
          · exact apart m' later
        · have step := forgetMove within own fun millis passes => by
            have allowed : l.mayPass millis = true := by
              cases may : l.mayPass millis with
              | true => rfl
              | false => exact absurd ⟨millis, passes, may⟩ refused
            rw [allowed, forgetPass allowed i]
          rw [play, List.foldl_cons, ← play, step]
          exact same

theorem moveOver (was : l.waits[i]? = some g) (away : g.isWaiting = false) (m : Move) :
    (l.move m).waits[i]? = some g := by
  obtain ⟨g', found, -⟩ := moveWait was m
  have became := becomes found
  have done : (∃ notice, g.stage = .answered notice) ∨ g.stage = .dropped := by
    cases stage : g.stage with
    | answered notice => exact .inl ⟨notice, rfl⟩
    | dropped => exact .inr rfl
    | unregistered | registered _ | parked _ | timing _ => simp [WaitCall.isWaiting, stage] at away
  cases became with
  | stays had unnotified others =>
    rw [was] at had
    rwa [Option.some.inj had]
  | polls had =>
    rw [was] at had
    cases Option.some.inj had
    rcases done with ⟨notice, stage⟩ | stage <;> rwa [WaitCall.poll, stage] at found
  | drops had =>
    rw [was] at had
    cases Option.some.inj had
    rwa [WaitCall.drop, if_neg (by simp [away])] at found
  | notified had notifying =>
    rw [was] at had
    cases Option.some.inj had
    rcases done with ⟨notice, stage⟩ | stage <;> rwa [WaitCall.notify, stage] at found
  | enters last =>
    have within := (List.getElem?_eq_some_iff.mp was).1
    omega

theorem playOver (was : l.waits[i]? = some g) (away : g.isWaiting = false) (moves : List Move) :
    (l.forget i).play moves = (l.play moves).forget i := by
  induction moves generalizing l with
  | nil => rfl
  | cons m rest ih =>
    have within := (List.getElem?_eq_some_iff.mp was).1
    have later := ih (moveOver was away m)
    rw [show l.play (m :: rest) = (l.move m).play rest from rfl, ← later]
    change ((l.forget i).move m).play rest = _
    congr 1
    cases own : m.isOf i with
    | true => rw [forgetOwn own, ownForgotten own]
    | false =>
      refine forgetMove within own fun millis _ => ?_
      rw [Bool.eq_iff_iff]
      exact ⟨forgetPassOver was away, fun allowed => forgetPass allowed i⟩

theorem Fits.assured (fits : l.Fits g) (inTime : ∀ d, g.deadline = some d → l.now < d) :
    Assured l.now g := by
  cases stage : g.stage with
  | unregistered | registered _ | dropped => simp [Assured, stage]
  | parked _ | timing _ => simpa [Assured, stage] using inTime
  | answered notice =>
    obtain ⟨-, expired, before⟩ := fits.told notice stage
    have told : notice.outcome ≠ none := fun none_ =>
      Nat.not_lt.mpr before (inTime _ (expired none_))
    simpa [Assured, stage] using told

theorem Sound.learns (sound : l.Sound) (released : l.gate.outcome ≠ none) (moves : List Move)
    (found : (l.play moves).waits[i]? = some g) {notice : Notice} (answered : g.stage = .answered notice)
    (inTime : l.waits.length ≤ i ∨ ∀ d, g.deadline = some d → l.now < d) :
    notice.outcome = l.gate.outcome := by
  have assured : ∀ g', l.waits[i]? = some g' → Assured l.now g' := by
    intro g' was
    rcases inTime with beyond | early
    · have within := (List.getElem?_eq_some_iff.mp was).1
      omega
    · refine (sound.fits g' (List.mem_of_getElem? was)).assured ?_
      obtain ⟨last, ends, same⟩ := playWait was moves
      rw [found] at ends
      cases Option.some.inj ends
      rwa [← deadlineSame same]
  have told := sound.assuredPlay released assured moves g found
  simp only [Assured, answered] at told
  obtain ⟨o, learned⟩ := Option.ne_none_iff_exists'.mp told
  obtain ⟨p, stored⟩ := Option.ne_none_iff_exists'.mp released
  have ends := ((sound.play moves).fits g (List.mem_of_getElem? found)).told notice answered
  rw [stored, ← playGate stored moves, ends.1 o learned, learned]

end

end GateCalls

end ModelServing
