import ModelServing.GateCalls

/-! No release is missed. A call that is parked and has not been notified is notified before the first
release returns, for it registered before it looked at the gate and the outcome is stored before anyone
is notified. So all are at rest only when every call that can be told has been told. -/
namespace ModelServing

def Release.wins (r : Release) : Bool :=
  match r.progress with
  | .notifying | .returned true => true
  | .storing | .returned false => false

def WaitStage.isNotified : WaitStage → Bool
  | .registered notified | .parked notified | .timing notified => notified
  | .unregistered | .answered _ | .dropped => false

def WaitStage.isSleeping : WaitStage → Bool
  | .parked notified | .timing notified => !notified
  | .unregistered | .registered _ | .answered _ | .dropped => false

theorem WaitCall.restStage {g : WaitCall} {now : Nat} (rest : g.isAtRest now = true) :
    (∃ notice, g.stage = .answered notice) ∨ g.stage = .dropped ∨
      g.stage = .parked false ∧ g.isDue now = false := by
  cases stage : g.stage with
  | answered notice => exact .inl ⟨notice, rfl⟩
  | dropped => exact .inr (.inl rfl)
  | parked notified =>
    cases notified with
    | false => exact .inr (.inr ⟨rfl, by simpa [isAtRest, stage] using rest⟩)
    | true => simp [isAtRest, stage] at rest
  | unregistered | registered _ | timing _ => simp [isAtRest, stage] at rest

namespace GateCalls

def announcing (l : GateCalls) : Prop :=
  ∃ (n : Nat) (o : Outcome), l.releases[n]? = some ⟨o, .notifying⟩

def announced (l : GateCalls) : Prop :=
  ∃ (n : Nat) (o : Outcome), l.releases[n]? = some ⟨o, .returned true⟩

inductive Proceeds (l : GateCalls) (n : Nat) : GateCalls → Prop where
  | late {o} (found : l.releases[n]? = some ⟨o, .storing⟩) (released : l.gate.outcome ≠ none) :
      Proceeds l n { l with releases := l.releases.set n ⟨o, .returned false⟩ }
  | first {o} (found : l.releases[n]? = some ⟨o, .storing⟩) (shut : l.gate.outcome = none) :
      Proceeds l n { l with gate := ⟨some o⟩, releases := l.releases.set n ⟨o, .notifying⟩ }
  | notifies {o} (found : l.releases[n]? = some ⟨o, .notifying⟩) :
      Proceeds l n { l with
        releases := l.releases.set n ⟨o, .returned true⟩, waits := l.waits.map WaitCall.notify }
  | spent (found : ∀ o, l.releases[n]? ≠ some ⟨o, .storing⟩ ∧
      l.releases[n]? ≠ some ⟨o, .notifying⟩) : Proceeds l n l

theorem proceeds (l : GateCalls) (n : Nat) : Proceeds l n (l.proceed n) := by
  unfold proceed
  split
  · rename_i o found
    split
    · rename_i released
      refine .late found fun shut => ?_
      simp [Gate.isReleased, shut] at released
    · rename_i unreleased
      have shut : l.gate.outcome = none := by simpa [Gate.isReleased] using unreleased
      rw [show l.gate.release o = ⟨some o⟩ by simp [Gate.release, shut]]
      exact .first found shut
  · rename_i found
    exact .notifies found
  · rename_i neither notified
    exact .spent fun o => ⟨neither o, notified o⟩

inductive Becomes (l : GateCalls) (i : Nat) : Move → WaitCall → Prop where
  | stays {m g} (was : l.waits[i]? = some g)
      (unnotified : ∀ n o, m = .proceed n → l.releases[n]? ≠ some ⟨o, .notifying⟩)
      (others : m ≠ .poll i) : Becomes l i m g
  | polls {g} (was : l.waits[i]? = some g) : Becomes l i (.poll i) (g.poll l.now l.gate)
  | drops {g} (was : l.waits[i]? = some g) : Becomes l i (.drop i) g.drop
  | notified {n o g} (was : l.waits[i]? = some g) (found : l.releases[n]? = some ⟨o, .notifying⟩) :
      Becomes l i (.proceed n) g.notify
  | enters {timeout} (last : i = l.waits.length) :
      Becomes l i (.wait timeout) ⟨l.now, timeout, .unregistered⟩

theorem passWaits (l : GateCalls) (millis : Nat) : (l.move (.pass millis)).waits = l.waits := by
  simp only [move]
  split <;> rfl

theorem becomes {l : GateCalls} {m : Move} {i : Nat} {g : WaitCall}
    (found : (l.move m).waits[i]? = some g) : Becomes l i m g := by
  cases m with
  | release o => exact .stays found (by simp) (by simp)
  | proceed n =>
    simp only [move] at found
    have step := proceeds l n
    generalize l.proceed n = l' at found step
    cases step with
    | late had _ | first had _ =>
      refine .stays found (fun m o same other => ?_) (by simp)
      cases same
      rw [had] at other
      cases other
    | spent neither =>
      refine .stays found (fun m o same => ?_) (by simp)
      cases same
      exact (neither o).2
    | notifies had =>
      rw [List.getElem?_map, Option.map_eq_some_iff] at found
      obtain ⟨g, was, rfl⟩ := found
      exact .notified was had
  | wait timeout =>
    simp only [move] at found
    rcases Nat.lt_or_ge i l.waits.length with before | beyond
    · rw [List.getElem?_append_left before] at found
      exact .stays found (by simp) (by simp)
    · rw [List.getElem?_append_right beyond, List.getElem?_singleton] at found
      split at found
      · cases Option.some.inj found
        exact .enters (by omega)
      · contradiction
  | poll n =>
    simp only [move, List.getElem?_modify, Option.map_eq_map, Option.map_eq_some_iff] at found
    obtain ⟨g, was, rfl⟩ := found
    split
    · rename_i own
      subst own
      exact .polls was
    · rename_i other
      exact .stays was (by simp) (by simpa using other)
  | drop n =>
    simp only [move, List.getElem?_modify, Option.map_eq_map, Option.map_eq_some_iff] at found
    obtain ⟨g, was, rfl⟩ := found
    split
    · rename_i own
      subst own
      exact .drops was
    · exact .stays was (by simp) (by simp)
  | pass millis =>
    rw [passWaits] at found
    exact .stays found (by simp) (by simp)

structure Won (l : GateCalls) (n : Nat) (o : Outcome) : Prop where
  gate : l.gate.outcome = some o
  winner : ∃ r, l.releases[n]? = some r ∧ r.outcome = o ∧ r.wins = true
  alone : ∀ (m : Nat) (r : Release), l.releases[m]? = some r → r.wins = true → m = n

structure Ordered (l : GateCalls) : Prop where
  shut : l.gate.outcome = none → ∀ r ∈ l.releases, r.progress = .storing
  won : ∀ o, l.gate.outcome = some o → ∃ n, l.Won n o

section
variable {l : GateCalls} {m : Move} {i : Nat} {g : WaitCall}

theorem passReleases (l : GateCalls) (millis : Nat) :
    (l.move (.pass millis)).gate = l.gate ∧ (l.move (.pass millis)).releases = l.releases := by
  simp only [move]
  split <;> exact ⟨rfl, rfl⟩

theorem setOther {releases : List Release} {n m : Nat} {r s : Release}
    (found : (releases.set n s)[m]? = some r) (other : m ≠ n) : releases[m]? = some r := by
  rwa [List.getElem?_set_ne (Ne.symm other)] at found

theorem setOwn {releases : List Release} {n : Nat} {r : Release} (had : releases[n]? = some r)
    (s : Release) : (releases.set n s)[n]? = some s :=
  List.getElem?_set_self (List.getElem?_eq_some_iff.mp had).1

theorem Ordered.released (ordered : l.Ordered) {n : Nat} {r : Release}
    (had : l.releases[n]? = some r) (wins : r.wins = true) : l.gate.outcome ≠ none := by
  intro shut
  have early := ordered.shut shut r (List.mem_of_getElem? had)
  simp [Release.wins, early] at wins

theorem Ordered.once (ordered : l.Ordered) {n m : Nat} {r s : Release}
    (first : l.releases[n]? = some r) (second : l.releases[m]? = some s) (wins : r.wins = true)
    (also : s.wins = true) : n = m := by
  obtain ⟨o, stored⟩ := Option.ne_none_iff_exists'.mp (ordered.released first wins)
  obtain ⟨w, won⟩ := ordered.won o stored
  exact (won.alone n r first wins).trans (won.alone m s second also).symm

theorem Won.proceed {w : Nat} {o : Outcome} (won : l.Won w o) (n : Nat) : (l.proceed n).Won w o := by
  obtain ⟨stored, ⟨r, found, same, wins⟩, alone⟩ := won
  have step := proceeds l n
  generalize l.proceed n = l' at step
  cases step with
  | spent neither => exact ⟨stored, ⟨r, found, same, wins⟩, alone⟩
  | first had shut =>
    rw [stored] at shut
    contradiction
  | @late p had released =>
    have apart : w ≠ n := by
      rintro rfl
      rw [had] at found
      cases found
      contradiction
    refine ⟨stored, ⟨r, ?_, same, wins⟩, fun m r' later also => ?_⟩
    · rwa [List.getElem?_set_ne (Ne.symm apart)]
    · by_cases own : m = n
      · subst own
        rw [setOwn had] at later
        cases later
        contradiction
      · exact alone m r' (setOther later own) also
  | @notifies p had =>
    cases alone n _ had rfl
    rw [had] at found
    cases found
    refine ⟨stored, ⟨_, setOwn had _, same, rfl⟩, fun m r' later also => ?_⟩
    by_cases own : m = w
    · exact own
    · exact alone m r' (setOther later own) also

theorem Won.move {w : Nat} {o : Outcome} (won : l.Won w o) (m : Move) : (l.move m).Won w o := by
  cases m with
  | proceed n => exact won.proceed n
  | wait timeout | poll k | drop k => exact ⟨won.gate, won.winner, won.alone⟩
  | pass millis =>
    obtain ⟨gate, releases⟩ := l.passReleases millis
    exact ⟨gate ▸ won.gate, releases ▸ won.winner, releases ▸ won.alone⟩
  | release p =>
    obtain ⟨r, found, same, wins⟩ := won.winner
    have within := (List.getElem?_eq_some_iff.mp found).1
    refine ⟨won.gate, ⟨r, (List.getElem?_append_left within).trans found, same, wins⟩,
      fun m r' later also => ?_⟩
    rcases Nat.lt_or_ge m l.releases.length with before | beyond
    · exact won.alone m r' ((List.getElem?_append_left before).symm.trans later) also
    · have last := later
      rw [show (l.move (.release p)).releases = l.releases ++ [⟨p, .storing⟩] from rfl,
        List.getElem?_append_right beyond] at last
      rw [List.mem_singleton.mp (List.mem_of_getElem? last)] at also
      contradiction

theorem Ordered.wins (ordered : l.Ordered) (shut : l.gate.outcome = none) {n : Nat} {o : Outcome}
    (had : l.releases[n]? = some ⟨o, .storing⟩) : (l.proceed n).Won n o := by
  have step := proceeds l n
  generalize l.proceed n = l' at step
  cases step with
  | late _ released => exact absurd shut released
  | spent neither => exact absurd had (neither o).1
  | notifies other =>
    rw [had] at other
    cases other
  | first other _ =>
    rw [had] at other
    cases other
    refine ⟨rfl, ⟨_, setOwn had _, rfl, rfl⟩, fun m r' later also => ?_⟩
    by_cases own : m = n
    · exact own
    · exact absurd shut (ordered.released (setOther later own) also)

theorem Ordered.proceed (ordered : l.Ordered) (shut : l.gate.outcome = none) (n : Nat) :
    (l.proceed n).Ordered := by
  have wins {o : Outcome} (had : l.releases[n]? = some ⟨o, .storing⟩) := ordered.wins shut had
  have step := proceeds l n
  generalize l.proceed n = l' at step wins
  cases step with
  | spent neither => exact ordered
  | late _ released => exact absurd shut released
  | notifies had => exact absurd shut (ordered.released had rfl)
  | @first o had _ =>
    refine ⟨by simp, fun p same => ?_⟩
    cases Option.some.inj same
    exact ⟨n, wins had⟩

theorem Ordered.move (ordered : l.Ordered) (m : Move) : (l.move m).Ordered := by
  cases stored : l.gate.outcome with
  | some o =>
    obtain ⟨w, won⟩ := ordered.won o stored
    have next := won.move m
    refine ⟨fun shut => ?_, fun p same => ?_⟩
    · rw [next.gate] at shut
      contradiction
    · cases Option.some.inj (next.gate.symm.trans same)
      exact ⟨w, next⟩
  | none =>
    cases m with
    | proceed n => exact ordered.proceed stored n
    | wait timeout | poll n | drop n => exact ⟨ordered.shut, by simp [GateCalls.move, stored]⟩
    | pass millis =>
      obtain ⟨gate, releases⟩ := l.passReleases millis
      refine ⟨?_, by simp [gate, stored]⟩
      rw [gate, releases]
      exact ordered.shut
    | release p =>
      refine ⟨fun _ r member => ?_, by simp [GateCalls.move, stored]⟩
      rcases List.mem_append.mp member with before | new
      · exact ordered.shut stored r before
      · rw [List.mem_singleton.mp new]

theorem Ordered.announcedOnce (ordered : l.Ordered) (announced : l.announced) :
    l.gate.outcome ≠ none ∧ ¬l.announcing := by
  obtain ⟨n, o, had⟩ := announced
  refine ⟨ordered.released had rfl, ?_⟩
  rintro ⟨m, q, notifying⟩
  cases ordered.once had notifying rfl rfl
  rw [had] at notifying
  cases notifying

theorem moveAnnounced (announced : l.announced) : (l.move m).announced := by
  obtain ⟨n, o, had⟩ := announced
  cases m with
  | release p =>
    exact ⟨n, o, (List.getElem?_append_left (List.getElem?_eq_some_iff.mp had).1).trans had⟩
  | wait timeout | poll k | drop k => exact ⟨n, o, had⟩
  | pass millis => exact ⟨n, o, (l.passReleases millis).2 ▸ had⟩
  | proceed k =>
    have step := proceeds l k
    change (l.proceed k).announced
    generalize l.proceed k = l' at step
    have kept {s : Release} {p : Outcome} {q : Progress} (found : l.releases[k]? = some ⟨p, q⟩)
        (early : q ≠ .returned true) : (l.releases.set k s)[n]? = some ⟨o, .returned true⟩ := by
      have apart : k ≠ n := by
        rintro rfl
        rw [had] at found
        cases found
        contradiction
      rwa [List.getElem?_set_ne apart]
    cases step with
    | spent neither => exact ⟨n, o, had⟩
    | late found _ | first found _ | notifies found => exact ⟨n, o, kept found (by decide)⟩

theorem moveGate {o : Outcome} (stored : l.gate.outcome = some o) :
    (l.move m).gate.outcome = some o := by
  cases m with
  | release p | wait timeout | poll k | drop k => exact stored
  | pass millis => rwa [(l.passReleases millis).1]
  | proceed k =>
    have step := proceeds l k
    change (l.proceed k).gate.outcome = some o
    generalize l.proceed k = l' at step
    cases step with
    | spent neither => exact stored
    | late _ _ | notifies _ => exact stored
    | first _ shut =>
      rw [stored] at shut
      contradiction

theorem moveAnnouncing (announcing : l.announcing)
    (unnotified : ∀ n o, m = .proceed n → l.releases[n]? ≠ some ⟨o, .notifying⟩) :
    (l.move m).announcing := by
  obtain ⟨n, o, had⟩ := announcing
  cases m with
  | release p =>
    exact ⟨n, o, (List.getElem?_append_left (List.getElem?_eq_some_iff.mp had).1).trans had⟩
  | wait timeout | poll k | drop k => exact ⟨n, o, had⟩
  | pass millis => exact ⟨n, o, (l.passReleases millis).2 ▸ had⟩
  | proceed k =>
    have apart : k ≠ n := by
      rintro rfl
      exact unnotified k o rfl had
    have step := proceeds l k
    change (l.proceed k).announcing
    generalize l.proceed k = l' at step
    cases step with
    | spent neither => exact ⟨n, o, had⟩
    | late found _ | first found _ | notifies found =>
      exact ⟨n, o, (List.getElem?_set_ne apart).trans had⟩

theorem moveStores (shut : l.gate.outcome = none) (released : (l.move m).gate.outcome ≠ none) :
    (l.move m).announcing := by
  cases m with
  | release p | wait timeout | poll k | drop k => exact absurd shut released
  | pass millis =>
    rw [(l.passReleases millis).1] at released
    exact absurd shut released
  | proceed k =>
    have step := proceeds l k
    change (l.proceed k).gate.outcome ≠ none at released
    change (l.proceed k).announcing
    generalize l.proceed k = l' at step released
    cases step with
    | spent neither => exact absurd shut released
    | late _ _ | notifies _ => exact absurd shut released
    | @first o had _ => exact ⟨k, o, setOwn had _⟩

theorem moveNow (l : GateCalls) (m : Move) : (l.move m).now = l.now ∨
    ∃ millis, m = .pass millis ∧ l.mayPass millis = true ∧ (l.move m).now = l.now + millis := by
  cases m with
  | release p | wait timeout | poll k | drop k => exact .inl rfl
  | proceed k =>
    have step := proceeds l k
    change (l.proceed k).now = l.now ∨ _
    generalize l.proceed k = l' at step
    cases step <;> exact .inl rfl
  | pass millis =>
    simp only [move]
    split
    · rename_i allowed
      exact .inr ⟨millis, rfl, allowed, rfl⟩
    · exact .inl rfl

theorem moveLater (l : GateCalls) (m : Move) : l.now ≤ (l.move m).now := by
  rcases l.moveNow m with same | ⟨millis, _, _, same⟩ <;> omega

end

section
variable {l : GateCalls} {m : Move} {i : Nat} {g : WaitCall}

structure Fits (l : GateCalls) (g : WaitCall) : Prop where
  notified : g.stage.isNotified = true → l.announced
  awake : g.stage.isSleeping = true → l.gate.outcome ≠ none → l.announcing
  told : ∀ notice, g.stage = .answered notice →
    (∀ o, notice.outcome = some o → l.gate.outcome = some o) ∧
    (notice.outcome = none → g.deadline = some notice.time) ∧ notice.time ≤ l.now
  early : g.isWaiting = true → ∀ d, g.deadline = some d → l.now ≤ d

theorem pollSame (g : WaitCall) (now : Nat) (gate : Gate) :
    (g.poll now gate).since = g.since ∧ (g.poll now gate).timeout = g.timeout := by
  unfold WaitCall.poll
  split <;> (try split) <;> exact ⟨rfl, rfl⟩

theorem notifySame (g : WaitCall) : g.notify.since = g.since ∧ g.notify.timeout = g.timeout := by
  unfold WaitCall.notify
  split <;> exact ⟨rfl, rfl⟩

theorem dropSame (g : WaitCall) : g.drop.since = g.since ∧ g.drop.timeout = g.timeout := by
  unfold WaitCall.drop
  split <;> exact ⟨rfl, rfl⟩

theorem deadlineSame {g g' : WaitCall} (same : g'.since = g.since ∧ g'.timeout = g.timeout) :
    g'.deadline = g.deadline := by
  rw [WaitCall.deadline, WaitCall.deadline, same.1, same.2]

theorem notifyWaiting (g : WaitCall) : g.notify.isWaiting = g.isWaiting := by
  cases stage : g.stage <;> simp [WaitCall.notify, WaitCall.isWaiting, stage]

theorem dueDeadline {now : Nat} (due : g.isDue now = true) :
    ∃ d, g.deadline = some d ∧ d ≤ now := by
  simpa [WaitCall.isDue, Option.any_eq_true] using due

theorem Fits.put (fits : l.Fits g) (waited : g.isWaiting = true) {stage : WaitStage}
    (notified : stage.isNotified = true → l.announced)
    (awake : stage.isSleeping = true → l.gate.outcome ≠ none → l.announcing)
    (told : ∀ notice, stage = .answered notice →
      (∀ o, notice.outcome = some o → l.gate.outcome = some o) ∧
      (notice.outcome = none → g.deadline = some notice.time) ∧ notice.time ≤ l.now) :
    l.Fits { g with stage } :=
  ⟨notified, awake, told, fun _ => fits.early waited⟩

theorem Fits.poll (fits : l.Fits g) : l.Fits (g.poll l.now l.gate) := by
  have notified := fits.notified
  have awake := fits.awake
  cases stage : g.stage with
  | unregistered =>
    simp only [WaitCall.poll, stage]
    exact fits.put (by simp [WaitCall.isWaiting, stage]) (by simp [WaitStage.isNotified])
      (by simp [WaitStage.isSleeping]) (by simp)
  | registered c =>
    rw [stage] at notified
    have waited : g.isWaiting = true := by simp [WaitCall.isWaiting, stage]
    cases stored : l.gate.outcome with
    | none =>
      simp only [WaitCall.poll, stage, stored]
      exact fits.put waited notified (fun _ open_ => absurd stored open_) (by simp)
    | some o =>
      simp only [WaitCall.poll, stage, stored]
      refine fits.put waited (by simp [WaitStage.isNotified]) (by simp [WaitStage.isSleeping]) ?_
      rintro notice told
      cases told
      exact ⟨fun p same => stored.trans same, by simp, Nat.le_refl _⟩
  | parked c =>
    have waited : g.isWaiting = true := by simp [WaitCall.isWaiting, stage]
    cases c with
    | true =>
      simp only [WaitCall.poll, stage]
      exact fits.put waited (by simp [WaitStage.isNotified]) (by simp [WaitStage.isSleeping]) (by simp)
    | false =>
      rw [stage] at awake
      simp only [WaitCall.poll, stage]
      exact fits.put waited (by simp [WaitStage.isNotified]) awake (by simp)
  | timing c =>
    rw [stage] at notified awake
    have waited : g.isWaiting = true := by simp [WaitCall.isWaiting, stage]
    cases due : g.isDue l.now with
    | false =>
      simp only [WaitCall.poll, stage, due]
      exact fits.put waited notified awake (by simp)
    | true =>
      simp only [WaitCall.poll, stage, due]
      refine fits.put waited (by simp [WaitStage.isNotified]) (by simp [WaitStage.isSleeping]) ?_
      rintro notice told
      cases told
      obtain ⟨d, at_, passed⟩ := dueDeadline due
      refine ⟨by simp, fun _ => ?_, Nat.le_refl _⟩
      rw [at_, Nat.le_antisymm passed (fits.early waited d at_)]
  | answered notice | dropped =>
    simp only [WaitCall.poll, stage]
    exact fits

theorem Fits.notify (fits : l.Fits g) {l' : GateCalls} (announced : l'.announced)
    (now : l'.now = l.now) (gate : l'.gate = l.gate) : l'.Fits g.notify := by
  have sleeps : g.notify.stage.isSleeping = false := by
    cases stage : g.stage <;> simp [WaitCall.notify, WaitStage.isSleeping, stage]
  have deadline := deadlineSame (notifySame g)
  refine ⟨fun _ => announced, by simp [sleeps], fun notice answered => ?_, fun waiting d at_ => ?_⟩
  · rw [deadline, gate, now]
    refine fits.told notice ?_
    cases stage : g.stage <;> simp [WaitCall.notify, stage] at answered ⊢
    exact answered
  · rw [notifyWaiting] at waiting
    rw [deadline] at at_
    rw [now]
    exact fits.early waiting d at_

theorem Fits.drop (fits : l.Fits g) : l.Fits g.drop := by
  unfold WaitCall.drop
  split
  · rename_i waited
    exact fits.put waited (by simp [WaitStage.isNotified]) (by simp [WaitStage.isSleeping]) (by simp)
  · exact fits

theorem mayPassRest {millis : Nat} (allowed : l.mayPass millis = true) :
    l.isAtRest = true ∧ ∀ g ∈ l.waits, g.isWaiting = true → ∀ d, g.deadline = some d →
      l.now + millis ≤ d := by
  simp only [mayPass, Bool.and_eq_true, List.all_eq_true, Bool.or_eq_true, Bool.not_eq_true',
    Option.all_eq_true, decide_eq_true_eq] at allowed
  refine ⟨allowed.1, fun g member waiting d at_ => ?_⟩
  rcases allowed.2 g member with idle | within
  · rw [waiting] at idle
    contradiction
  · exact within d at_

theorem Fits.kept (fits : l.Fits g) (was : l.waits[i]? = some g)
    (unnotified : ∀ n o, m = .proceed n → l.releases[n]? ≠ some ⟨o, .notifying⟩) :
    (l.move m).Fits g where
  notified so := moveAnnounced (fits.notified so)
  awake sleeps released := by
    by_cases shut : l.gate.outcome = none
    · exact moveStores shut released
    · exact moveAnnouncing (fits.awake sleeps shut) unnotified
  told notice answered := by
    obtain ⟨outcome, expired, before⟩ := fits.told notice answered
    exact ⟨fun o told => moveGate (outcome o told), expired, Nat.le_trans before (l.moveLater m)⟩
  early waiting d at_ := by
    rcases l.moveNow m with same | ⟨millis, _, allowed, later⟩
    · rw [same]
      exact fits.early waiting d at_
    · rw [later]
      exact (mayPassRest allowed).2 g (List.mem_of_getElem? was) waiting d at_

structure Sound (l : GateCalls) : Prop where
  ordered : l.Ordered
  fits : ∀ g ∈ l.waits, l.Fits g

theorem soundOpened : opened.Sound where
  ordered := ⟨by simp [opened], by simp [opened, Gate.shut]⟩
  fits := by simp [opened]

theorem Sound.move (sound : l.Sound) (m : Move) : (l.move m).Sound where
  ordered := sound.ordered.move m
  fits g' member := by
    obtain ⟨i, found⟩ := List.getElem?_of_mem member
    have became := becomes found
    cases became with
    | stays was unnotified others =>
      exact (sound.fits g' (List.mem_of_getElem? was)).kept was unnotified
    | polls was =>
      have fits := (sound.fits _ (List.mem_of_getElem? was)).poll
      exact ⟨fits.notified, fits.awake, fits.told, fits.early⟩
    | drops was =>
      have fits := (sound.fits _ (List.mem_of_getElem? was)).drop
      exact ⟨fits.notified, fits.awake, fits.told, fits.early⟩
    | @notified n o g was notifying =>
      have fits := sound.fits g (List.mem_of_getElem? was)
      have step := proceeds l n
      change (l.proceed n).Fits g.notify
      generalize l.proceed n = l' at step
      cases step with
      | late had _ | first had _ =>
        rw [notifying] at had
        cases had
      | spent neither => exact absurd notifying (neither o).2
      | notifies had => exact fits.notify ⟨n, _, setOwn had _⟩ rfl rfl
    | @enters timeout last =>
      refine ⟨by simp [WaitStage.isNotified], by simp [WaitStage.isSleeping], by simp, fun _ d at_ => ?_⟩
      obtain ⟨t, -, rfl⟩ := Option.map_eq_some_iff.mp at_
      exact Nat.le_add_right _ _

theorem Sound.play (sound : l.Sound) (moves : List Move) : (l.play moves).Sound := by
  induction moves generalizing l with
  | nil => exact sound
  | cons m rest ih => exact ih (sound.move m)

theorem restQuiet (rest : l.isAtRest = true) : ¬l.announcing := by
  rintro ⟨n, o, had⟩
  simp only [isAtRest, Bool.and_eq_true, List.all_eq_true] at rest
  have returned := rest.1 _ (List.mem_of_getElem? had)
  contradiction

theorem restWaiting (rest : l.isAtRest = true) (member : g ∈ l.waits) (waiting : g.isWaiting = true) :
    g.stage = .parked false ∧ g.isDue l.now = false := by
  simp only [isAtRest, Bool.and_eq_true, List.all_eq_true] at rest
  rcases WaitCall.restStage (rest.2 g member) with ⟨notice, answered⟩ | dropped | parked
  · simp [WaitCall.isWaiting, answered] at waiting
  · simp [WaitCall.isWaiting, dropped] at waiting
  · exact parked

theorem Sound.restShut (sound : l.Sound) (rest : l.isAtRest = true) (member : g ∈ l.waits)
    (waiting : g.isWaiting = true) : l.gate.outcome = none := by
  obtain ⟨parked, -⟩ := restWaiting rest member waiting
  by_cases shut : l.gate.outcome = none
  · exact shut
  · exact absurd ((sound.fits g member).awake (by simp [parked, WaitStage.isSleeping]) shut)
      (restQuiet rest)

theorem Sound.restOverdue (sound : l.Sound) (rest : l.isAtRest = true) (shut : l.gate.outcome = none)
    (member : g ∈ l.waits) {due : Nat} (at_ : g.deadline = some due) (late : due ≤ l.now) :
    g.stage = .answered ⟨due, none⟩ ∨ g.stage = .dropped := by
  simp only [isAtRest, Bool.and_eq_true, List.all_eq_true] at rest
  rcases WaitCall.restStage (rest.2 g member) with ⟨notice, answered⟩ | dropped | ⟨-, early⟩
  · obtain ⟨outcome, expired, -⟩ := (sound.fits g member).told notice answered
    have silent : notice.outcome = none := by
      cases told : notice.outcome with
      | none => rfl
      | some o => exact absurd ((outcome o told).symm.trans shut) (by simp)
    have time : notice.time = due := Option.some.inj ((expired silent).symm.trans at_)
    exact .inl (by rw [answered, ← time, ← silent])
  · exact .inr dropped
  · simp [WaitCall.isDue, at_, Nat.not_lt.mpr late] at early

end

end GateCalls

end ModelServing
