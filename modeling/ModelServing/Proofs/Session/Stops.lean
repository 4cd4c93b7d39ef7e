import ModelServing.Proofs.Rehearsal
import ModelServing.Proofs.Session.Endings
import ModelServing.Proofs.Session.Refusals

/-! Those who stop a run and wait do nothing to it that one who does not wait would not do. What they
are told is how their run ended, or that their time was up before it did. -/
namespace ModelServing.Session

namespace Timeline

def Deed.unawaited : Deed → Deed
  | .stop _ => .act .stop
  | deed => deed

def Sight.told : Sight → List (Nat × Event)
  | .called c => c.told
  | _ => []

section
variable {t : Timeline} {s : Stop} {n due : Nat} {o : Outcome}

theorem performUnawaited (t : Timeline) (setup : Setup) (deed : Deed) :
    ({ t with stops := [] } : Timeline).perform setup deed.unawaited =
      ((t.perform setup deed).1, { (t.perform setup deed).2 with stops := [] }) := by
  cases deed with
  | act a | stop timeout | read | pass millis => rfl
  | look n => simp [perform, Deed.unawaited]

theorem playUnawaited (t : Timeline) (setup : Setup) (deeds : List Deed) :
    ({ t with stops := [] } : Timeline).play setup (deeds.map Deed.unawaited) =
      ((t.play setup deeds).1, { (t.play setup deeds).2 with stops := [] }) := by
  induction deeds generalizing t with
  | nil => rfl
  | cons deed rest ih => simp only [List.map_cons, play, performUnawaited, ih]

theorem actPasses (t : Timeline) (setup : Setup) (a : Action) :
    t.session.core.Passes (t.act setup a).2.session.core := by
  obtain ⟨operations, same⟩ := t.session.actPerforms setup a
  change t.session.core.Passes (t.session.act setup a).session.core
  rw [same]
  exact .calls operations

theorem performPasses (t : Timeline) (setup : Setup) (deed : Deed) :
    t.session.core.Passes (t.perform setup deed).2.session.core := by
  cases deed with
  | act a => exact t.actPasses setup a
  | stop timeout => exact t.actPasses setup .stop
  | read => exact t.session.core.readPasses
  | look n | pass millis => exact .calls []

theorem playCore {motive : Core → Prop} (setup : Setup) (deeds : List Deed)
    (start : motive t.session.core) (passes : ∀ c c', motive c → c.Passes c' → motive c') :
    motive (t.play setup deeds).2.session.core := by
  induction deeds generalizing t with
  | nil => exact start
  | cons deed rest ih => exact ih (passes _ _ start (t.performPasses setup deed))

theorem playKeepsGate (setup : Setup) (deeds : List Deed) {generation : Nat}
    (stored : (t.session.core.gate generation).outcome = some o) :
    ((t.play setup deeds).2.session.core.gate generation).outcome = some o :=
  playCore (motive := fun c => (c.gate generation).outcome = some o) setup deeds stored
    fun _ _ held passes => passes.keepsGate held

theorem actAccounts {queued} (accounts : t.session.core.Accounts queued) (setup : Setup)
    (a : Action) :
    (t.act setup a).2.session.core.Accounts (queued ++ (t.act setup a).1.told) := by
  obtain ⟨operations, same⟩ := t.session.actPerforms setup a
  have next := accounts.calls operations
  rw [← same] at next
  exact next

theorem performAccounts {queued} (accounts : t.session.core.Accounts queued) (setup : Setup)
    (deed : Deed) :
    (t.perform setup deed).2.session.core.Accounts (queued ++ (t.perform setup deed).1.told) := by
  cases deed with
  | act a => exact actAccounts accounts setup a
  | stop timeout => exact actAccounts accounts setup .stop
  | look n | pass millis =>
    change t.session.core.Accounts (queued ++ [])
    rwa [List.append_nil]
  | read =>
    change t.session.core.read.2.Accounts (queued ++ [])
    rw [List.append_nil]
    exact accounts.reads

theorem playAccounts {queued} (accounts : t.session.core.Accounts queued) (setup : Setup)
    (deeds : List Deed) :
    (t.play setup deeds).2.session.core.Accounts
      (queued ++ (t.play setup deeds).1.flatMap Sight.told) := by
  induction deeds generalizing t queued with
  | nil => simpa [play] using accounts
  | cons deed rest ih =>
    have next := ih (performAccounts accounts setup deed)
    rw [List.append_assoc] at next
    exact next

theorem performStop (found : t.stops[n]? = some s)
    (sound : s.waiter.Sound due t.now (t.session.core.gate s.generation)) (setup : Setup)
    (deed : Deed) :
    let t' := (t.perform setup deed).2
    ∃ w, t'.stops[n]? = some { s with waiter := w } ∧
      w.Sound due t'.now (t'.session.core.gate s.generation) ∧
      s.waiter.Later (t.session.core.gate s.generation) w := by
  intro t'
  have within := (List.getElem?_eq_some_iff.mp found).1
  have keeps (o : Outcome) : (t.session.core.gate s.generation).outcome = some o →
      (t'.session.core.gate s.generation).outcome = some o :=
    (t.performPasses setup deed).keepsGate
  cases deed with
  | act a | read => exact ⟨s.waiter, found, sound.stays keeps, .refl _ _⟩
  | stop timeout =>
    exact ⟨s.waiter, (List.getElem?_append_left within).trans found, sound.stays keeps, .refl _ _⟩
  | look k =>
    by_cases own : k = n
    · subst own
      refine ⟨_, ?_, sound.look, s.waiter.lookLater _ _⟩
      simp [t', perform, found, Stop.look]
    · refine ⟨s.waiter, ?_, sound, .refl _ _⟩
      simp [t', perform, own, found]
  | pass millis =>
    have looked := s.waiter.lookLater t.now (t.session.core.gate s.generation)
    have shut (silent : ((s.waiter.look t.now (t.session.core.gate s.generation)).expire
        t.now).notice = none) := (sound.lookSilent silent).1
    refine ⟨_, ?_, sound.look.expire (Nat.le_add_right t.now millis),
      looked.trans (Waiter.expireLater shut _) fun o => id⟩
    simp [t', perform, pass, look, found, Stop.look, Stop.expire]

theorem playStop (found : t.stops[n]? = some s)
    (sound : s.waiter.Sound due t.now (t.session.core.gate s.generation)) (setup : Setup)
    (deeds : List Deed) :
    let t' := (t.play setup deeds).2
    ∃ w, t'.stops[n]? = some { s with waiter := w } ∧
      w.Sound due t'.now (t'.session.core.gate s.generation) ∧
      s.waiter.Later (t.session.core.gate s.generation) w := by
  induction deeds generalizing t s with
  | nil => exact ⟨s.waiter, found, sound, .refl _ _⟩
  | cons deed rest ih =>
    obtain ⟨w, next, held, later⟩ := performStop found sound setup deed
    obtain ⟨w', last, holds, onward⟩ := ih next held
    exact ⟨w', last, holds, later.trans onward fun o => (t.performPasses setup deed).keepsGate⟩

theorem answerFound (found : t.stops[n]? = some s) :
    t.answer? n = (s.look t.now t.session.core).answer? := by
  simp [answer?, look, found]

theorem answerTold (found : t.stops[n]? = some s) {time : Nat} {outcome : Option Outcome}
    (told : ((s.waiter.look t.now (t.session.core.gate s.generation)).expire t.now).notice =
      some ⟨time, outcome⟩) : t.answer? n = some (s.result outcome) := by
  rw [answerFound found, Stop.answer?, Stop.look]
  dsimp only
  rw [told]
  rfl

def Sound (t : Timeline) : Prop := ∀ (n : Nat) (s : Stop), t.stops[n]? = some s →
  ∃ due, s.waiter.Sound due t.now (t.session.core.gate s.generation)

theorem stopBegins (t : Timeline) (setup : Setup) (timeout : Duration) :
    let t' := (t.perform setup (.stop timeout)).2
    t'.stops = t.stops ++ [.begin timeout t'.now t'.session.core] ∧ t'.now = t.now ∧
      t'.session.core.generation = t.session.core.generation := by
  refine ⟨rfl, rfl, ?_⟩
  change (t.session.act setup .stop).session.core.generation = _
  rw [Session.act, launchIfCore]
  rfl

theorem beginSound (timeout : Duration) (now : Nat) (core : Core) :
    (Stop.begin timeout now core).waiter.Sound (now + timeout.millis) now
      (core.gate core.generation) := Waiter.startSound now timeout.millis _

theorem performFew (t : Timeline) (setup : Setup) (deed : Deed) {s : Stop}
    (found : (t.perform setup deed).2.stops[n]? = some s) :
    (∃ before, t.stops[n]? = some before) ∨
      ∃ timeout, deed = .stop timeout ∧ n = t.stops.length := by
  by_cases within : n < t.stops.length
  · exact .inl ⟨_, List.getElem?_eq_getElem within⟩
  · have known := (List.getElem?_eq_some_iff.mp found).1
    cases deed with
    | stop timeout =>
      rw [(t.stopBegins setup timeout).1, List.length_append, List.length_singleton] at known
      exact .inr ⟨timeout, rfl, by omega⟩
    | act a | read => exact absurd known within
    | look k => exact absurd (by simpa [perform] using known) within
    | pass millis => exact absurd (by simpa [perform, pass, look] using known) within

theorem Sound.perform (sound : t.Sound) (setup : Setup) (deed : Deed) :
    (t.perform setup deed).2.Sound := by
  intro n s found
  rcases performFew t setup deed found with ⟨before, was⟩ | ⟨timeout, rfl, rfl⟩
  · obtain ⟨due, held⟩ := sound n before was
    obtain ⟨w, same, holds, -⟩ := performStop was held setup deed
    cases Option.some.inj (found.symm.trans same)
    exact ⟨due, holds⟩
  · obtain ⟨stops, now, -⟩ := t.stopBegins setup timeout
    rw [stops, List.getElem?_concat_length] at found
    cases Option.some.inj found
    rw [now]
    exact ⟨_, beginSound timeout t.now _⟩

theorem soundPlayed (setup : Setup) (deeds : List Deed) : (opened.play setup deeds).2.Sound := by
  have nobody : opened.Sound := by
    intro n s found
    simp [opened] at found
  generalize opened = t at nobody
  induction deeds generalizing t with
  | nil => exact nobody
  | cons deed rest ih => exact ih _ (nobody.perform setup deed)

theorem soundAnswer (sound : s.waiter.Sound due t.now (t.session.core.gate s.generation)) {x}
    (told : s.answer? = some x) : x = .error (.timeout s.timeout) ∨
      ∃ o, (t.session.core.gate s.generation).outcome = some o ∧ x = o.toResult := by
  obtain ⟨⟨time, outcome⟩, given, rfl⟩ := Option.map_eq_some_iff.mp told
  cases outcome with
  | none => exact .inl rfl
  | some o => exact .inr ⟨o, sound.told time o given, rfl⟩

theorem playBegun (t : Timeline) (setup : Setup) (timeout : Duration) (prior : List Deed) :
    let p := (t.play setup (.stop timeout :: prior)).2
    let gate := p.session.core.gate t.session.core.generation
    ∃ w, p.stops[t.stops.length]? = some ⟨t.session.core.generation, timeout, w⟩ ∧
      w.Sound (t.now + timeout.millis) p.now gate ∧
      (prior = [] → ∀ o, gate.outcome = some o → w.Heeds o) := by
  intro p gate
  obtain ⟨stops, now, generation⟩ := t.stopBegins setup timeout
  have whole : p = ((t.perform setup (.stop timeout)).2.play setup prior).2 := rfl
  generalize (t.perform setup (.stop timeout)).2 = t' at stops now generation whole
  have begun : t'.stops[t.stops.length]? = some (.begin timeout t'.now t'.session.core) := by
    rw [stops, List.getElem?_concat_length]
  obtain ⟨w, found, held, passed⟩ := playStop begun (beginSound timeout t'.now _) setup prior
  rw [← whole] at found held
  rw [show (Stop.begin timeout t'.now t'.session.core).generation = t.session.core.generation
    from generation] at found held
  refine ⟨w, found, by rwa [now] at held, ?_⟩
  rintro rfl o stored
  refine passed.heeds ?_ (Waiter.startHeeds _ _ ?_)
  all_goals
    rw [show t' = p from whole.symm]
    change (p.session.core.gate p.session.core.generation).outcome = some o
    rwa [show p.session.core.generation = t.session.core.generation from whole ▸ generation]

theorem playAnswers (found : t.stops[n]? = some s)
    (sound : s.waiter.Sound due t.now (t.session.core.gate s.generation)) (setup : Setup)
    (deeds : List Deed) :
    let gate := t.session.core.gate s.generation
    let t' := (t.play setup deeds).2
    (∀ o, gate.outcome = some o → s.waiter.Heeds o → t'.answer? n = some o.toResult) ∧
    (gate.outcome = none →
      (t.now < due → t.answer? n = none) ∧
      (due ≤ t.now → t.answer? n = some (.error (.timeout s.timeout))) ∧
      (due < t.now → t'.answer? n = some (.error (.timeout s.timeout)))) := by
  intro gate t'
  obtain ⟨w, last, held, passed⟩ := playStop found sound setup deeds
  refine ⟨fun o stored heeds => ?_, fun shut => ⟨fun early => ?_, fun late => ?_, fun late => ?_⟩⟩
  · have given := playKeepsGate setup deeds stored
    obtain ⟨time, told⟩ := Waiter.lookLearns given (passed.heeds stored heeds) t'.now
    exact answerTold last told
  · rw [answerFound found, Stop.answer?, Stop.look]
    dsimp only
    rw [sound.lookWaits shut early]
    rfl
  · obtain ⟨time, told⟩ := sound.lookOver shut late
    exact answerTold found told
  · obtain ⟨time, before⟩ := sound.overdue shut late
    have told := passed.kept _ before
    have unmoved := congrArg Waiter.notice
      (Waiter.lookTold told t'.now (t'.session.core.gate s.generation))
    exact answerTold last (unmoved.trans told)

theorem playStopped {queued} (accounts : t.session.core.Accounts queued) (setup : Setup)
    (timeout : Duration) (deeds : List Deed) :
    let generation := t.session.core.generation
    let c := (t.play setup (.stop timeout :: deeds)).2.session.core
    generation ≤ c.generation ∧
      (c.generation = generation → c.run.stopRequested = true ∨ c.run.phase = .closed) := by
  intro generation
  refine playCore (motive := fun c => generation ≤ c.generation ∧
    (c.generation = generation → c.run.stopRequested = true ∨ c.run.phase = .closed))
    setup deeds ?_ ?_
  · have requested := Run.requestStopLasts fun cancelled =>
      (accounts.current.cancelledGate cancelled).1
    refine ⟨Nat.le_of_eq (t.stopBegins setup timeout).2.2.symm, fun _ => ?_⟩
    change (t.session.act setup .stop).session.core.run.stopRequested = true ∨
      (t.session.act setup .stop).session.core.run.phase = .closed
    rw [Session.act, launchIfCore]
    exact requested
  · rintro c c' ⟨known, ended⟩ passes
    obtain ⟨grows, onward⟩ := passes.later
    refine ⟨Nat.le_trans known grows, fun same => ?_⟩
    have far := onward (by omega)
    rcases ended (by omega) with requested | closed
    · exact .inl (far.stops requested)
    · have rank := far.phase
      rw [closed] at rank
      exact .inr (Run.closedRank rank)

end

end Timeline

open Timeline (Deed Sight)

theorem stopsObserve (setup : Setup) (deeds : List Deed) :
    let t := (Timeline.opened.play setup deeds).2
    let sights := (Timeline.opened.play setup deeds).1
    Timeline.opened.play setup (deeds.map Deed.unawaited) = (sights, { t with stops := [] }) ∧
    (∀ generation r, t.session.core.run? generation = some r →
      let ends := (entriesOf (sights.flatMap Sight.told) generation).filter Event.isTerminal
      (r.phase = .closed → ∃ last, ends = [last] ∧ r.gate.outcome = last.outcome?) ∧
      (r.phase ≠ .closed → ends = [] ∧
        r.gate.outcome = if generation = t.session.core.generation then none else some .reset)) ∧
    (∀ a ∈ t.stops, ∀ b ∈ t.stops, a.generation = b.generation →
      ∀ x y, a.answer? = some x → b.answer? = some y →
        x = .error (.timeout a.timeout) ∨ y = .error (.timeout b.timeout) ∨ x = y) ∧
    (∀ timeout prior later,
      let n := t.stops.length
      let generation := t.session.core.generation
      let due := t.now + timeout.millis
      let p := (t.play setup (.stop timeout :: prior)).2
      let c := p.session.core
      let m := (p.play setup later).2
      (prior = [] ∨ p.now < due →
        ((c.gate generation).outcome = some .completed → m.answer? n = some (.ok ())) ∧
        (∀ e, (c.gate generation).outcome = some (.failed e) →
          m.answer? n = some (.error (.api e))) ∧
        ((c.gate generation).outcome = some .cancelled → m.answer? n = some (.error .cancelled)) ∧
        ((c.gate generation).outcome = some .reset →
          m.answer? n = some (.error .sessionClosed))) ∧
      ((c.gate generation).outcome = none →
        (p.now < due → p.answer? n = none) ∧
        (due ≤ p.now → p.answer? n = some (.error (.timeout timeout))) ∧
        (due < p.now → m.answer? n = some (.error (.timeout timeout))) ∧
        generation = c.generation ∧ c.isLive generation = true ∧
        p.session.act setup .stop = ⟨p.session, .ok (), []⟩ ∧
        (c.cancel.gate generation).outcome = some .cancelled ∧
        ((c.ended generation).gate generation).outcome = some .completed ∧
        (∀ e, ((c.failed generation e).gate generation).outcome = some (.failed e.toApiError)) ∧
        ∀ d f last, f.json? ≠ none →
          d.ending? true (c.run.named d f).requestId f = some last →
          ((c.receive generation d f).1.gate generation).outcome = last.outcome?)) ∧
    ∀ config peers steps, ∃ deeds, (Timeline.opened.play setup deeds).2 =
      ((Rehearsal.begin config setup peers).after steps).toTimeline := by
  intro t sights
  have accounts : t.session.core.Accounts (sights.flatMap Sight.told) := by
    have whole := Timeline.playAccounts (t := Timeline.opened) Core.accountsNew setup deeds
    rwa [List.nil_append] at whole
  have sound : t.Sound := Timeline.soundPlayed setup deeds
  refine ⟨Timeline.opened.playUnawaited setup deeds, fun generation r found =>
    (accounts.run? found).ends, ?_, ?_, fun config => Rehearsal.rehearsalPlays config setup⟩
  · intro a inA b inB same x y toldA toldB
    obtain ⟨i, foundA⟩ := List.getElem?_of_mem inA
    obtain ⟨j, foundB⟩ := List.getElem?_of_mem inB
    obtain ⟨_, soundA⟩ := sound i a foundA
    obtain ⟨_, soundB⟩ := sound j b foundB
    rcases Timeline.soundAnswer soundA toldA with late | ⟨o, stored, rfl⟩
    · exact .inl late
    · rcases Timeline.soundAnswer soundB toldB with late | ⟨o', stored', rfl⟩
      · exact .inr (.inl late)
      · rw [same, stored'] at stored
        cases Option.some.inj stored
        exact .inr (.inr rfl)
  · intro timeout prior later n generation due p c m
    obtain ⟨w, found, held, heeds⟩ := t.playBegun setup timeout prior
    obtain ⟨answers, silent⟩ := Timeline.playAnswers found held setup later
    have told : c.Accounts _ := Timeline.playAccounts accounts setup (.stop timeout :: prior)
    obtain ⟨known, stopped⟩ := Timeline.playStopped accounts setup timeout prior
    have learns (x : Except Error Unit) (inTime : prior = [] ∨ p.now < due) {o : Outcome}
        (same : o.toResult = x) (stored : (c.gate generation).outcome = some o) :
        m.answer? n = some x :=
      same ▸ answers o stored (inTime.elim (heeds · o stored) (held.inTime · stored))
    refine ⟨fun inTime => ⟨?_, fun e => ?_, ?_, ?_⟩, fun shut => ?_⟩
    · exact learns (.ok ()) inTime ((Outcome.toResultIff _).1.mpr rfl)
    · exact learns (.error (.api e)) inTime (((Outcome.toResultIff _).2.1 e).mpr rfl)
    · exact learns (.error .cancelled) inTime ((Outcome.toResultIff _).2.2.1.mpr rfl)
    · exact learns (.error .sessionClosed) inTime ((Outcome.toResultIff _).2.2.2.mpr rfl)
    · obtain ⟨current, live⟩ := told.shutLive known shut
      have requested : c.run.stopRequested = true :=
        (stopped current.symm).resolve_right (Core.liveOpen live)
      refine ⟨(silent shut).1, (silent shut).2.1, (silent shut).2.2, current, live,
        stopOver (.inl requested), Core.liveCancels live shut, Core.liveEnds live shut requested,
        Core.liveFails live shut, fun d f last json ending => Core.liveHears live shut json ?_⟩
      rwa [requested]

end ModelServing.Session
