import ModelServing.Proofs.Gate.Waiter
import ModelServing.Rehearsal.Step

/-! Rehearsals are timelines. Whatever a rehearsal does, its peers only decide which deeds come
next, so all that holds of every list of deeds holds of every rehearsal. -/
namespace ModelServing

namespace Session.Timeline

theorem playAppend (t : Timeline) (setup : Setup) (deeds more : List Deed) :
    (t.play setup (deeds ++ more)).2 = ((t.play setup deeds).2.play setup more).2 := by
  induction deeds generalizing t with
  | nil => rfl
  | cons deed rest ih => exact ih _

theorem passNothing (t : Timeline) : t.pass 0 = t.look := by
  have still (s : Stop) : (s.look t.now t.session.core).expire (t.now - 1) =
      s.look t.now t.session.core := by
    simp only [Stop.expire, Stop.look, Waiter.expireAgain, Nat.max_eq_left (Nat.sub_le t.now 1)]
  simp [pass, look, still]

end Session.Timeline

namespace Rehearsal
open Session (Timeline)

def Follows (r r' : Rehearsal) : Prop :=
  r'.setup = r.setup ∧ ∃ deeds, (r.toTimeline.play r.setup deeds).2 = r'.toTimeline

section
variable {r r' r'' : Rehearsal}

theorem Follows.trans (first : r.Follows r') (second : r'.Follows r'') : r.Follows r'' := by
  obtain ⟨setup, deeds, played⟩ := first
  obtain ⟨setup', more, ended⟩ := second
  refine ⟨setup'.trans setup, deeds ++ more, ?_⟩
  rw [Timeline.playAppend, played, ← setup, ended]

theorem followsSame (setup : r'.setup = r.setup) (timeline : r'.toTimeline = r.toTimeline) :
    r.Follows r' := ⟨setup, [], timeline.symm⟩

theorem Follows.refl (r : Rehearsal) : r.Follows r := followsSame rfl rfl

theorem Follows.same (follows : r.Follows r') (setup : r''.setup = r'.setup)
    (timeline : r''.toTimeline = r'.toTimeline) : r.Follows r'' :=
  follows.trans (followsSame setup timeline)

theorem meetSame (trace : Session.Trace) (r : Rehearsal) :
    (trace.foldl meet r).setup = r.setup ∧ (trace.foldl meet r).toTimeline = r.toTimeline := by
  induction trace generalizing r with
  | nil => exact ⟨rfl, rfl⟩
  | cons d rest ih =>
    obtain ⟨setup, timeline⟩ := ih (r.meet d)
    have met : (r.meet d).setup = r.setup ∧ (r.meet d).toTimeline = r.toTimeline := by
      obtain ⟨n, demand⟩ := d
      cases demand <;> exact ⟨rfl, rfl⟩
    exact ⟨setup.trans met.1, timeline.trans met.2⟩

theorem actFollows (r : Rehearsal) (action : Session.Action) : r.Follows (r.act action).2 := by
  obtain ⟨setup, timeline⟩ := meetSame (r.toTimeline.act r.setup action).1.trace
    { r with toTimeline := (r.toTimeline.act r.setup action).2 }
  exact ⟨setup, [.act action], timeline.symm⟩

theorem stopFollows (r : Rehearsal) (timeout : Duration) : r.Follows (r.stop timeout).2 := by
  obtain ⟨setup, timeline⟩ := meetSame (r.toTimeline.stop r.setup timeout).1.trace
    { r with toTimeline := (r.toTimeline.stop r.setup timeout).2 }
  exact ⟨setup, [.stop timeout], timeline.symm⟩

theorem readFollows (r : Rehearsal) : r.Follows r.read.2 := ⟨rfl, [.read], rfl⟩

theorem lookFollows (r : Rehearsal) : r.Follows r.look :=
  ⟨rfl, [.pass 0], r.toTimeline.passNothing⟩

theorem passFollows (r : Rehearsal) (millis : Nat) : r.Follows (r.pass millis) := by
  have passed : r.Follows { r with toTimeline := r.toTimeline.pass millis } :=
    ⟨rfl, [.pass millis], rfl⟩
  exact passed.trans (lookFollows _)

theorem settleWithinFollows (wakes : Nat) (r : Rehearsal) : r.Follows (settleWithin wakes r) := by
  induction wakes generalizing r with
  | zero => exact .refl r
  | succ wakes ih =>
    unfold settleWithin
    split
    · exact .refl r
    · rename_i n signal network _
      have heard : r.Follows { r with network } := followsSame rfl rfl
      exact (heard.trans (actFollows _ _)).trans (ih _)

theorem settleFollows (r : Rehearsal) : r.Follows r.settle :=
  (settleWithinFollows _ r).trans (lookFollows _)

theorem Follows.settle (follows : r.Follows r') : r.Follows r'.settle :=
  follows.trans r'.settleFollows

theorem cueFollows (r : Rehearsal) (c : Cue) : r.Follows (r.cue c) := by
  have cued : r.Follows { r with network := r.network.cue c } := followsSame rfl rfl
  exact cued.settle

theorem tellFollows (r : Rehearsal) (action : Session.Action) : r.Follows (r.tell action).2 :=
  (r.actFollows action).settle

theorem sendAllFollows (frames : List Frame) (r : Rehearsal) : r.Follows (r.sendAll frames).2 := by
  induction frames generalizing r with
  | nil => exact .refl r
  | cons f rest ih => exact (r.actFollows (.send f)).trans (ih _)

theorem commandFollows (r : Rehearsal) (c : Conversation.Command) : r.Follows (r.command c).2 := by
  unfold command Conversation.give
  split
  · exact r.settleFollows
  · rename_i f _
    have counted : r.Follows { r with commands := r.commands + 1 } := followsSame rfl rfl
    exact counted.trans (tellFollows _ (.send f))

theorem awaitStopFollows (cues : List Cue) (r : Rehearsal) (n : Nat) :
    r.Follows (r.awaitStop n cues) := by
  induction cues generalizing r with
  | nil =>
    unfold awaitStop
    split
    · exact r.passFollows _
    · exact .refl r
  | cons c rest ih => exact ((r.passFollows 1).trans (cueFollows _ c)).trans (ih _)

theorem stopDuringFollows (r : Rehearsal) (timeout : Duration) (cues : List Cue) :
    r.Follows (r.stopDuring timeout cues).2 :=
  (r.stopFollows timeout).settle.trans (awaitStopFollows cues _ _)

theorem awaitCallFollows (cues : List Cue) (r : Rehearsal) (call : Call) :
    r.Follows (r.awaitCall call cues).2 := by
  induction cues generalizing r call with
  | nil => exact followsSame rfl rfl
  | cons c rest ih =>
    have cued := (r.passFollows 1).trans (cueFollows _ c)
    exact (cued.same rfl rfl).trans (ih _ _)

theorem speakFollows (r : Rehearsal) (text : String) (cues : List Cue) :
    r.Follows (r.speak text cues).2 := by
  unfold speak
  dsimp only
  split
  · exact .refl r
  · rename_i setup _
    refine Follows.trans ?_ (awaitCallFollows cues _ _)
    exact followsSame rfl rfl

theorem drainFollows (attempts : Nat) (r : Rehearsal) : r.Follows (drainWithin attempts r).2 := by
  induction attempts generalizing r with
  | zero => exact .refl r
  | succ attempts ih =>
    have first := r.readFollows
    unfold drainWithin
    split
    · rename_i last
      rwa [last] at first
    · rename_i event r' more
      rw [more] at first
      exact first.trans (ih r')

theorem readEventFollows (r : Rehearsal) : r.Follows r.readEvent.2 := by
  have first := r.readFollows
  unfold readEvent
  split <;> rename_i same <;> rwa [same] at first

theorem nextFollows (reader : Session.Reader) (r : Rehearsal) :
    r.Follows (r.withCore (reader.next r.session.core).2.2) := by
  have first : r.Follows (r.withCore r.session.core.read.2) := r.readFollows
  unfold Session.Reader.next
  split
  · exact .refl r
  · split
    · rename_i same
      rwa [same] at first
    · rename_i same
      rw [same] at first
      dsimp only
      split <;> exact first

theorem nextAudioFollows (attempts : Nat) (reader : Session.Reader) (r : Rehearsal) :
    r.Follows (r.withCore (reader.nextAudioWithin attempts r.session.core).2.2) := by
  induction attempts generalizing reader r with
  | zero => exact .refl r
  | succ attempts ih =>
    have first := r.nextFollows reader
    unfold Session.Reader.nextAudioWithin
    split
    · rename_i reply reader' core same
      rw [same] at first
      split
      · exact first
      · exact first.trans (ih reader' (r.withCore core))
    all_goals
      rename_i same
      rwa [same] at first

theorem Follows.waitIfPending {α : Type} (reading : Session.Reading α) (follows : r.Follows r') :
    r.Follows (waitIfPending reading r') := by
  unfold Rehearsal.waitIfPending
  split
  · exact follows.trans (r'.passFollows 1)
  · exact follows

theorem performFollows (r : Rehearsal) (s : Step) : r.Follows (r.perform s).2 := by
  cases s with
  | rest => exact .refl r
  | cue c => exact r.cueFollows c
  | advance millis => exact r.passFollows millis
  | start | asyncStop | cancel | reset => exact r.tellFollows _
  | send frames => exact (sendAllFollows frames r).settle
  | command c => exact r.commandFollows c
  | stop timeout =>
    have begun : r.Follows { (r.stop timeout).2 with
        background := (r.stop timeout).2.background ++ [(r.stop timeout).1] } :=
      (r.stopFollows timeout).same rfl rfl
    exact begun.settle
  | stopDuring timeout cues => exact r.stopDuringFollows timeout cues
  | tryRead => exact r.readFollows
  | drain => exact drainFollows _ r
  | read => exact r.readEventFollows.waitIfPending _
  | nextReply =>
    have heard : r.Follows { r.withCore (r.reader.next r.session.core).2.2 with
        reader := (r.reader.next r.session.core).2.1 } := (r.nextFollows r.reader).same rfl rfl
    exact heard.waitIfPending _
  | nextAudio =>
    have heard : r.Follows { r.withCore (r.reader.nextAudio r.session.core).2.2 with
        reader := (r.reader.nextAudio r.session.core).2.1 } :=
      (nextAudioFollows _ r.reader r).same rfl rfl
    exact heard.waitIfPending _
  | speak text cues => exact r.speakFollows text cues

def after (r : Rehearsal) (steps : List Step) : Rehearsal :=
  steps.foldl (fun r s => (r.step s).2) r

theorem afterFollows (steps : List Step) (r : Rehearsal) : r.Follows (r.after steps) := by
  induction steps generalizing r with
  | nil => exact .refl r
  | cons s rest ih => exact ((r.performFollows s).trans (passFollows _ 1)).trans (ih _)

theorem rehearsalPlays (config : Config) (setup : Session.Setup) (peers : List Peer)
    (steps : List Step) : ∃ deeds,
      (Timeline.opened.play setup deeds).2 = ((begin config setup peers).after steps).toTimeline :=
  ((begin config setup peers).afterFollows steps).2

end

end Rehearsal

end ModelServing
