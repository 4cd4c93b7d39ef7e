import ModelServing.Proofs.Session.Passage

/-! What a wake-up can come to, whatever the signal and the stage: few kinds of moves, each with all
that decides it. Whoever needs to know what couriers do goes by these and not by the stages. -/
namespace ModelServing.Session

def Stage.isListening : Stage → Bool
  | .awaitingAck | .pumping _ => true
  | _ => false

theorem listeningUnderway {stage : Stage} (listening : stage.isListening = true) :
    stage.isUnderway = true ∧ stage ≠ .connecting := by
  cases stage <;> simp_all [Stage.isListening, Stage.isUnderway]

namespace Courier

def hears (c : Courier) : Signal → Option WireFrame
  | .arrived (.frame f) => if c.stage.isListening then some f else none
  | _ => none

theorem hearsFrame {c : Courier} {signal : Signal} {f : WireFrame} (heard : c.hears signal = some f) :
    signal = .arrived (.frame f) ∧ c.stage.isListening = true := by
  unfold hears at heard
  split at heard
  · split at heard
    · rename_i listening
      cases Option.some.inj heard
      exact ⟨rfl, listening⟩
    · contradiction
  · contradiction

theorem hearsListening {c : Courier} (listening : c.stage.isListening = true) (f : WireFrame) :
    c.hears (.arrived (.frame f)) = some f := if_pos listening

inductive Advances (setup : Setup) (c : Courier) : Stage → Prop where
  | awaitingAck (acknowledged : setup.dialect.awaitsAck = true)
      (silent : c.stage = .connecting → setup.dialect.opening setup.request
        (setup.ids.task c.generation) (setup.ids.event c.generation c.used) = none)
      (early : c.stage = .connecting ∨ ∃ f, c.stage = .opening f) : Advances setup c .awaitingAck
  | attaching (unacknowledged : setup.dialect.awaitsAck = false)
      (silent : c.stage = .connecting → setup.dialect.opening setup.request
        (setup.ids.task c.generation) (setup.ids.event c.generation c.used) = none)
      (early : c.stage = .connecting ∨ ∃ f, c.stage = .opening f) : Advances setup c .attaching
  | drained (pumping : c.stage = .pumping true) : Advances setup c (.pumping false)
  | sent {f} (sending : c.stage = .sending f) : Advances setup c (.pumping true)

theorem Advances.underway {setup : Setup} {c : Courier} {stage : Stage}
    (next : c.Advances setup stage) : c.stage.isUnderway = true := by
  cases next with
  | awaitingAck _ _ early | attaching _ _ early =>
    rcases early with at_ | ⟨f, at_⟩ <;> (rw [at_]; rfl)
  | drained at_ | sent at_ =>
    rw [at_]
    rfl

inductive Farewell (c : Courier) : List Demand → Prop where
  | silent : Farewell c []
  | polite (reason : String) (idle : c.stage.isListening = true ∨ c.stage = .attaching) :
      Farewell c [.closeNormally reason]

inductive Course (setup : Setup) (c : Courier) (core : Core) : Signal → Move → Prop where
  | stays {signal} (deaf : c.hears signal = none) : Course setup c core signal (c.stay core)
  | advances {signal stage} (deaf : c.hears signal = none) (next : Advances setup c stage) :
      Course setup c core signal ⟨{ c with stage }, core, []⟩
  | opens {f} (connecting : c.stage = .connecting) (first : setup.dialect.opening setup.request
        (setup.ids.task c.generation) (setup.ids.event c.generation c.used) = some f) :
      Course setup c core .connected ⟨{ c with stage := .opening f, used := c.used + 1 }, core,
        [.send f]⟩
  | attaches {core'} (attaching : c.stage = .attaching)
      (attached : core.attach c.generation true = (core', true)) :
      Course setup c core .onward ⟨{ c with stage := .pumping true }, core', []⟩
  | sends {f} (pumping : c.stage = .pumping true) (offered : core.offer c.generation = .frame f) :
      Course setup c core .outbound ⟨{ c with
        stage := .sending (setup.shaped c.generation c.used f), used := c.used + 1 },
        core.take c.generation, [.send (setup.shaped c.generation c.used f)]⟩
  | reads {f core' inbound stage} (listening : c.stage.isListening = true)
      (received : core.receive c.generation setup.dialect f = (core', .ok inbound))
      (goesOn : stage = c.stage ∧ (inbound = .delivered ∨ inbound = .started) ∨
        inbound = .started ∧ stage = .attaching) :
      Course setup c core (.arrived (.frame f)) ⟨{ c with stage }, core', []⟩
  | dismissed {f core' result failure demands} (listening : c.stage.isListening = true)
      (received : core.receive c.generation setup.dialect f = (core', result))
      (verdict : result = .ok .closed ∧ failure = none ∨ result = .ok .stale ∧ failure = none ∨
        ∃ e, result = .error e ∧ failure = some e)
      (farewell : c.Farewell demands) :
      Course setup c core (.arrived (.frame f)) (c.letGo core' failure demands)
  | departs {signal failure demands} (deaf : c.hears signal = none)
      (underway : c.stage.isUnderway = true)
      (farewell : c.Farewell demands) :
      Course setup c core signal (c.letGo core failure demands)
  | reports {failure} (leaving : c.stage = .leaving failure) :
      Course setup c core .onward (c.report core failure)

section
variable {setup : Setup} {c : Courier} {core : Core}

theorem attachRefused {core' : Core} {generation : Nat} {attended : Bool}
    (refused : core.attach generation attended = (core', false)) (attends : attended = true) :
    core' = core := by
  subst attends
  unfold Core.attach at refused
  split at refused
  · simp [Run.attach] at refused
  · exact (Prod.mk.inj refused).1.symm

theorem openedCourse {signal : Signal} (deaf : c.hears signal = none)
    (silent : c.stage = .connecting → setup.dialect.opening setup.request
      (setup.ids.task c.generation) (setup.ids.event c.generation c.used) = none)
    (early : c.stage = .connecting ∨ ∃ f, c.stage = .opening f) :
    Course setup c core signal (c.opened setup core) := by
  unfold opened
  split
  · rename_i acknowledged
    exact .advances deaf (.awaitingAck acknowledged silent early)
  · rename_i unacknowledged
    exact .advances deaf (.attaching (Bool.eq_false_iff.mpr unacknowledged) silent early)

theorem deliverCourse {f : WireFrame} {reason : String} {started : Courier → Core → Move}
    (listening : c.stage.isListening = true)
    (next : ∀ core', core.receive c.generation setup.dialect f = (core', .ok .started) →
      Course setup c core (.arrived (.frame f)) (started c core')) :
    Course setup c core (.arrived (.frame f)) (c.deliver setup core f reason started) := by
  have polite : c.Farewell [.closeNormally reason] := .polite reason (.inl listening)
  unfold deliver
  split
  · rename_i e received
    exact .dismissed listening received (.inr (.inr ⟨e, rfl, rfl⟩)) .silent
  · rename_i received
    exact .reads listening received (.inl ⟨rfl, .inl rfl⟩)
  · rename_i received
    exact next _ received
  · rename_i received
    exact .dismissed listening received (.inl ⟨rfl, rfl⟩) polite
  · rename_i received
    exact .dismissed listening received (.inr (.inl ⟨rfl, rfl⟩)) polite

theorem abortCourse (underway : c.stage.isUnderway = true) {demands : List Demand}
    (farewell : c.Farewell demands) :
    Course setup c core .aborted
      (if c.isAborted core then c.finish core demands else c.stay core) := by
  split
  · exact .departs rfl underway farewell
  · exact .stays rfl

theorem attachCourse (attaching : c.stage = .attaching) :
    Course setup c core .onward (c.attach core) := by
  unfold attach
  split
  · rename_i attached
    exact .attaches attaching attached
  · rename_i refused
    rw [attachRefused refused rfl]
    exact .departs rfl (by rw [attaching]; rfl) (.polite _ (.inr attaching))

theorem outboundCourse (pumping : c.stage = .pumping true) :
    Course setup c core .outbound (c.outbound setup core) := by
  unfold outbound
  split
  · exact .stays rfl
  · exact .advances rfl (.drained pumping)
  · rename_i offered
    exact .sends pumping offered

theorem connectedCourse (connecting : c.stage = .connecting) :
    Course setup c core .connected (c.connected setup core) := by
  unfold connected
  dsimp only
  split
  · rename_i first
    exact .opens connecting first
  · rename_i silent
    exact openedCourse rfl (fun _ => silent) (.inl connecting)

theorem heardCourse {f : WireFrame} (listening : c.stage.isListening = true) :
    Course setup c core (.arrived (.frame f)) (c.step setup core (.arrived (.frame f))) := by
  unfold step
  cases at_ : c.stage with
  | awaitingAck =>
    refine deliverCourse listening fun core' received => ?_
    exact .reads listening received (.inr ⟨rfl, rfl⟩)
  | pumping more =>
    cases more with
    | false | true =>
      refine deliverCourse listening fun core' received => ?_
      exact .reads listening received (.inl ⟨rfl, .inr rfl⟩)
  | connecting | opening _ | attaching | sending _ | leaving _ | gone =>
    rw [at_] at listening
    contradiction

theorem stepCourse (setup : Setup) (c : Courier) (core : Core) (signal : Signal) :
    Course setup c core signal (c.step setup core signal) := by
  cases heard : c.hears signal with
  | some f =>
    obtain ⟨same, listening⟩ := hearsFrame heard
    subst same
    exact heardCourse listening
  | none =>
    have unread {f} (listening : c.stage.isListening = true)
        (arrived : signal = .arrived (.frame f)) : False := by
      subst arrived
      simp [hears, listening] at heard
    unfold step
    split
    all_goals
      try rename_i at_
    · exact connectedCourse at_
    · exact .departs rfl (by rw [at_]; rfl) .silent
    · exact abortCourse (by rw [at_]; rfl) .silent
    · exact openedCourse rfl (by simp [at_]) (.inr ⟨_, at_⟩)
    · exact .departs rfl (by rw [at_]; rfl) .silent
    · exact (unread (by rw [at_]; rfl) rfl).elim
    · exact .departs rfl (by rw [at_]; rfl) .silent
    · exact .departs rfl (by rw [at_]; rfl) .silent
    · exact abortCourse (by rw [at_]; rfl) (.polite _ (.inl (by rw [at_]; rfl)))
    · exact attachCourse at_
    · exact outboundCourse at_
    · exact (unread (by rw [at_]; rfl) rfl).elim
    · exact .departs rfl (by rw [at_]; rfl) .silent
    · exact .departs rfl (by rw [at_]; rfl) .silent
    · exact abortCourse (by rw [at_]; rfl) (.polite _ (.inl (by rw [at_]; rfl)))
    · exact .advances rfl (.sent at_)
    · exact .departs rfl (by rw [at_]; rfl) .silent
    · exact .reports at_
    · exact .stays heard

end

end Courier

end ModelServing.Session
