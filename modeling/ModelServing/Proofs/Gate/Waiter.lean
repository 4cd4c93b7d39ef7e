import ModelServing.Gate

/-! One who waits at a gate for as long as it takes or until a deadline. Such a one looks at the gate
before the clock, so nobody who looks while the gate is open goes away empty-handed. -/
namespace ModelServing.Waiter

structure Sound (w : Waiter) (due now : Nat) (gate : Gate) : Prop where
  deadline : w.deadline = some due
  waits : w.notice = none → now ≤ due
  expired : ∀ time, w.notice = some ⟨time, none⟩ → due ≤ now
  told : ∀ time o, w.notice = some ⟨time, some o⟩ → gate.outcome = some o

structure Later (gate : Gate) (w w' : Waiter) : Prop where
  kept : ∀ notice, w.notice = some notice → w'.notice = some notice
  learns : ∀ o, gate.outcome = some o → w.notice = none →
    ∀ notice, w'.notice = some notice → notice.outcome = some o

section
variable {w w' w'' : Waiter} {due now later : Nat} {gate gate' : Gate} {o : Outcome}

theorem Later.refl (gate : Gate) (w : Waiter) : w.Later gate w where
  kept _ := id
  learns _ _ silent notice told := by
    rw [silent] at told
    contradiction

theorem Later.trans (first : w.Later gate w') (second : w'.Later gate' w'')
    (stays : ∀ o, gate.outcome = some o → gate'.outcome = some o) : w.Later gate w'' where
  kept notice told := second.kept notice (first.kept notice told)
  learns o stored silent notice told := by
    cases between : w'.notice with
    | none => exact second.learns o (stays o stored) between notice told
    | some early =>
      have same := Option.some.inj ((second.kept early between).symm.trans told)
      rw [← same]
      exact first.learns o stored silent early between

theorem Sound.stays (sound : w.Sound due now gate)
    (stays : ∀ o, gate.outcome = some o → gate'.outcome = some o) : w.Sound due now gate' :=
  { sound with told := fun time o told => stays o (sound.told time o told) }

theorem lookTold {notice : Notice} (told : w.notice = some notice) (now : Nat) (gate : Gate) :
    (w.look now gate).expire now = w := by
  simp [look, expire, told]

theorem lookOpen (silent : w.notice = none) (stored : gate.outcome = some o) (now : Nat) :
    (w.look now gate).expire now = { w with notice := some ⟨now, some o⟩ } := by
  simp [look, expire, silent, stored]

theorem lookShut (shut : gate.outcome = none) (now : Nat) :
    (w.look now gate).expire now = w.expire now := by
  cases told : w.notice with
  | none | some notice => simp [look, told, shut]

theorem expireSteps (deadline : w.deadline = some due) (now : Nat) :
    (w.notice = none ∧ due ≤ now ∧ w.expire now = { w with notice := some ⟨due, none⟩ }) ∨
    ((w.notice = none → now < due) ∧ w.expire now = w) := by
  cases told : w.notice with
  | some notice => exact .inr ⟨by simp, by simp [expire, told]⟩
  | none =>
    by_cases late : due ≤ now
    · exact .inl ⟨rfl, late, by simp [expire, told, deadline, late]⟩
    · exact .inr ⟨fun _ => Nat.lt_of_not_le late, by simp [expire, told, deadline, late]⟩

-- The notice gives the deadline, so it does not matter when the clock was looked at first.
theorem expireAgain (w : Waiter) (now later : Nat) :
    (w.expire now).expire later = w.expire (max now later) := by
  obtain ⟨deadline, notice⟩ := w
  cases notice with
  | some notice => rfl
  | none =>
    cases deadline with
    | none => rfl
    | some due =>
      by_cases early : due ≤ now
      · simp [expire, early, Nat.le_trans early (Nat.le_max_left now later)]
      · have either : due ≤ max now later ↔ due ≤ later := by omega
        simp [expire, early, either]

theorem Sound.lookSilent (sound : w.Sound due now gate)
    (silent : ((w.look now gate).expire now).notice = none) : gate.outcome = none ∧ now < due := by
  cases stored : gate.outcome with
  | some o =>
    cases told : w.notice with
    | none =>
      rw [lookOpen told stored] at silent
      contradiction
    | some notice =>
      rw [lookTold told, told] at silent
      contradiction
  | none =>
    rw [lookShut stored] at silent
    rcases expireSteps sound.deadline now with ⟨-, -, same⟩ | ⟨early, same⟩
    · rw [same] at silent
      contradiction
    · rw [same] at silent
      exact ⟨rfl, early silent⟩

theorem Sound.expire (sound : w.Sound due now gate) (le : now ≤ later) :
    (w.expire (later - 1)).Sound due later gate := by
  rcases expireSteps sound.deadline (later - 1) with ⟨silent, late, same⟩ | ⟨early, same⟩
  · rw [same]
    exact ⟨sound.deadline, by simp, fun _ _ => by omega, by simp⟩
  · rw [same]
    refine ⟨sound.deadline, fun silent => ?_, fun time told => ?_, sound.told⟩
    · have := early silent
      omega
    · exact Nat.le_trans (sound.expired time told) le

theorem Sound.look (sound : w.Sound due now gate) :
    ((w.look now gate).expire now).Sound due now gate := by
  cases told : w.notice with
  | some notice =>
    rw [lookTold told]
    exact sound
  | none =>
    cases stored : gate.outcome with
    | some o =>
      rw [lookOpen told stored]
      exact ⟨sound.deadline, by simp, by simp, by simp [stored]⟩
    | none =>
      rw [lookShut stored]
      rcases expireSteps sound.deadline now with ⟨-, late, same⟩ | ⟨-, same⟩
      · rw [same]
        exact ⟨sound.deadline, by simp, fun _ _ => late, by simp⟩
      · rw [same]
        exact sound

theorem lookLater (w : Waiter) (now : Nat) (gate : Gate) :
    w.Later gate ((w.look now gate).expire now) where
  kept notice told := by rw [lookTold told, told]
  learns o stored silent notice told := by
    rw [lookOpen silent stored] at told
    cases Option.some.inj told
    rfl

theorem expireLater (looked : w.notice = none → gate.outcome = none) (now : Nat) :
    w.Later gate (w.expire now) where
  kept notice told := by simp [Waiter.expire, told]
  learns o stored silent := by
    rw [looked silent] at stored
    contradiction

theorem startSound (now timeout : Nat) (gate : Gate) :
    (start now (some timeout) gate).Sound (now + timeout) now gate := by
  have waiting : (⟨some (now + timeout), none⟩ : Waiter).Sound (now + timeout) now gate :=
    ⟨rfl, fun _ => Nat.le_add_right _ _, by simp, by simp⟩
  exact waiting.look

def Heeds (w : Waiter) (o : Outcome) : Prop :=
  ∀ notice, w.notice = some notice → notice.outcome = some o

theorem Later.heeds (passed : w.Later gate w') (stored : gate.outcome = some o)
    (heeds : w.Heeds o) : w'.Heeds o := by
  intro notice told
  cases before : w.notice with
  | none => exact passed.learns o stored before notice told
  | some early =>
    have same := Option.some.inj ((passed.kept early before).symm.trans told)
    rw [← same]
    exact heeds early before

theorem startHeeds (now : Nat) (timeout : Option Nat) (stored : gate.outcome = some o) :
    (start now timeout gate).Heeds o := by
  intro notice told
  rw [start, lookOpen rfl stored] at told
  cases Option.some.inj told
  rfl

theorem Sound.inTime (sound : w.Sound due now gate) (early : now < due)
    (stored : gate.outcome = some o) : w.Heeds o := by
  rintro ⟨time, outcome⟩ told
  cases outcome with
  | none =>
    have := sound.expired time told
    omega
  | some told' => exact (sound.told time told' told).symm.trans stored

theorem lookLearns (stored : gate.outcome = some o) (heeds : w.Heeds o) (now : Nat) :
    ∃ time, ((w.look now gate).expire now).notice = some ⟨time, some o⟩ := by
  cases told : w.notice with
  | none => exact ⟨now, by rw [lookOpen told stored]⟩
  | some notice =>
    refine ⟨notice.time, ?_⟩
    rw [lookTold told, told, ← heeds notice told]

theorem Sound.lookOver (sound : w.Sound due now gate) (shut : gate.outcome = none)
    (late : due ≤ now) : ∃ time, ((w.look now gate).expire now).notice = some ⟨time, none⟩ := by
  have looked := sound.look
  cases told : ((w.look now gate).expire now).notice with
  | none =>
    have := (sound.lookSilent told).2
    omega
  | some notice =>
    obtain ⟨time, outcome⟩ := notice
    cases outcome with
    | none => exact ⟨time, rfl⟩
    | some o =>
      have stored := looked.told time o told
      rw [shut] at stored
      contradiction

theorem Sound.overdue (sound : w.Sound due now gate) (shut : gate.outcome = none)
    (late : due < now) : ∃ time, w.notice = some ⟨time, none⟩ := by
  cases told : w.notice with
  | none =>
    have := sound.waits told
    omega
  | some notice =>
    obtain ⟨time, same⟩ := sound.lookOver shut (Nat.le_of_lt late)
    rw [lookTold told, told] at same
    exact ⟨time, same⟩

theorem Sound.lookWaits (sound : w.Sound due now gate) (shut : gate.outcome = none)
    (early : now < due) : ((w.look now gate).expire now).notice = none := by
  cases told : ((w.look now gate).expire now).notice with
  | none => rfl
  | some notice =>
    obtain ⟨time, outcome⟩ := notice
    cases outcome with
    | none =>
      have := sound.look.expired time told
      omega
    | some o =>
      have stored := sound.look.told time o told
      rw [shut] at stored
      contradiction

end

end ModelServing.Waiter
