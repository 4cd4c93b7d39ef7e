import ModelServing.Proofs.Session.Intake

/-! The cargo of a courier: for every stage, where the frames are that its run has accepted. They are
on the wire, in the sink or pending, in this order, and what leaves one of these places enters the
one before it. Only an open run promises to hold all of them; of one that is over, the wire has
some of the frames, still without a gap. -/
namespace ModelServing.Session

structure Run.Waits (r : Run) (live : Bool) (accepted : List Frame) : Prop where
  outbox : r.outbox = []
  pending : live = true → r.pending = accepted
  sink : live = true → r.sink = .absent

structure Run.Flows (r : Run) (live : Bool) (accepted taken : List Frame) : Prop where
  parts : accepted = taken ++ r.outbox
  pending : live = true → r.pending = []
  sink : live = true → r.sink ≠ .absent
  attended : live = true → r.attended = true

/-- After its courier let go, a run still accepts for a while if it never had a sink. -/
structure Run.Strands (r : Run) (accepted taken : List Frame) : Prop where
  parts : accepted = taken ++ (r.outbox ++ r.pending)
  attended : r.attended = false

inductive Carries (setup : Setup) (generation : Nat) (r : Run) (live : Bool)
    (accepted : List Frame) : Stage → List WireFrame → Prop where
  | connecting (waits : r.Waits live accepted) : Carries setup generation r live accepted .connecting []
  | opening {f} (first : setup.openingOf generation = [f]) (waits : r.Waits live accepted) :
      Carries setup generation r live accepted (.opening f) [f]
  | awaitingAck (waits : r.Waits live accepted) :
      Carries setup generation r live accepted .awaitingAck (setup.openingOf generation)
  | attaching (waits : r.Waits live accepted) :
      Carries setup generation r live accepted .attaching (setup.openingOf generation)
  | pumping {taken more} (flows : r.Flows live accepted taken)
      (dry : more = false → r.outbox = [] ∧ r.sink ≠ .present) :
      Carries setup generation r live accepted (.pumping more) (setup.wire generation taken)
  | sending {taken f} (flows : r.Flows live accepted taken) :
      Carries setup generation r live accepted (.sending f) (setup.wire generation taken)
  | leaving {failure sent} (carried : setup.Carried generation accepted sent)
      (strands : live = true → ∃ taken, r.Strands accepted taken ∧
        (failure = none → sent = setup.wire generation taken)) :
      Carries setup generation r live accepted (.leaving failure) sent
  | gone {sent} (carried : setup.Carried generation accepted sent) (dead : live = false) :
      Carries setup generation r live accepted .gone sent

/-- A courier and its run, with all that the run has accepted and all that the courier has sent. -/
structure CourierWithRun (setup : Setup) (c : Courier) (r : Run) (live : Bool) (accepted : List Frame)
    (sent : List WireFrame) : Prop where
  used : c.used = sent.length
  busy : r.phase ≠ .idle
  abort : r.abort = true → live = false
  marked : Marked accepted r.stopRequested
  carries : Carries setup c.generation r live accepted c.stage sent

section
variable {setup : Setup} {generation : Nat} {r r' : Run} {accepted taken : List Frame}
  {live live' : Bool} {stage : Stage} {sent : List WireFrame}

theorem Run.Flows.carried (flows : r.Flows live accepted taken) :
    setup.Carried generation accepted (setup.wire generation taken) :=
  .inr ⟨taken, ⟨r.outbox, flows.parts.symm⟩, rfl⟩

theorem Carries.carried (carries : Carries setup generation r live accepted stage sent) :
    setup.Carried generation accepted sent := by
  have opened : setup.Carried generation accepted (setup.openingOf generation) :=
    .inr ⟨[], List.nil_prefix, (setup.wireNil generation).symm⟩
  cases carries with
  | connecting waits => exact .inl rfl
  | opening first waits =>
    rw [first] at opened
    exact opened
  | awaitingAck waits | attaching waits => exact opened
  | pumping flows _ | sending flows => exact flows.carried
  | leaving carried _ | gone carried _ => exact carried

theorem Carries.ends (carries : Carries setup generation r live accepted stage sent)
    (outbox : r'.outbox = r.outbox) (sink : r'.sink = .absent) :
    Carries setup generation r' false accepted stage sent := by
  have waits (w : r.Waits live accepted) : r'.Waits false accepted :=
    ⟨outbox.trans w.outbox, by simp, by simp⟩
  have flows {taken} (w : r.Flows live accepted taken) : r'.Flows false accepted taken :=
    ⟨by rw [outbox, w.parts], by simp, by simp, by simp⟩
  cases carries with
  | connecting w => exact .connecting (waits w)
  | opening first w => exact .opening first (waits w)
  | awaitingAck w => exact .awaitingAck (waits w)
  | attaching w => exact .attaching (waits w)
  | pumping w dry =>
    refine .pumping (flows w) fun closed => ⟨outbox.trans (dry closed).1, ?_⟩
    rw [sink]
    decide
  | sending w => exact .sending (flows w)
  | leaving carried strands => exact .leaving carried (by simp)
  | gone carried dead => exact .gone carried rfl

theorem Carries.holds (carries : Carries setup generation r live accepted stage sent)
    (holds : r.Holds r') : Carries setup generation r' live accepted stage sent := by
  have waits (w : r.Waits live accepted) : r'.Waits live accepted :=
    ⟨holds.outbox.trans w.outbox, fun l => holds.pending.trans (w.pending l),
      fun l => holds.sink.trans (w.sink l)⟩
  have flows {taken} (w : r.Flows live accepted taken) : r'.Flows live accepted taken :=
    ⟨by rw [holds.outbox, w.parts], fun l => holds.pending.trans (w.pending l),
      fun l => by rw [holds.sink]; exact w.sink l, fun l => holds.attended.trans (w.attended l)⟩
  cases carries with
  | connecting w => exact .connecting (waits w)
  | opening first w => exact .opening first (waits w)
  | awaitingAck w => exact .awaitingAck (waits w)
  | attaching w => exact .attaching (waits w)
  | pumping w dry =>
    refine .pumping (flows w) fun closed => ?_
    rw [holds.outbox, holds.sink]
    exact dry closed
  | sending w => exact .sending (flows w)
  | leaving carried strands =>
    refine .leaving carried fun l => ?_
    obtain ⟨taken, strand, same⟩ := strands l
    refine ⟨taken, ⟨?_, holds.attended.trans strand.attended⟩, same⟩
    rw [holds.outbox, holds.pending]
    exact strand.parts
  | gone carried dead => exact .gone carried dead

theorem Carries.keeps (carries : Carries setup generation r true accepted stage sent) {f : Frame}
    (absent : r.sink = .absent) (outbox : r'.outbox = r.outbox)
    (pending : r'.pending = r.pending ++ [f]) (sink : r'.sink = r.sink)
    (attended : r'.attended = r.attended) :
    Carries setup generation r' true (accepted ++ [f]) stage sent := by
  have waits (w : r.Waits true accepted) : r'.Waits true (accepted ++ [f]) :=
    ⟨outbox.trans w.outbox, fun l => by rw [pending, w.pending l], fun l => sink.trans absent⟩
  cases carries with
  | connecting w => exact .connecting (waits w)
  | opening first w => exact .opening first (waits w)
  | awaitingAck w => exact .awaitingAck (waits w)
  | attaching w => exact .attaching (waits w)
  | pumping w _ | sending w => exact absurd absent (w.sink rfl)
  | leaving carried strands =>
    refine .leaving (carried.append [f]) fun l => ?_
    obtain ⟨taken, strand, same⟩ := strands l
    refine ⟨taken, ⟨?_, attended.trans strand.attended⟩, same⟩
    rw [outbox, pending, strand.parts]
    simp only [List.append_assoc]
  | gone carried dead => contradiction

theorem Carries.passes (carries : Carries setup generation r true accepted stage sent) {f : Frame}
    (present : r.sink = .present) (taking : r.attended = true) (outbox : r'.outbox = r.outbox ++ [f])
    (pending : r'.pending = r.pending) (sink : r'.sink ≠ .absent)
    (attended : r'.attended = r.attended) :
    Carries setup generation r' true (accepted ++ [f]) stage sent := by
  have early (w : r.Waits true accepted) : False := by
    have absent := w.sink rfl
    rw [present] at absent
    contradiction
  have flows {taken} (w : r.Flows true accepted taken) : r'.Flows true (accepted ++ [f]) taken :=
    ⟨by rw [outbox, w.parts, List.append_assoc], fun l => pending.trans (w.pending l), fun l => sink,
      fun l => attended.trans taking⟩
  cases carries with
  | connecting w => exact (early w).elim
  | opening first w => exact (early w).elim
  | awaitingAck w => exact (early w).elim
  | attaching w => exact (early w).elim
  | pumping w dry => exact .pumping (flows w) fun closed => absurd present (dry closed).2
  | sending w => exact .sending (flows w)
  | leaving carried strands =>
    obtain ⟨_, strand, _⟩ := strands rfl
    rw [strand.attended] at taking
    contradiction
  | gone carried dead => contradiction

variable {c : Courier}

theorem CourierWithRun.superseded (withRun : CourierWithRun setup c r live accepted sent) :
    CourierWithRun setup c r.superseded false accepted sent :=
  ⟨withRun.used, withRun.busy, fun _ => rfl, withRun.marked, withRun.carries.ends rfl rfl⟩

theorem CourierWithRun.admit (withRun : CourierWithRun setup c r r.isOpen accepted sent) {f : Frame}
    (willing : r.refuses = false) (phase : r'.phase = .started)
    (stops : r'.stopRequested = f.isStop) (cancelled : r'.cancelled = r.cancelled)
    (abort : r'.abort = r.abort)
    (carries : Carries setup c.generation r true accepted c.stage sent →
      Carries setup c.generation r' true (accepted ++ [f]) c.stage sent) :
    CourierWithRun setup c r' r'.isOpen (accepted ++ [f]) sent := by
  obtain ⟨wasOpen, unstopped⟩ := Run.willingOpen willing
  obtain ⟨used, busy, told, marked, before⟩ := withRun
  rw [wasOpen] at told before
  rw [unstopped] at marked
  have still : r'.isOpen = true := by
    simp only [Run.isOpen, Bool.and_eq_true] at wasOpen ⊢
    rw [cancelled, phase]
    exact ⟨wasOpen.1, rfl⟩
  rw [still]
  refine ⟨used, by simp [phase], ?_, ?_, carries before⟩
  · rwa [abort]
  · rw [stops]
    exact marked.next f

theorem CourierWithRun.fed (withRun : CourierWithRun setup c r r.isOpen accepted sent) {entered}
    (fed : r.Fed r' entered) :
    CourierWithRun setup c r' r'.isOpen (accepted ++ entered.toList) sent := by
  cases fed with
  | holds holds =>
    rw [holds.isOpen, Option.toList_none, List.append_nil]
    refine ⟨withRun.used, fun idle => ?_, ?_, withRun.marked.later holds.stops,
      withRun.carries.holds holds⟩
    · rw [holds.idle idle] at idle
      exact withRun.busy idle
    · rw [holds.abort]
      exact withRun.abort
  | closes outbox phase stops sink =>
    have shut : r'.isOpen = false := by simp [Run.isOpen, phase]
    rw [shut, Option.toList_none, List.append_nil]
    exact ⟨withRun.used, by simp [phase], fun _ => rfl, withRun.marked.later stops,
      withRun.carries.ends outbox sink⟩
  | keeps willing sink =>
    exact withRun.admit willing rfl rfl rfl rfl fun carries => carries.keeps sink rfl rfl rfl rfl
  | passes willing sink attended sunk =>
    exact withRun.admit willing rfl rfl rfl rfl fun carries =>
      carries.passes sink attended rfl rfl sunk rfl

end

end ModelServing.Session
