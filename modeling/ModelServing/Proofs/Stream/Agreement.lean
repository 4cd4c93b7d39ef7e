import Mathlib.Data.List.Forall2
import ModelServing.Proofs.Log
import ModelServing.Proofs.Session.Course
import ModelServing.Proofs.Session.Reception
import ModelServing.Proofs.Stream.Arrivals

/-! Tasks are read in two ways, by one consumer item by item and by a session as frames come in. From
the same arrivals both make the same replies and come to the same end, as long as the caller of the
session keeps quiet. -/
namespace ModelServing

structure SameReply (read told : Reply) : Prop where
  payload : told.payload = read.payload
  event : told.event = read.event
  usage : told.usage = read.usage
  request : ∀ id, read.requestId = some id → told.requestId = some id

inductive SameEnd : Option Error → Session.Event → Prop where
  | completed : SameEnd none .completed
  | failed (e : Error) : SameEnd (some e) (.failed e)
  | refused (e : ApiError) (requestId : Option String) :
      SameEnd (some (.api e)) (.failed (.api (e.withRequestId requestId)))

namespace TaskStream

inductive Alike : Verdict → List Reply → Option Session.Event → Prop where
  | skip : Alike .skip [] none
  | item (r : Reply) : Alike (.item r) [r] none
  | lastReply (r : Reply) : Alike (.last (.ok r)) [r] (some .completed)
  | finish : Alike .finish [] (some .completed)
  | fails {e : Error} {last : Session.Event} (same : SameEnd (some e) last) :
      Alike (.last (.error e)) [] (some last)

theorem judgeAlike (requestId : Option String) (f : WireFrame) :
    Alike (judge (.frame f)) (Dialect.task.replies f) (Dialect.task.ending? false requestId f) := by
  cases f with
  | binary bytes => exact .item (.binary bytes)
  | text s =>
    simp only [judge, Dialect.replies, Dialect.ending?]
    cases Json.parse? s with
    | none => exact .fails (.failed .malformedJson)
    | some message =>
      simp only [judgeMessage]
      cases Dialect.task.classify message with
      | started => exact .skip
      | data | sessionCreated | turnDone => exact .item (Dialect.task.toReply message)
      | failed => exact .fails (.refused (Dialect.task.toError message) requestId)
      | finished =>
        cases Dialect.task.hasOutput message with
        | true => exact .lastReply (Dialect.task.toReply message)
        | false => exact .finish

section
variable {verdict : Verdict} {replies : List Reply}

theorem Alike.goesOn (alike : Alike verdict replies none) :
    verdict.ends = false ∧ verdict.items = replies.map .ok := by
  cases alike with
  | skip | item r => exact ⟨rfl, rfl⟩

theorem Alike.ended {last : Session.Event} (alike : Alike verdict replies (some last)) :
    verdict.ends = true ∧ ∃ failure : Option Error,
      verdict.items = replies.map .ok ++ failure.toList.map .error ∧ SameEnd failure last := by
  cases alike with
  | lastReply r | finish => exact ⟨rfl, none, rfl, .completed⟩
  | @fails e last same => exact ⟨rfl, some e, rfl, same⟩

end

end TaskStream

namespace Session

def Core.told (core : Core) : List Event := entriesOf core.events core.generation

theorem Core.toldBecome (core : Core) (r : Run) (events : List Event) :
    (core.become r events).told = core.told ++ events := by
  simp only [told, become, generation, entriesOfAppend, entriesOfOwn]

theorem Run.tagSame (r : Run) (reply : Reply) : SameReply reply (r.tag reply) where
  payload := rfl
  event := rfl
  usage := rfl
  request id named := by rw [Run.tag, named]; rfl

structure Run.Untouched (r : Run) : Prop where
  pending : r.pending = []
  outbox : r.outbox = []
  stops : r.stopRequested = false
  abort : r.abort = false

structure SameSoFar (read : List Arrival) (c : Courier) (core : Core) : Prop where
  current : c.generation = core.generation
  isOpen : core.run.isOpen = true
  untouched : core.run.Untouched
  unended : ∀ a ∈ read, (TaskStream.judge a).ends = false
  same : ∃ replies results, TaskStream.itemsIn read = replies.map .ok ∧
    core.told = results.map .result ∧ List.Forall₂ SameReply replies results

structure SameToEnd (read : List Arrival) (told : List Event) : Prop where
  ends : ∃ before a, read = before ++ [a] ∧ TaskStream.EndsAt before a
  same : ∃ replies results failure last,
    TaskStream.itemsIn read = replies.map .ok ++ failure.toList.map .error ∧
    told = results.map .result ++ [last] ∧ List.Forall₂ SameReply replies results ∧
    SameEnd failure last

inductive Standing (read : List Arrival) (c : Courier) (core : Core) : Prop where
  | opens (early : c.stage = .connecting ∨ ∃ f, c.stage = .opening f)
      (soFar : SameSoFar read c core)
  | attaches (attaching : c.stage = .attaching) (soFar : SameSoFar read c core)
  | listens (listening : c.stage.isListening = true) (soFar : SameSoFar read c core)
  | leaves {failure : Option Error} (leaving : c.stage = .leaving failure)
      (toEnd : SameToEnd read (c.report core failure).core.told)
  | gone (left : c.stage = .gone) (toEnd : SameToEnd read core.told)

section
variable {read : List Arrival} {c : Courier} {core : Core} {setup : Setup}

theorem SameSoFar.live (soFar : SameSoFar read c core) : core.isLive c.generation = true := by
  rw [soFar.current, Core.liveCurrent]
  exact soFar.isOpen

theorem SameSoFar.wasOpen (soFar : SameSoFar read c core) : core.run.phase ≠ .closed :=
  Core.liveOpen soFar.live

theorem SameSoFar.moves (soFar : SameSoFar read c core) {c' : Courier}
    (same : c'.generation = c.generation) : SameSoFar read c' core :=
  ⟨same.trans soFar.current, soFar.isOpen, soFar.untouched, soFar.unended, soFar.same⟩

theorem SameSoFar.unaborted (soFar : SameSoFar read c core) : c.isAborted core = false := by
  rw [Courier.isAborted, soFar.current, Core.runCurrent]
  exact soFar.untouched.abort

theorem SameSoFar.attach (soFar : SameSoFar read c core) :
    (c.attach core).courier.stage = .pumping true ∧
      SameSoFar read (c.attach core).courier (c.attach core).core := by
  let r : Run :=
    { core.run with pending := [], outbox := [], attended := true, sink := .present }
  have attached : core.run.attach true = (r, true) := by
    simp [Run.attach, soFar.untouched.pending, Run.splitAtStop, r]
  have whole : core.attach c.generation true = (core.become r [], true) := by
    rw [Core.attach, if_pos soFar.live, attached]
  rw [Courier.attach, whole]
  obtain ⟨_, _, stops, abort⟩ := soFar.untouched
  refine ⟨rfl, soFar.current, soFar.isOpen, ⟨rfl, rfl, stops, abort⟩, soFar.unended, ?_⟩
  rw [Core.toldBecome, List.append_nil]
  exact soFar.same

theorem SameSoFar.outbound (soFar : SameSoFar read c core) (listening : c.stage.isListening = true) :
    Standing read (c.outbound setup core).courier (c.outbound setup core).core := by
  have offer : core.offer c.generation = if core.run.sink = .present then .nothing else .done := by
    rw [Core.offer, soFar.current, Core.runCurrent]
    simp only [soFar.untouched.outbox]
  unfold Courier.outbound
  by_cases present : core.run.sink = .present
  · rw [offer, if_pos present]
    exact .listens listening soFar
  · rw [offer, if_neg present]
    exact .listens rfl (soFar.moves rfl)

theorem Core.toldLeave (core : Core) (generation : Nat) : (core.leave generation).told = core.told := by
  have events : (core.leave generation).events = core.events := by
    unfold leave modify
    split <;> rfl
  rw [told, events, leave, modifyGeneration]
  rfl

theorem Core.liveLeave (core : Core) (generation : Nat) :
    (core.leave generation).isLive generation = core.isLive generation := by
  have same (r : Run) : r.leave.isOpen = r.isOpen := rfl
  exact core.modifyLive generation same generation

theorem SameSoFar.toldFailing (soFar : SameSoFar read c core) (e : Error) :
    (c.report (core.leave c.generation) (some e)).core.told = core.told ++ [.failed e] := by
  have live := (core.liveLeave c.generation).trans soFar.live
  simp only [Courier.report, Core.failed, if_pos live, Run.fail, Run.closeOpen (Core.liveOpen live),
    Core.toldBecome, Core.toldLeave]

theorem SameSoFar.toldEnding (soFar : SameSoFar read c core) :
    (c.report (core.leave c.generation) none).core.told =
      core.told ++ [.failed .connectionClosed] := by
  have live := (core.liveLeave c.generation).trans soFar.live
  have unstopped : (core.leave c.generation).run.stopRequested = false := by
    rw [Core.leave, Core.modify, if_pos soFar.current]
    exact soFar.untouched.stops
  simp only [Courier.report, Core.ended, if_pos live, Run.ended, unstopped, Bool.false_eq_true,
    if_false, Run.fail, Run.closeOpen (Core.liveOpen live), Core.toldBecome, Core.toldLeave]

theorem toldClosed (dead : core.isLive c.generation = false) :
    (c.report (core.leave c.generation) none).core.told = core.told := by
  have still : (core.leave c.generation).isLive c.generation = false :=
    (core.liveLeave c.generation).trans dead
  simp [Courier.report, Core.ended, still, Core.toldLeave]

theorem tagsSame (r : Run) (replies : List Reply) :
    List.Forall₂ SameReply replies (replies.map r.tag) := by
  rw [List.forall₂_map_right_iff, List.forall₂_same]
  exact fun reply _ => r.tagSame reply

theorem samePayloads {replies results : List Reply} (same : List.Forall₂ SameReply replies results) :
    results.map (·.payload) = replies.map (·.payload) := by
  induction same with
  | nil => rfl
  | cons head _ ih => rw [List.map_cons, List.map_cons, head.payload, ih]

theorem SameSoFar.next (soFar : SameSoFar read c core) {a : Arrival} {r : Run}
    {replies results : List Reply} (open_ : r.isOpen = true) (untouched : r.Untouched)
    (more : (TaskStream.judge a).ends = false)
    (items : (TaskStream.judge a).items = replies.map .ok)
    (same : List.Forall₂ SameReply replies results) :
    SameSoFar (read ++ [a]) c (core.become r (results.map .result)) where
  current := soFar.current
  isOpen := open_
  untouched := untouched
  unended x member := by
    rcases List.mem_append.mp member with old | new
    · exact soFar.unended x old
    · rwa [List.mem_singleton.mp new]
  same := by
    obtain ⟨earlier, toldEarlier, given, told, alike⟩ := soFar.same
    refine ⟨earlier ++ replies, toldEarlier ++ results, ?_, ?_, List.rel_append alike same⟩
    · rw [TaskStream.itemsNext, given, items, List.map_append]
    · rw [Core.toldBecome, told, List.map_append]

theorem SameSoFar.agrees (soFar : SameSoFar read c core) {a : Arrival}
    {replies results : List Reply} {failure : Option Error} {last : Event}
    (ends : (TaskStream.judge a).ends = true)
    (items : (TaskStream.judge a).items = replies.map .ok ++ failure.toList.map .error)
    (same : List.Forall₂ SameReply replies results) (sameEnd : SameEnd failure last)
    {told : List Event} (tells : told = core.told ++ (results.map .result ++ [last])) :
    SameToEnd (read ++ [a]) told where
  ends := ⟨read, a, rfl, soFar.unended, ends⟩
  same := by
    obtain ⟨earlier, toldEarlier, given, told, alike⟩ := soFar.same
    refine ⟨earlier ++ replies, toldEarlier ++ results, failure, last, ?_, ?_,
      List.rel_append alike same, sameEnd⟩
    · rw [TaskStream.itemsNext, given, items, List.map_append, List.append_assoc]
    · rw [tells, told, List.map_append, List.append_assoc]

theorem SameSoFar.hears (task : setup.dialect = .task) (soFar : SameSoFar read c core)
    (listening : c.stage.isListening = true) (f : WireFrame) (reason : String)
    {started : Courier → Core → Courier.Move}
    (goesOn : ∀ core', SameSoFar (read ++ [.frame f]) c core' →
      Standing (read ++ [.frame f]) (started c core').courier (started c core').core) :
    Standing (read ++ [.frame f]) (c.deliver setup core f reason started).courier
      (c.deliver setup core f reason started).core := by
  obtain ⟨r, events, result, received, reception⟩ := Core.receiveSteps soFar.live setup.dialect f
  have tells : core.run.tells setup.dialect f =
      ((setup.dialect.replies f).map (core.run.named setup.dialect f).tag).map .result :=
    List.map_map.symm
  have same := tagsSame (core.run.named setup.dialect f) (setup.dialect.replies f)
  have alike := TaskStream.judgeAlike (core.run.named setup.dialect f).requestId f
  rw [← task, ← soFar.untouched.stops] at alike
  unfold Courier.deliver
  rw [received]
  cases reception with
  | goesOn unended verdict =>
    rw [unended] at alike
    obtain ⟨more, items⟩ := alike.goesOn
    -- A frame that only acknowledges or names something brings no reply on either side.
    have next : SameSoFar (read ++ [.frame f]) c
        (core.become (core.run.named setup.dialect f) (core.run.tells setup.dialect f)) := by
      obtain ⟨pending, outbox, stops, abort⟩ := soFar.untouched
      rw [tells]
      exact soFar.next soFar.isOpen ⟨pending, outbox, stops, abort⟩ more items same
    rcases verdict with rfl | ⟨rfl, _⟩
    · exact .listens listening next
    · exact goesOn _ next
  | @ends last outcome json ended told =>
    rw [ended] at alike
    obtain ⟨closes, failure, items, sameEnd⟩ := alike.ended
    have closed : ((core.run.named setup.dialect f).close outcome last).1.isOpen = false := by
      rw [Run.closeOpen (r := core.run.named setup.dialect f) soFar.wasOpen]
      simp [Run.isOpen]
    -- The run has told its end itself, so the courier's report finds it dead.
    have dead : (core.become ((core.run.named setup.dialect f).close outcome last).1
        (core.run.tells setup.dialect f ++ [last])).isLive c.generation = false := by
      rw [soFar.current]
      exact (Core.liveCurrent _).trans closed
    refine .leaves rfl (soFar.agrees closes items same sameEnd ?_)
    rw [← tells]
    exact (toldClosed dead).trans (core.toldBecome _ _)
  | fails json ended silent =>
    rw [ended] at alike
    obtain ⟨closes, failure, items, sameEnd⟩ := alike.ended
    refine .leaves rfl (soFar.agrees closes items same sameEnd ?_)
    rw [← tells, silent, Core.becomeSame]
    exact soFar.toldFailing .malformedJson

theorem SameSoFar.fails (soFar : SameSoFar read c core) (e : Error) :
    Standing (read ++ [.failed e]) (c.fail core e).courier (c.fail core e).core := by
  refine .leaves rfl (soFar.agrees rfl ?_ .nil (.failed e) (soFar.toldFailing e))
  rfl

theorem SameSoFar.hangsUp (soFar : SameSoFar read c core) :
    Standing (read ++ [.hungUp]) (c.finish core []).courier (c.finish core []).core := by
  refine .leaves rfl (soFar.agrees rfl ?_ .nil (.failed .connectionClosed) soFar.toldEnding)
  rfl

def Signal.isSmooth : Signal → Bool
  | .refused _ | .sendFailed _ | .arrived _ => false
  | _ => true

theorem Standing.listening (standing : Standing read c core) (listening : c.stage.isListening = true) :
    SameSoFar read c core := by
  cases standing with
  | listens _ soFar => exact soFar
  | opens early _ =>
    rcases early with at_ | ⟨f, at_⟩ <;> (rw [at_] at listening; contradiction)
  | attaches at_ _ | leaves at_ _ | gone at_ _ =>
    rw [at_] at listening
    contradiction

theorem Standing.reads (task : setup.dialect = .task) (standing : Standing read c core)
    (listening : c.stage.isListening = true) (a : Arrival) :
    Standing (read ++ [a]) (c.step setup core (.arrived a)).courier
      (c.step setup core (.arrived a)).core := by
  have soFar := standing.listening listening
  cases at_ : c.stage with
  | connecting | opening | attaching | sending | leaving | gone =>
    rw [at_] at listening
    contradiction
  | awaitingAck =>
    cases a with
    | frame f =>
      simp only [Courier.step, at_]
      exact soFar.hears task listening f "closed" fun _ next => .attaches rfl (next.moves rfl)
    | failed e =>
      simp only [Courier.step, at_]
      exact soFar.fails e
    | hungUp =>
      simp only [Courier.step, at_]
      exact soFar.hangsUp
  | pumping outboundOpen =>
    cases a with
    | frame f =>
      simp only [Courier.step, at_]
      exact soFar.hears task listening f "finished" fun _ next => .listens listening next
    | failed e =>
      simp only [Courier.step, at_]
      exact soFar.fails e
    | hungUp =>
      simp only [Courier.step, at_]
      exact soFar.hangsUp

theorem Standing.wakes (task : setup.dialect = .task) (standing : Standing read c core)
    {signal : Signal} (smooth : signal.isSmooth = true) :
    Standing read (c.step setup core signal).courier (c.step setup core signal).core := by
  cases standing with
  | gone at_ toEnd =>
    simp only [Courier.step, at_]
    exact .gone at_ toEnd
  | leaves at_ toEnd =>
    cases signal with
    | refused e | sendFailed e | arrived a => contradiction
    | onward =>
      simp only [Courier.step, at_]
      exact .gone rfl toEnd
    | connected | sent | outbound | aborted =>
      simp only [Courier.step, at_]
      exact .leaves at_ toEnd
  | attaches at_ soFar =>
    cases signal with
    | refused e | sendFailed e | arrived a => contradiction
    | onward =>
      simp only [Courier.step, at_]
      obtain ⟨pumping, attached⟩ := soFar.attach
      exact .listens (by rw [pumping]; rfl) attached
    | connected | sent | outbound | aborted =>
      simp only [Courier.step, at_]
      exact .attaches at_ soFar
  | opens early soFar =>
    rcases early with at_ | ⟨f, at_⟩
    · cases signal with
      | refused e | sendFailed e | arrived a => contradiction
      | connected =>
        simp only [Courier.step, at_, Courier.connected, task]
        exact .opens (.inr ⟨_, rfl⟩) (soFar.moves rfl)
      | aborted =>
        simp only [Courier.step, at_, soFar.unaborted, Bool.false_eq_true, if_false]
        exact .opens (.inl at_) soFar
      | sent | outbound | onward =>
        simp only [Courier.step, at_]
        exact .opens (.inl at_) soFar
    · cases signal with
      | refused e | sendFailed e | arrived a => contradiction
      | sent =>
        simp only [Courier.step, at_, Courier.opened, task]
        exact .listens rfl (soFar.moves rfl)
      | connected | outbound | onward | aborted =>
        simp only [Courier.step, at_]
        exact .opens (.inr ⟨f, at_⟩) soFar
  | listens listening soFar =>
    cases at_ : c.stage with
    | connecting | opening | attaching | sending | leaving | gone =>
      rw [at_] at listening
      contradiction
    | awaitingAck =>
      cases signal with
      | refused e | sendFailed e | arrived a => contradiction
      | aborted =>
        simp only [Courier.step, at_, soFar.unaborted, Bool.false_eq_true, if_false]
        exact .listens listening soFar
      | connected | sent | outbound | onward =>
        simp only [Courier.step, at_]
        exact .listens listening soFar
    | pumping outboundOpen =>
      cases signal with
      | refused e | sendFailed e | arrived a => contradiction
      | aborted =>
        simp only [Courier.step, at_, soFar.unaborted, Bool.false_eq_true, if_false]
        exact .listens listening soFar
      | outbound =>
        cases outboundOpen with
        | true =>
          simp only [Courier.step, at_]
          exact soFar.outbound listening
        | false =>
          simp only [Courier.step, at_]
          exact .listens listening soFar
      | connected | sent | onward =>
        simp only [Courier.step, at_]
        exact .listens listening soFar

/-- What befalls a session whose caller keeps quiet, on a connection that opens, takes what it is sent
and brings the arrivals one by one, each when the courier listens. -/
inductive Attended (setup : Setup) : Session → List Arrival → Session → List Arrival → Prop where
  | rests (s : Session) (arrivals : List Arrival) : Attended setup s arrivals s arrivals
  | wakes {s s' : Session} {arrivals rest : List Arrival} (signal : Signal)
      (smooth : signal.isSmooth = true)
      (later : Attended setup (s.act setup (.wake 0 signal)).session arrivals s' rest) :
      Attended setup s arrivals s' rest
  | reads {s s' : Session} {a : Arrival} {arrivals rest : List Arrival} {c : Courier}
      (found : s.couriers[0]? = some c) (listening : c.stage.isListening = true)
      (later : Attended setup (s.act setup (.wake 0 (.arrived a))).session arrivals s' rest) :
      Attended setup s (a :: arrivals) s' rest

theorem Attended.trans {s s' s'' : Session} {arrivals later rest : List Arrival}
    (first : Attended setup s arrivals s' later) (second : Attended setup s' later s'' rest) :
    Attended setup s arrivals s'' rest := by
  induction first with
  | rests => exact second
  | wakes signal smooth _ ih => exact .wakes signal smooth (ih second)
  | reads found listening _ ih => exact .reads found listening (ih second)

structure OnlyCourier (read : List Arrival) (s : Session) (c : Courier) : Prop where
  couriers : s.couriers = [c]
  standing : Standing read c s.core

theorem OnlyCourier.act {s : Session} (couriers : s.couriers = [c]) (signal : Signal) :
    (s.act setup (.wake 0 signal)).session =
      ⟨(c.step setup s.core signal).core, [(c.step setup s.core signal).courier]⟩ := by
  simp [Session.act, Session.wake, couriers]

theorem OnlyCourier.wakes (task : setup.dialect = .task) {s : Session} (single : OnlyCourier read s c)
    {signal : Signal} (smooth : signal.isSmooth = true) :
    OnlyCourier read (s.act setup (.wake 0 signal)).session (c.step setup s.core signal).courier := by
  rw [OnlyCourier.act single.couriers]
  exact ⟨rfl, single.standing.wakes task smooth⟩

theorem OnlyCourier.reads (task : setup.dialect = .task) {s : Session} (single : OnlyCourier read s c)
    (listening : c.stage.isListening = true) (a : Arrival) :
    OnlyCourier (read ++ [a]) (s.act setup (.wake 0 (.arrived a))).session
      (c.step setup s.core (.arrived a)).courier := by
  rw [OnlyCourier.act single.couriers]
  exact ⟨rfl, single.standing.reads task listening a⟩

theorem Attended.single (task : setup.dialect = .task) {s s' : Session} {arrivals rest : List Arrival}
    (attended : Attended setup s arrivals s' rest) {read : List Arrival} {c : Courier}
    (single : OnlyCourier read s c) :
    ∃ more c', arrivals = more ++ rest ∧ OnlyCourier (read ++ more) s' c' := by
  induction attended generalizing read c with
  | rests s arrivals => exact ⟨[], c, rfl, by rwa [List.append_nil]⟩
  | wakes signal smooth _ ih => exact ih (single.wakes task smooth)
  | @reads s s' a arrivals rest c' found listening _ ih =>
    rw [single.couriers] at found
    cases Option.some.inj found
    obtain ⟨more, last, rfl, after⟩ := ih (single.reads task listening a)
    exact ⟨a :: more, last, rfl, by rwa [List.append_assoc] at after⟩

theorem OnlyCourier.comesToListen (task : setup.dialect = .task) {s : Session}
    (single : OnlyCourier read s c) (arrivals : List Arrival) :
    ∃ s' c', Attended setup s arrivals s' arrivals ∧ OnlyCourier read s' c' ∧
      (c'.stage.isListening = true ∨ c'.stage = .gone) := by
  have afterOpening {s : Session} {c : Courier} {f : WireFrame} (single : OnlyCourier read s c)
      (at_ : c.stage = .opening f) : ∃ s' c', Attended setup s arrivals s' arrivals ∧
        OnlyCourier read s' c' ∧ (c'.stage.isListening = true ∨ c'.stage = .gone) := by
    refine ⟨_, _, .wakes .sent rfl (.rests _ _), single.wakes task rfl, .inl ?_⟩
    simp [Courier.step, at_, Courier.opened, task, Dialect.task, Stage.isListening]
  cases single.standing with
  | gone at_ toEnd => exact ⟨s, c, .rests s arrivals, single, .inr at_⟩
  | listens listening soFar => exact ⟨s, c, .rests s arrivals, single, .inl listening⟩
  | leaves at_ toEnd =>
    refine ⟨_, _, .wakes .onward rfl (.rests _ _), single.wakes task rfl, .inr ?_⟩
    simp [Courier.step, at_, Courier.report]
  | attaches at_ soFar =>
    refine ⟨_, _, .wakes .onward rfl (.rests _ _), single.wakes task rfl, .inl ?_⟩
    simp [Courier.step, at_, soFar.attach.1, Stage.isListening]
  | opens early soFar =>
    rcases early with at_ | ⟨f, at_⟩
    · have connected : OnlyCourier read (s.act setup (.wake 0 .connected)).session _ :=
        single.wakes task rfl
      have opening : ∃ f, (c.step setup s.core .connected).courier.stage = .opening f := by
        simp [Courier.step, at_, Courier.connected, task, Dialect.task, Dialect.Task.opening]
      obtain ⟨f, at_⟩ := opening
      obtain ⟨s', c', attended, reached⟩ := afterOpening connected at_
      exact ⟨s', c', .wakes .connected rfl attended, reached⟩
    · exact afterOpening single at_

theorem OnlyCourier.comesToEnd (task : setup.dialect = .task) {arrivals : List Arrival} {s : Session}
    (single : OnlyCourier read s c)
    (ends : ∃ a ∈ read ++ arrivals, (TaskStream.judge a).ends = true) :
    ∃ s' rest, Attended setup s arrivals s' rest ∧ ∀ c ∈ s'.couriers, c.stage = .gone := by
  induction arrivals generalizing s read c with
  | nil =>
    obtain ⟨s', c', attended, single, listening | gone⟩ := single.comesToListen task []
    · obtain ⟨a, member, ended⟩ := ends
      rw [List.append_nil] at member
      have unended := (single.standing.listening listening).unended a member
      rw [ended] at unended
      contradiction
    · refine ⟨s', [], attended, ?_⟩
      rw [single.couriers]
      simpa using gone
  | cons a rest ih =>
    obtain ⟨s', c', attended, single, listening | gone⟩ := single.comesToListen task (a :: rest)
    · have found : s'.couriers[0]? = some c' := by rw [single.couriers]; rfl
      rw [List.append_cons] at ends
      obtain ⟨last, later, onward, gone⟩ := ih (single.reads task listening a) ends
      exact ⟨last, later, attended.trans (.reads found listening onward), gone⟩
    · refine ⟨s', a :: rest, attended, ?_⟩
      rw [single.couriers]
      simpa using gone

theorem startAlone (setup : Setup) :
    OnlyCourier [] (new.act setup .start).session (.launch 0) where
  couriers := rfl
  standing := .opens (.inl rfl) ⟨rfl, rfl, ⟨rfl, rfl, rfl, rfl⟩, nofun, [], [], rfl, rfl, .nil⟩

theorem readersAgree (setup : Setup) (task : setup.dialect = .task) (frames : List WireFrame)
    {ending : Arrival} (ends : ending = .hungUp ∨ ∃ e, ending = .failed e) {s : Session}
    {rest : List Arrival} (attended : Attended setup (new.act setup .start).session
      (frames.map .frame ++ [ending]) s rest) :
    (∃ s' rest', Attended setup s rest s' rest' ∧ ∀ c ∈ s'.couriers, c.stage = .gone) ∧
    ((∀ c ∈ s.couriers, c.stage = .gone) → ∀ reads, frames.length + 1 < reads →
      ∃ replies results failure last,
        let consumed := TaskStream.consume reads .reading (frames.map .frame ++ [ending])
        consumed.items = replies.map .ok ++ failure.toList.map .error ∧
        consumed.stop = some .ended ∧
        s.core.told = results.map .result ++ [last] ∧
        List.Forall₂ SameReply replies results ∧ SameEnd failure last) := by
  have ended : (TaskStream.judge ending).ends = true := by
    rcases ends with rfl | ⟨e, rfl⟩ <;> rfl
  obtain ⟨more, c, whole, single⟩ := attended.single task (startAlone setup)
  rw [List.nil_append] at single
  refine ⟨?_, fun left reads enough => ?_⟩
  · refine single.comesToEnd task ⟨ending, ?_, ended⟩
    rw [← whole]
    exact List.mem_append_right _ List.mem_cons_self
  · have gone : c.stage = .gone := left c (by rw [single.couriers]; exact List.mem_cons_self)
    -- Once the courier is gone, all that was taken from the connection ends with the last of it.
    cases single.standing with
    | opens early _ => rcases early with at_ | ⟨f, at_⟩ <;> (rw [at_] at gone; contradiction)
    | attaches at_ _ | leaves at_ _ =>
      rw [at_] at gone
      contradiction
    | listens listening _ =>
      rw [gone] at listening
      contradiction
    | gone _ toEnd =>
      obtain ⟨before, a, rfl, endsAt⟩ := toEnd.ends
      obtain ⟨replies, results, failure, last, items, told, same, sameEnd⟩ := toEnd.same
      rw [List.append_assoc, List.singleton_append] at whole
      have length := congrArg List.length whole
      simp only [List.length_append, List.length_map, List.length_cons, List.length_nil] at length
      refine ⟨replies, results, failure, last, ?_⟩
      rw [whole, TaskStream.consumeEnds endsAt (by omega)]
      exact ⟨items, rfl, told, same, sameEnd⟩

end

def chimeMessage (event : String) : Json :=
  .object [("header", .object [("event", .string event)]),
    ("payload", .object [("output", .object [("text", .string "ding")])])]

def chimeFrames : List WireFrame :=
  [.binary [1], .ofJson (chimeMessage "task-started"), .binary [2],
    .ofJson (chimeMessage "task-finished")]

def chimePayloads : List Payload :=
  [.binary [1], .binary [2], .json (.object [("text", .string "ding")])]

def chimeSetup : Setup :=
  ⟨.task, .new "cosyvoice-v1", "", [], ⟨fun _ => "", fun _ _ => "", fun _ => "", fun _ => ""⟩⟩

theorem chimeReadAlike : chimeSetup.dialect = .task ∧ ∃ s rest,
    Attended chimeSetup (new.act chimeSetup .start).session (chimeFrames.map .frame ++ [.hungUp]) s
      rest ∧
    (∀ c ∈ s.couriers, c.stage = .gone) ∧
    ∃ results : List Reply, s.core.told = results.map .result ++ [.completed] ∧
      results.map (·.payload) = chimePayloads := by
  obtain ⟨⟨s, rest, attended, left⟩, _⟩ := readersAgree chimeSetup rfl chimeFrames (.inl rfl)
    (.rests _ _)
  obtain ⟨replies, results, failure, last, items, _, told, same, sameEnd⟩ :=
    (readersAgree chimeSetup rfl chimeFrames (.inl rfl) attended).2 left 6 (by decide)
  have read : (TaskStream.consume 6 .reading (chimeFrames.map .frame ++ [.hungUp])).items.filterMap
      (fun i => i.toOption.map (·.payload)) = chimePayloads := by decide +kernel
  have flawless : (TaskStream.consume 6 .reading (chimeFrames.map .frame ++ [.hungUp])).items.all
      (·.isOk) = true := by decide +kernel
  rw [items] at read flawless
  cases failure with
  | some e => simp [Except.isOk, Except.toBool] at flawless
  | none =>
    cases sameEnd
    refine ⟨rfl, s, rest, attended, left, results, told, (samePayloads same).trans ?_⟩
    simpa [List.filterMap_map, Except.toOption, Function.comp_def] using read

end Session

end ModelServing
