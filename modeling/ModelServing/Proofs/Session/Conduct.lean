import ModelServing.Dialect.Task
import ModelServing.Proofs.Session.Informed

/-! How couriers conduct themselves on a connection, whatever the server and the callers do: what may
happen there depends on what has happened before, and everything that happens was permitted. -/
namespace ModelServing.Session

inductive Exchange where
  | asked (d : Demand)
  | read (f : WireFrame) (last : Bool)
  deriving DecidableEq

namespace Exchange

def asked? : Exchange → Option Demand
  | .asked d => some d
  | .read _ _ => none

def sent? (e : Exchange) : Option WireFrame := e.asked?.bind Demand.frame?

def isEnd : Exchange → Bool
  | .asked (.close _ _) | .asked .giveUp => true
  | _ => false

def goesOn : Exchange → Bool
  | .read _ last => !last
  | e => !e.isEnd

def acknowledges (d : Dialect) : Exchange → Bool
  | .read f _ => d.isStarted f
  | .asked _ => false

end Exchange

def sentOn (log : List Exchange) : List WireFrame := log.filterMap Exchange.sent?

def Core.outlives (c : Core) (generation : Nat) (d : Dialect) (f : WireFrame) : Bool :=
  match c.receive generation d f with
  | (_, .error _) => false
  | (c', .ok _) => c'.isLive generation

def Courier.reading (c : Courier) (setup : Setup) (core : Core) (signal : Signal) : List Exchange :=
  (c.hears signal).toList.map fun f => .read f (!core.outlives c.generation setup.dialect f)

def readings (s : Session) (setup : Setup) : Action → List (Nat × Exchange)
  | .wake n signal =>
    match s.couriers[n]? with
    | none => []
    | some c => (c.reading setup s.core signal).map (n, ·)
  | _ => []

def exchange (s : Session) (setup : Setup) (action : Action) : List (Nat × Exchange) :=
  s.readings setup action ++ (s.act setup action).trace.map fun e => (e.1, .asked e.2)

def exchanges (s : Session) (setup : Setup) : List Action → List (Nat × Exchange)
  | [] => []
  | action :: rest => s.exchange setup action ++ (s.act setup action).session.exchanges setup rest

/-- What may happen on the connection of a run after all that happened there before. -/
def Permits (setup : Setup) (generation : Nat) (before : List Exchange) : Exchange → Prop
  | .asked (.connect url headers) => before = [] ∧ url = setup.url ∧ headers = setup.headers
  | .asked (.send _) =>
    (∀ e ∈ before, e.goesOn = true) ∧
    -- Behind the opening, only after it was acknowledged.
    ((setup.openingOf generation).length ≤ (sentOn before).length →
      setup.dialect.awaitsAck = true → ∃ e ∈ before, e.acknowledges setup.dialect = true)
  | .read _ _ => (∀ e ∈ before, e.goesOn = true) ∧ setup.openingOf generation <+: sentOn before
  | .asked (.close code _) =>
    code = 1000 ∧ (∀ e ∈ before, e.isEnd = false) ∧ setup.openingOf generation <+: sentOn before
  | .asked .giveUp => .asked .giveUp ∉ before

def Conforms (setup : Setup) (generation : Nat) (log : List Exchange) : Prop :=
  ∀ before e after, log = before ++ e :: after → Permits setup generation before e

section
variable {setup : Setup} {generation : Nat} {log : List Exchange}

theorem Conforms.next (conforms : Conforms setup generation log) {e : Exchange}
    (permits : Permits setup generation log e) : Conforms setup generation (log ++ [e]) := by
  intro before x after same
  rcases List.eq_nil_or_concat after with rfl | ⟨after', y, rfl⟩
  · obtain ⟨rfl, last⟩ := List.append_inj' same rfl
    cases List.singleton_inj.mp last
    exact permits
  · rw [List.concat_eq_append, ← List.cons_append, ← List.append_assoc] at same
    exact conforms before x after' (List.append_inj' same rfl).1

theorem sentAppend (log more : List Exchange) : sentOn (log ++ more) = sentOn log ++ sentOn more :=
  List.filterMap_append

theorem undisturbedEnds (undisturbed : ∀ e ∈ log, e.goesOn = true) : ∀ e ∈ log, e.isEnd = false := by
  intro e member
  have goesOn := undisturbed e member
  cases e with
  | read f last => rfl
  | asked d => simpa [Exchange.goesOn] using goesOn

end

def Stage.isCarrying : Stage → Bool
  | .attaching | .pumping _ | .sending _ => true
  | _ => false

structure Orderly (setup : Setup) (c : Courier) (log : List Exchange) : Prop where
  conforms : Conforms setup c.generation log
  starts : log.head? = some (.asked (.connect setup.url setup.headers))
  fresh : c.stage = .connecting → c.used = 0 ∧ log.length = 1
  undisturbed : c.stage.isUnderway = true → ∀ e ∈ log, e.goesOn = true
  opened : c.stage.isUnderway = true → c.stage ≠ .connecting →
    setup.openingOf c.generation <+: sentOn log
  acknowledged : c.stage.isCarrying = true → setup.dialect.awaitsAck = true →
    ∃ e ∈ log, e.acknowledges setup.dialect = true
  released : c.stage.isUnderway = false → .asked .giveUp ∈ log

section
variable {setup : Setup} {c : Courier} {core : Core} {log : List Exchange}

theorem readingDeaf {signal : Signal} (deaf : c.hears signal = none) :
    c.reading setup core signal = [] := by
  rw [Courier.reading, deaf]
  rfl

theorem readingHeard (listening : c.stage.isListening = true) (f : WireFrame) :
    c.reading setup core (.arrived (.frame f)) =
      [.read f (!core.outlives c.generation setup.dialect f)] := by
  simp [Courier.reading, Courier.hears, listening]

theorem Conforms.released (conforms : Conforms setup c.generation log)
    (unended : ∀ e ∈ log, e.isEnd = false) {demands : List Demand} (farewell : c.Farewell demands)
    (opened : c.stage.isUnderway = true → c.stage ≠ .connecting →
      setup.openingOf c.generation <+: sentOn log) :
    Conforms setup c.generation (log ++ (demands ++ [Demand.giveUp]).map Exchange.asked) := by
  have kept : .asked .giveUp ∉ log := fun member => by
    have ended := unended _ member
    contradiction
  cases farewell with
  | silent => exact conforms.next kept
  | polite reason idle =>
    have said : Conforms setup c.generation (log ++ [.asked (.closeNormally reason)]) := by
      refine conforms.next ⟨rfl, unended, ?_⟩
      rcases idle with listening | attaching
      · obtain ⟨underway, connected⟩ := listeningUnderway listening
        exact opened underway connected
      · exact opened (by rw [attaching]; rfl) (by rw [attaching]; decide)
    have again := said.next (e := .asked .giveUp) (by simp [Permits, kept, Demand.closeNormally])
    rw [List.append_assoc] at again
    exact again

theorem headAppend {α : Type} {l : List α} {a : α} (head : l.head? = some a) (more : List α) :
    (l ++ more).head? = some a := by
  rw [List.head?_append, head]
  rfl

theorem Orderly.letGo {more : List Exchange} {failure : Option Error} {demands : List Demand}
    (orderly : Orderly setup c log)
    (conforms : Conforms setup c.generation
      (log ++ (more ++ (demands ++ [Demand.giveUp]).map Exchange.asked))) :
    Orderly setup { c with stage := .leaving failure }
      (log ++ (more ++ (demands ++ [Demand.giveUp]).map Exchange.asked)) where
  conforms := conforms
  starts := headAppend orderly.starts _
  fresh := by simp
  undisturbed := by simp [Stage.isUnderway]
  opened := by simp [Stage.isUnderway]
  acknowledged := by simp [Stage.isCarrying]
  released _ := by simp

theorem Orderly.extend (orderly : Orderly setup c log) (underway : c.stage.isUnderway = true)
    (connected : c.stage ≠ .connecting) {e : Exchange}
    (permits : Permits setup c.generation log e) (goesOn : e.goesOn = true) :
    Orderly setup c (log ++ [e]) where
  conforms := orderly.conforms.next permits
  starts := headAppend orderly.starts _
  fresh connecting := absurd connecting connected
  undisturbed _ x member := by
    rcases List.mem_append.mp member with old | new
    · exact orderly.undisturbed underway x old
    · rw [List.mem_singleton.mp new]
      exact goesOn
  opened _ _ := by
    rw [sentAppend]
    exact (orderly.opened underway connected).trans (List.prefix_append _ _)
  acknowledged carrying awaits := by
    obtain ⟨x, member, acknowledges⟩ := orderly.acknowledged carrying awaits
    exact ⟨x, List.mem_append_left _ member, acknowledges⟩
  released gone := absurd (gone.symm.trans underway) (by decide)

theorem Orderly.becomes (orderly : Orderly setup c log) (underway : c.stage.isUnderway = true)
    {c' : Courier} (generation : c'.generation = c.generation)
    (underway' : c'.stage.isUnderway = true) (connected' : c'.stage ≠ .connecting)
    (opened : setup.openingOf c.generation <+: sentOn log)
    (acknowledged : c'.stage.isCarrying = true → setup.dialect.awaitsAck = true →
      ∃ e ∈ log, e.acknowledges setup.dialect = true) : Orderly setup c' log where
  conforms := by
    rw [generation]
    exact orderly.conforms
  starts := orderly.starts
  fresh connecting := absurd connecting connected'
  undisturbed _ := orderly.undisturbed underway
  opened _ _ := by
    rw [generation]
    exact opened
  acknowledged := acknowledged
  released gone := absurd (gone.symm.trans underway') (by decide)

theorem Orderly.alone (orderly : Orderly setup c log) (connecting : c.stage = .connecting) :
    log = [.asked (.connect setup.url setup.headers)] := by
  have starts := orderly.starts
  have one := (orderly.fresh connecting).2
  obtain ⟨e, rfl⟩ := List.length_eq_one_iff.mp one
  cases Option.some.inj starts
  rfl

theorem Orderly.afterOpening (orderly : Orderly setup c log)
    (silent : c.stage = .connecting → setup.dialect.opening setup.request
      (setup.ids.task c.generation) (setup.ids.event c.generation c.used) = none)
    (early : c.stage = .connecting ∨ ∃ f, c.stage = .opening f) :
    c.stage.isUnderway = true ∧ setup.openingOf c.generation <+: sentOn log := by
  rcases early with connecting | ⟨f, opening⟩
  · have nothing := silent connecting
    rw [(orderly.fresh connecting).1] at nothing
    refine ⟨by rw [connecting]; rfl, ?_⟩
    rw [Setup.openingOf, nothing]
    exact List.nil_prefix
  · have underway : c.stage.isUnderway = true := by rw [opening]; rfl
    exact ⟨underway, orderly.opened underway (by simp [opening])⟩

theorem Orderly.advances (orderly : Orderly setup c log) {stage : Stage}
    (next : c.Advances setup stage) : Orderly setup { c with stage } log := by
  cases next with
  | awaitingAck acknowledged silent early =>
    obtain ⟨underway, opened⟩ := orderly.afterOpening silent early
    exact orderly.becomes underway rfl rfl (by simp) opened (by simp [Stage.isCarrying])
  | attaching unacknowledged silent early =>
    obtain ⟨underway, opened⟩ := orderly.afterOpening silent early
    exact orderly.becomes underway rfl rfl (by simp) opened (by simp [unacknowledged])
  | drained pumping =>
    have underway : c.stage.isUnderway = true := by rw [pumping]; rfl
    have carrying : c.stage.isCarrying = true := by rw [pumping]; rfl
    exact orderly.becomes underway rfl rfl (by simp) (orderly.opened underway (by simp [pumping]))
      fun _ => orderly.acknowledged carrying
  | sent sending =>
    have underway : c.stage.isUnderway = true := by rw [sending]; rfl
    have carrying : c.stage.isCarrying = true := by rw [sending]; rfl
    exact orderly.becomes underway rfl rfl (by simp) (orderly.opened underway (by simp [sending]))
      fun _ => orderly.acknowledged carrying

theorem Orderly.opens (orderly : Orderly setup c log) (connecting : c.stage = .connecting)
    {f : WireFrame} (first : setup.dialect.opening setup.request (setup.ids.task c.generation)
      (setup.ids.event c.generation c.used) = some f) :
    Orderly setup { c with stage := .opening f, used := c.used + 1 }
      (log ++ [.asked (.send f)]) := by
  have undisturbed := orderly.undisturbed (by rw [connecting]; rfl)
  have opening : setup.openingOf c.generation = [f] := by
    rw [(orderly.fresh connecting).1] at first
    rw [Setup.openingOf, first]
    rfl
  have sent : sentOn log = [] := by
    rw [orderly.alone connecting]
    rfl
  refine ⟨?_, headAppend orderly.starts _, by simp, ?_, ?_, by simp [Stage.isCarrying],
    by simp [Stage.isUnderway]⟩
  · refine orderly.conforms.next ⟨undisturbed, ?_⟩
    rw [opening, sent]
    simp
  · intro _ x member
    rcases List.mem_append.mp member with old | new
    · exact undisturbed x old
    · rw [List.mem_singleton.mp new]
      rfl
  · intro _ _
    rw [sentAppend, sent, opening]
    exact List.prefix_refl [f]

theorem Orderly.reads (orderly : Orderly setup c log) (listening : c.stage.isListening = true)
    {f : WireFrame} {core' : Core} {inbound : Inbound} {stage : Stage}
    (received : core.receive c.generation setup.dialect f = (core', .ok inbound))
    (goesOn : stage = c.stage ∧ (inbound = .delivered ∨ inbound = .started) ∨
      inbound = .started ∧ stage = .attaching) :
    Orderly setup { c with stage } (log ++ c.reading setup core (.arrived (.frame f))) := by
  obtain ⟨underway, connected⟩ := listeningUnderway listening
  have open_ : inbound = .delivered ∨ inbound = .started := by
    rcases goesOn with ⟨_, either⟩ | ⟨started, _⟩
    · exact either
    · exact .inr started
  obtain ⟨live, kind⟩ := receivedGoesOn received open_
  have outlives : core.outlives c.generation setup.dialect f = true := by
    rw [Core.outlives, received]
    exact live
  rw [readingHeard listening, outlives]
  have read := orderly.extend underway connected (e := .read f false)
    ⟨orderly.undisturbed underway, orderly.opened underway connected⟩ rfl
  rcases goesOn with ⟨same, _⟩ | ⟨started, attaching⟩
  · subst same
    exact read
  · subst attaching
    refine read.becomes underway rfl rfl (by simp) (read.opened underway connected) fun _ _ => ?_
    exact ⟨.read f false, by simp, kind started⟩

theorem Orderly.dismissed (orderly : Orderly setup c log) (listening : c.stage.isListening = true)
    (f : WireFrame) {failure : Option Error} {demands : List Demand}
    (farewell : c.Farewell demands) :
    Orderly setup { c with stage := .leaving failure } (log ++
      (c.reading setup core (.arrived (.frame f)) ++
        (demands ++ [Demand.giveUp]).map Exchange.asked)) := by
  obtain ⟨underway, connected⟩ := listeningUnderway listening
  have undisturbed := orderly.undisturbed underway
  have opened := orderly.opened underway connected
  rw [readingHeard listening]
  refine orderly.letGo ?_
  rw [← List.append_assoc]
  generalize (!core.outlives c.generation setup.dialect f) = last
  have heard : Conforms setup c.generation (log ++ [.read f last]) :=
    orderly.conforms.next ⟨undisturbed, opened⟩
  refine heard.released ?_ farewell fun _ _ => ?_
  · intro x member
    rcases List.mem_append.mp member with old | new
    · exact undisturbedEnds undisturbed x old
    · rw [List.mem_singleton.mp new]
      rfl
  · rw [sentAppend]
    exact opened.trans (List.prefix_append _ _)

theorem Orderly.course (orderly : Orderly setup c log) {signal : Signal} {move : Courier.Move}
    (course : Courier.Course setup c core signal move) :
    Orderly setup move.courier
      (log ++ (c.reading setup core signal ++ move.demands.map .asked)) := by
  cases course with
  | stays deaf =>
    rw [readingDeaf deaf]
    simpa [Courier.stay] using orderly
  | advances deaf next =>
    rw [readingDeaf deaf]
    simpa using orderly.advances next
  | opens connecting first =>
    rw [readingDeaf rfl]
    exact orderly.opens connecting first
  | attaches attaching attached =>
    have underway : c.stage.isUnderway = true := by rw [attaching]; rfl
    have carrying : c.stage.isCarrying = true := by rw [attaching]; rfl
    rw [readingDeaf rfl, List.map_nil, List.append_nil, List.append_nil]
    exact orderly.becomes underway rfl rfl (by simp) (orderly.opened underway (by simp [attaching]))
      fun _ => orderly.acknowledged carrying
  | @sends f pumping offered =>
    have underway : c.stage.isUnderway = true := by rw [pumping]; rfl
    have connected : c.stage ≠ .connecting := by simp [pumping]
    have carrying : c.stage.isCarrying = true := by rw [pumping]; rfl
    have sent := orderly.extend underway connected
      (e := .asked (.send (setup.shaped c.generation c.used f)))
      ⟨orderly.undisturbed underway, fun _ => orderly.acknowledged carrying⟩ rfl
    rw [readingDeaf rfl]
    exact sent.becomes underway rfl rfl (by simp) (sent.opened underway connected)
      fun _ => sent.acknowledged carrying
  | reads listening received goesOn =>
    rw [List.map_nil, List.append_nil]
    exact orderly.reads listening received goesOn
  | @dismissed f core' result failure demands listening received verdict farewell =>
    exact orderly.dismissed listening f farewell
  | departs deaf underway farewell =>
    have unended := undisturbedEnds (orderly.undisturbed underway)
    rw [readingDeaf deaf]
    refine orderly.letGo ?_
    rw [List.nil_append]
    exact orderly.conforms.released unended farewell orderly.opened
  | @reports failure leaving =>
    have gone : c.stage.isUnderway = false := by rw [leaving]; rfl
    rw [readingDeaf rfl]
    simp only [Courier.report, List.map_nil, List.append_nil]
    exact ⟨orderly.conforms, orderly.starts, by simp, by simp [Stage.isUnderway],
      by simp [Stage.isUnderway], by simp [Stage.isCarrying], fun _ => orderly.released gone⟩

end

structure Proper (setup : Setup) (s : Session) (log : List (Nat × Exchange)) : Prop where
  orderly : ∀ n (c : Courier), s.couriers[n]? = some c → Orderly setup c (entriesOf log n)
  known : ∀ e ∈ log, e.1 < s.couriers.length

section
variable {setup : Setup} {s : Session} {log : List (Nat × Exchange)}

theorem launchOrderly (setup : Setup) (generation : Nat) :
    Orderly setup (.launch generation) [.asked (.connect setup.url setup.headers)] where
  conforms := by
    have nothing : Conforms setup generation [] := by
      intro before e after same
      simp at same
    exact nothing.next ⟨rfl, rfl, rfl⟩
  starts := rfl
  fresh _ := ⟨rfl, rfl⟩
  undisturbed _ e member := by
    rw [List.mem_singleton.mp member]
    rfl
  opened _ connected := absurd rfl connected
  acknowledged := by simp [Courier.launch, Stage.isCarrying]
  released := by simp [Courier.launch, Stage.isUnderway]

theorem Proper.launch (proper : Proper setup s log) :
    Proper setup (s.launch setup).1 (log ++ (s.launch setup).2.map fun e => (e.1, .asked e.2)) where
  orderly n c found := by
    simp only [Session.launch] at found ⊢
    rw [entriesOfAppend, entriesOfMapped]
    by_cases old : n < s.couriers.length
    · rw [List.getElem?_append_left old] at found
      have other : entriesOf [(s.couriers.length, Demand.connect setup.url setup.headers)] n = [] :=
        entriesOfOther (Nat.ne_of_gt old) [_]
      rw [other, List.map_nil, List.append_nil]
      exact proper.orderly n c found
    · have last : n = s.couriers.length := by
        have bound := (List.getElem?_eq_some_iff.mp found).1
        simp only [List.length_append, List.length_singleton] at bound
        omega
      subst last
      rw [List.getElem?_concat_length] at found
      cases Option.some.inj found
      have own : entriesOf [(s.couriers.length, Demand.connect setup.url setup.headers)]
          s.couriers.length = [.connect setup.url setup.headers] := entriesOfOwn _ [_]
      rw [own, entriesOfAbsent fun e member => Nat.ne_of_lt (proper.known e member)]
      exact launchOrderly setup _
  known e member := by
    simp only [Session.launch, List.length_append, List.length_singleton] at member ⊢
    rcases List.mem_append.mp member with old | new
    · exact Nat.lt_succ_of_lt (proper.known e old)
    · rw [List.mem_singleton.mp new]
      exact Nat.lt_succ_self _

theorem Proper.launchIf (proper : Proper setup s log) (launch : Bool) :
    Proper setup (s.launchIf setup launch).1
      (log ++ (s.launchIf setup launch).2.map fun e => (e.1, .asked e.2)) := by
  cases launch with
  | false =>
    rw [Session.launchIf, List.map_nil, List.append_nil]
    exact proper
  | true => exact proper.launch

theorem Proper.recore (proper : Proper setup s log) (core : Core) :
    Proper setup { s with core } log := ⟨proper.orderly, proper.known⟩

theorem Proper.attempt (proper : Proper setup s log) (attempted : Core × Except Error Bool) :
    Proper setup (s.attempt setup attempted).session
      (log ++ (s.attempt setup attempted).trace.map fun e => (e.1, .asked e.2)) := by
  obtain ⟨core, result⟩ := attempted
  cases result with
  | error e =>
    rw [Session.attempt, List.map_nil, List.append_nil]
    exact proper.recore core
  | ok launch => exact (proper.recore core).launchIf launch

theorem Proper.wake (proper : Proper setup s log) (n : Nat) (signal : Signal) :
    Proper setup (s.act setup (.wake n signal)).session
      (log ++ s.exchange setup (.wake n signal)) := by
  simp only [Session.act, exchange, readings, Session.wake]
  cases found : s.couriers[n]? with
  | none =>
    rw [List.map_nil, List.append_nil, List.append_nil]
    exact proper
  | some courier =>
    have within := (List.getElem?_eq_some_iff.mp found).1
    have orderly := (proper.orderly n courier found).course
      (Courier.stepCourse setup courier s.core signal)
    dsimp only
    generalize courier.step setup s.core signal = move at orderly
    have whole : (courier.reading setup s.core signal).map (n, ·) ++
        (move.demands.map fun d => (n, d)).map (fun e => (e.1, Exchange.asked e.2)) =
        (courier.reading setup s.core signal ++ move.demands.map Exchange.asked).map (n, ·) := by
      simp only [List.map_append, List.map_map, Function.comp_def]
    rw [whole]
    refine ⟨?_, ?_⟩
    · intro m c same
      rw [entriesOfAppend]
      by_cases own : n = m
      · subst own
        rw [List.getElem?_set_self within] at same
        cases Option.some.inj same
        rw [entriesOfOwn]
        exact orderly
      · rw [List.getElem?_set_ne own] at same
        rw [entriesOfOther own, List.append_nil]
        exact proper.orderly m c same
    · intro e member
      rw [List.length_set]
      rcases List.mem_append.mp member with old | new
      · exact proper.known e old
      · obtain ⟨_, _, rfl⟩ := List.mem_map.mp new
        exact within

theorem Proper.act (proper : Proper setup s log) (action : Action) :
    Proper setup (s.act setup action).session (log ++ s.exchange setup action) := by
  cases action with
  | start => exact proper.attempt s.core.start
  | send f => exact proper.attempt (s.core.send f)
  | stop => exact (proper.recore _).launchIf s.core.requestStop.2
  | cancel | reset => simpa [Session.act, exchange, readings] using proper.recore _
  | wake n signal => exact proper.wake n signal

theorem Proper.run (proper : Proper setup s log) (actions : List Action) :
    Proper setup (s.run setup actions).1 (log ++ s.exchanges setup actions) := by
  induction actions generalizing s log with
  | nil =>
    rw [Session.run, exchanges, List.append_nil]
    exact proper
  | cons action rest ih =>
    have next := ih (proper.act action)
    rw [List.append_assoc] at next
    exact next

theorem properRun (setup : Setup) (actions : List Action) :
    Proper setup (new.run setup actions).1 (new.exchanges setup actions) := by
  have nothing : Proper setup new [] := ⟨by simp [new], by simp⟩
  exact nothing.run actions

end

theorem askedReading (c : Courier) (setup : Setup) (core : Core) (signal : Signal) :
    (c.reading setup core signal).filterMap Exchange.asked? = [] := by
  rw [Courier.reading, List.filterMap_map]
  exact List.filterMap_eq_nil_iff.mpr fun _ _ => rfl

theorem askedReadings (s : Session) (setup : Setup) (action : Action) (n : Nat) :
    (entriesOf (s.readings setup action) n).filterMap Exchange.asked? = [] := by
  cases action with
  | start | send _ | stop | cancel | reset => rfl
  | wake m signal =>
    simp only [readings]
    cases s.couriers[m]? with
    | none => rfl
    | some c =>
      dsimp only
      by_cases own : m = n
      · subst own
        rw [entriesOfOwn]
        exact askedReading c setup s.core signal
      · rw [entriesOfOther own]
        rfl

theorem askedExchange (s : Session) (setup : Setup) (action : Action) (n : Nat) :
    (entriesOf (s.exchange setup action) n).filterMap Exchange.asked? =
      entriesOf (s.act setup action).trace n := by
  rw [exchange, entriesOfAppend, List.filterMap_append, askedReadings, List.nil_append,
    entriesOfMapped, List.filterMap_map]
  exact List.filterMap_some

theorem askedExchanges (s : Session) (setup : Setup) (actions : List Action) (n : Nat) :
    (entriesOf (s.exchanges setup actions) n).filterMap Exchange.asked? =
      entriesOf (s.run setup actions).2 n := by
  induction actions generalizing s with
  | nil => rfl
  | cons action rest ih =>
    rw [exchanges, entriesOfAppend, List.filterMap_append, askedExchange, ih]
    exact (entriesOfAppend _ _ n).symm

section
open Dialect

end

end ModelServing.Session
