import ModelServing.Dialect.Realtime
import ModelServing.Proofs.Session.Consistency
import ModelServing.Proofs.Session.Hearing

/-! Whose results are. A run keeps the request that was named first, whatever comes later. Its session is the
one that was created last, so it keeps that only while nobody creates another one, or one without a name. -/
namespace ModelServing

theorem EventTable.classifyEntry {table : EventTable} {name : Option String} {kind : EventKind}
    (classified : table.classify name = kind) (other : kind ≠ .data) : ∃ e ∈ table, e.2 = kind := by
  cases name with
  | none => exact absurd classified.symm other
  | some name =>
    rw [classify] at classified
    cases found : table.reverse.find? (·.1 = name) with
    | none =>
      rw [found] at classified
      exact absurd classified.symm other
    | some e =>
      rw [found] at classified
      exact ⟨e, List.mem_reverse.mp (List.mem_of_find?_eq_some found), classified⟩

namespace Session

structure Taken where
  dialect : Dialect
  frame : WireFrame

namespace Taken

def replies (t : Taken) : List Reply := t.dialect.replies t.frame

def Keeps (t : Taken) (session : String) : Prop :=
  ∀ message, t.frame.json? = some message → t.dialect.classify message = .sessionCreated →
    t.dialect.sessionId message = some session

theorem keepsAfter (t : Taken) (session : String) :
    t.dialect.sessionAfter (some session) t.frame = some session ↔ t.Keeps session := by
  unfold Dialect.sessionAfter Keeps
  cases t.frame.json? with
  | none => simp
  | some message =>
    by_cases created : t.dialect.classify message = .sessionCreated <;> simp [created]

theorem keepsUntold {t : Taken} (untold : t.replies = []) (session : String) : t.Keeps session := by
  intro message parsed created
  obtain ⟨d, f⟩ := t
  cases f with
  | binary bytes => contradiction
  | text s =>
    have read : Json.parse? s = some message := parsed
    simp [replies, Dialect.replies, read, created] at untold

theorem taskKeeps {t : Taken} (task : t.dialect = .task) (session : String) : t.Keeps session := by
  intro message _ created
  rw [task] at created
  obtain ⟨e, member, kind⟩ := EventTable.classifyEntry created (by decide)
  have others : ∀ e ∈ Dialect.task.events, e.2 ≠ .sessionCreated := by decide
  exact absurd kind (others e member)

end Taken

structure Run.Hears (r r' : Run) (taken : Option Taken) (told : List Event) : Prop where
  session : r'.sessionId = taken.elim r.sessionId fun t => t.dialect.sessionAfter r.sessionId t.frame
  request : r'.requestId = taken.elim r.requestId fun t => t.dialect.requestAfter r.requestId t.frame
  results : told.filterMap Event.result? =
    taken.elim [] fun t => t.replies.map (·.tagged r'.sessionId r'.requestId)

namespace Run
variable {r r' : Run}

theorem Hears.refl (r : Run) : r.Hears r none [] := ⟨rfl, rfl, rfl⟩

theorem startHears (r : Run) : r.Hears r.start.1 none [] := by
  unfold start
  split <;> exact ⟨rfl, rfl, rfl⟩

theorem enqueueHears (r : Run) (f : Frame) : r.Hears (r.enqueue f).1 none [] := by
  have step := enqueues r f
  generalize r.enqueue f = entered at step
  cases step with
  | refused => exact .refl r
  | waits | passes | lost | ended => exact ⟨rfl, rfl, rfl⟩

theorem attachHears (r : Run) (attended : Bool) : r.Hears (r.attach attended).1 none [] := by
  unfold attach
  split <;> exact ⟨rfl, rfl, rfl⟩

theorem closeHears (r : Run) (outcome : Outcome) {last : Event} (silent : last.result? = none) :
    r.Hears (r.close outcome last).1 none (r.close outcome last).2 := by
  unfold close
  split
  · exact .refl r
  · exact ⟨rfl, rfl, List.filterMap_cons_none silent⟩

theorem endedHears (r : Run) : r.Hears r.ended.1 none r.ended.2 := by
  unfold ended
  split
  · exact closeHears r _ rfl
  · exact closeHears r _ rfl

theorem cancelHears (r : Run) : r.Hears r.cancel.1 none r.cancel.2 := by
  rcases cancelSteps r with same | ⟨_, same⟩
  · rw [same]
    exact .refl r
  · rw [same]
    exact ⟨rfl, rfl, rfl⟩

theorem requestStopHears (r : Run) : r.Hears r.requestStop.1 none r.requestStop.2.2 := by
  have queued := enqueueHears r .stop
  rcases requestStopSteps r with ⟨_, same⟩ | ⟨r', result, entered, same⟩
  · rw [same]
    exact .refl r
  · rw [entered] at queued
    cases result with
    | ok launch =>
      rw [same]
      exact queued
    | error e =>
      have silent : (Event.failed e).result? = none := rfl
      have failed := closeHears r' (.failed e.toApiError) silent
      rw [same]
      exact ⟨failed.session.trans queued.session, failed.request.trans queued.request,
        failed.results⟩

theorem receiveHears {d : Dialect} {f : WireFrame} {events : List Event} {result}
    (reception : r.Reception d f (r', events, result)) : r.Hears r' (some ⟨d, f⟩) events := by
  cases reception with
  | goesOn unended verdict => exact ⟨rfl, rfl, tellsResults r d f⟩
  | @ends last outcome json ended told =>
    have silent := terminalSilent (terminalOfOutcome told)
    have kept := closeHears (r.named d f) outcome silent
    refine ⟨kept.session, kept.request, ?_⟩
    rw [List.filterMap_append, List.filterMap_cons_none silent, List.filterMap_nil, List.append_nil,
      kept.session, kept.request]
    exact tellsResults r d f
  | fails json ended silent =>
    have same := namedUnread r d json
    refine ⟨congrArg Run.sessionId same.symm, congrArg Run.requestId same.symm, ?_⟩
    have results := tellsResults r d f
    rwa [silent, same] at results

theorem Hears.requestKept {taken : Option Taken} {told : List Event} (hears : r.Hears r' taken told)
    {request : String} (assigned : r.requestId = some request) :
    r'.requestId = some request ∧ (told.filterMap Event.result?).map (·.requestId) =
      (taken.toList.flatMap Taken.replies).map fun reply =>
        reply.requestId.orElse fun _ => some request := by
  have still : r'.requestId = some request := by
    rw [hears.request, assigned]
    cases taken <;> rfl
  refine ⟨still, ?_⟩
  rw [hears.results, still]
  cases taken with
  | none => rfl
  | some t => simp [Reply.tagged]

theorem Hears.sessionKept {taken : Option Taken} {told : List Event} (hears : r.Hears r' taken told)
    {session : String} (assigned : r.sessionId = some session) :
    (r'.sessionId = some session ↔ ∀ t ∈ taken.toList, t.Keeps session) ∧
    ((∀ result ∈ told.filterMap Event.result?, result.sessionId = some session) ↔
      ∀ t ∈ taken.toList, t.Keeps session) := by
  have after := hears.session
  have results := hears.results
  rw [assigned] at after
  cases taken with
  | none =>
    rw [Option.elim_none] at after results
    simp [after, results]
  | some t =>
    have still : r'.sessionId = some session ↔ t.Keeps session := by
      rw [after]
      exact t.keepsAfter session
    simp only [Option.toList_some, List.forall_mem_singleton]
    refine ⟨still, ?_⟩
    rw [results, Option.elim_some, List.forall_mem_map, ← still]
    refine ⟨fun tagged => ?_, fun same _ _ => same⟩
    cases untold : t.replies with
    | nil => exact still.mpr (Taken.keepsUntold untold session)
    | cons reply others => exact tagged reply (untold ▸ List.mem_cons_self)

end Run

namespace Core

def takes (c : Core) : Operation → Option Taken
  | .receive generation d f => if c.isLive generation then some ⟨d, f⟩ else none
  | _ => none

def taken (c : Core) : List Operation → List Taken
  | [] => []
  | operation :: rest => (c.takes operation).toList ++ (c.perform operation).taken rest

def Hears (c c' : Core) (taken : Option Taken) : Prop :=
  ∃ told : List Event, c'.events = c.events ++ told.map (fun e => (c.generation, e)) ∧
    c.run.Hears c'.run taken told

theorem Hears.refl (c : Core) : c.Hears c none := ⟨[], (List.append_nil _).symm, .refl c.run⟩

theorem becomeHears {c : Core} {r : Run} {taken : Option Taken} {told : List Event}
    (hears : c.run.Hears r taken told) : c.Hears (c.become r told) taken := ⟨told, rfl, hears⟩

theorem modifyHears (c : Core) (generation : Nat) {f : Run → Run}
    (hears : c.run.Hears (f c.run) none []) : c.Hears (c.modify generation f) none := by
  unfold modify
  split
  · exact ⟨[], (List.append_nil _).symm, hears⟩
  · exact ⟨[], (List.append_nil _).symm, .refl c.run⟩

theorem performHears (c : Core) (operation : Operation)
    (same : (c.perform operation).generation = c.generation) :
    c.Hears (c.perform operation) (c.takes operation) := by
  cases operation with
  | start =>
    simp only [perform, start]
    split
    · exact .refl c
    · exact becomeHears (Run.startHears c.run)
  | send f => exact becomeHears (Run.enqueueHears c.run f)
  | requestStop => exact becomeHears (Run.requestStopHears c.run)
  | cancel => exact becomeHears (Run.cancelHears c.run)
  | reset =>
    rw [show c.perform .reset = c.reset from rfl, resetGeneration] at same
    omega
  | attach generation attended =>
    simp only [perform, attach]
    split
    · exact becomeHears (Run.attachHears c.run attended)
    · exact .refl c
  | take generation => exact modifyHears c generation ⟨rfl, rfl, rfl⟩
  | leave generation => exact modifyHears c generation ⟨rfl, rfl, rfl⟩
  | receive generation d f =>
    by_cases live : c.isLive generation = true
    · obtain ⟨r, events, result, told, reception⟩ := receiveSteps live d f
      rw [perform, told, takes, if_pos live]
      exact becomeHears (Run.receiveHears reception)
    · rw [perform, receive, takes, if_neg live, if_neg live]
      exact .refl c
  | ended generation =>
    simp only [perform, ended]
    split
    · exact becomeHears (Run.endedHears c.run)
    · exact .refl c
  | failed generation e =>
    simp only [perform, failed]
    split
    · exact becomeHears (Run.closeHears c.run _ rfl)
    · exact .refl c

structure Named (c : Core) (operations : List Operation) (told : List Event) : Prop where
  request : ∀ request, c.run.requestId = some request →
    (∀ n, (c.performAll (operations.take n)).run.requestId = some request) ∧
    (told.filterMap Event.result?).map (·.requestId) =
      ((c.taken operations).flatMap Taken.replies).map fun reply =>
        reply.requestId.orElse fun _ => some request
  session : ∀ session, c.run.sessionId = some session →
    let kept := ∀ t ∈ c.taken operations, t.Keeps session
    ((∀ n, (c.performAll (operations.take n)).run.sessionId = some session) ↔ kept) ∧
    ((∀ result ∈ told.filterMap Event.result?, result.sessionId = some session) ↔ kept)

theorem takeCons (P : Core → Prop) (c : Core) (operation : Operation) (rest : List Operation) :
    (∀ n, P (c.performAll ((operation :: rest).take n))) ↔
      P c ∧ ∀ n, P ((c.perform operation).performAll (rest.take n)) := by
  constructor
  · exact fun always => ⟨always 0, fun n => always (n + 1)⟩
  · rintro ⟨now, later⟩ n
    cases n with
    | zero => exact now
    | succ n => exact later n

theorem Named.nothing (c : Core) : c.Named [] [] := by
  constructor
  · intro request assigned
    refine ⟨fun n => ?_, rfl⟩
    rw [List.take_nil]
    exact assigned
  · intro session assigned kept
    have keeps : kept := List.forall_mem_nil _
    refine ⟨⟨fun _ => keeps, fun _ n => ?_⟩, fun _ => keeps, fun _ => List.forall_mem_nil _⟩
    rw [List.take_nil]
    exact assigned

theorem Named.first {c : Core} {operation : Operation} {rest : List Operation}
    {told more : List Event}
    (hears : c.run.Hears (c.perform operation).run (c.takes operation) told)
    (named : (c.perform operation).Named rest more) :
    c.Named (operation :: rest) (told ++ more) := by
  constructor
  · intro request assigned
    obtain ⟨still, results⟩ := hears.requestKept assigned
    obtain ⟨always, others⟩ := named.request request still
    refine ⟨(takeCons (·.run.requestId = some request) c operation rest).mpr ⟨assigned, always⟩, ?_⟩
    rw [List.filterMap_append, List.map_append, results, others, taken, List.flatMap_append,
      List.map_append]
  · intro session assigned kept
    obtain ⟨still, tells⟩ := hears.sessionKept assigned
    simp only [kept, taken, List.forall_mem_append, List.filterMap_append]
    refine ⟨(takeCons (·.run.sessionId = some session) c operation rest).trans ⟨?_, ?_⟩, ?_, ?_⟩
    · rintro ⟨_, always⟩
      have now := always 0
      exact ⟨still.mp now, (named.session session now).1.mp always⟩
    · rintro ⟨first, others⟩
      exact ⟨assigned, (named.session session (still.mpr first)).1.mpr others⟩
    · rintro ⟨first, others⟩
      have keeps := tells.mp first
      exact ⟨keeps, (named.session session (still.mpr keeps)).2.mp others⟩
    · rintro ⟨first, others⟩
      exact ⟨tells.mpr first, (named.session session (still.mpr first)).2.mpr others⟩

theorem performAllNamed (c : Core) (operations : List Operation)
    (within : (c.performAll operations).generation = c.generation) :
    ∃ told : List Event,
      (c.performAll operations).events = c.events ++ told.map (fun e => (c.generation, e)) ∧
      c.Named operations told := by
  induction operations generalizing c with
  | nil => exact ⟨[], (List.append_nil _).symm, .nothing c⟩
  | cons operation rest ih =>
    have whole : ((c.perform operation).performAll rest).generation = c.generation := within
    have later := (performTurn c operation).later
    have further := ((c.perform operation).performAllOnward rest).1
    have same : (c.perform operation).generation = c.generation := by omega
    obtain ⟨told, queued, hears⟩ := performHears c operation same
    obtain ⟨more, others, named⟩ := ih (c.perform operation) (whole.trans same.symm)
    refine ⟨told ++ more, ?_, named.first hears⟩
    rw [queued, same, List.append_assoc, ← List.map_append] at others
    exact others

theorem idsAssigned (c : Core) (operations : List Operation)
    (within : (c.performAll operations).generation = c.generation) :
    ∃ told : List Event,
      (c.performAll operations).events = c.events ++ told.map (fun e => (c.generation, e)) ∧
      c.Named operations told ∧
      ∀ t ∈ c.taken operations, t.dialect = .task → ∀ session, t.Keeps session := by
  obtain ⟨told, queued, named⟩ := c.performAllNamed operations within
  exact ⟨told, queued, named, fun t _ task session => Taken.taskKeeps task session⟩

def createdFrame (members : Fields) : WireFrame :=
  .ofJson (.ofMembers (("type", .string "session.created") :: members))

def namedFrame (id : String) : WireFrame := createdFrame [("session", .ofMembers [("id", .string id)])]

def heardAll (frames : List WireFrame) : List Operation := frames.map (.receive 0 .realtime)

def createdCore : Core := Core.new.performAll (.start :: heardAll [namedFrame "sess_1"])

theorem sameSessionKept :
    let again := heardAll [namedFrame "sess_1", .binary [0xAA]] ++ [.cancel]
    (createdCore.performAll again).generation = createdCore.generation ∧
    createdCore.run.sessionId = some "sess_1" ∧ ∃ told : List Event, told.length = 3 ∧
      (createdCore.performAll again).events =
        createdCore.events ++ told.map (fun e => (createdCore.generation, e)) ∧
      ∀ result ∈ told.filterMap Event.result?, result.sessionId = some "sess_1" := by
  intro again
  have within : (createdCore.performAll again).generation = createdCore.generation := by
    decide +kernel
  have created : createdCore.run.sessionId = some "sess_1" := by decide +kernel
  have live : createdCore.isLive 0 = true := by decide +kernel
  have still : (createdCore.perform (.receive 0 .realtime (namedFrame "sess_1"))).isLive 0 = true := by
    decide +kernel
  obtain ⟨told, queued, named, _⟩ := idsAssigned createdCore again within
  have many : told.length = 3 := by
    have lengths := congrArg List.length queued
    have whole : (createdCore.performAll again).events.length = 4 := by decide +kernel
    have before : createdCore.events.length = 1 := by decide +kernel
    rw [whole, List.length_append, List.length_map, before] at lengths
    omega
  have taken : createdCore.taken again =
      [⟨.realtime, namedFrame "sess_1"⟩, ⟨.realtime, .binary [0xAA]⟩] := by
    simp [again, heardAll, Core.taken, takes, live, still]
  have keeps : ∀ t ∈ createdCore.taken again, t.Keeps "sess_1" := by
    rw [taken]
    exact List.forall_mem_cons.mpr ⟨(Taken.keepsAfter _ _).mp (by decide +kernel),
      List.forall_mem_singleton.mpr nofun⟩
  obtain ⟨_, tagged⟩ := named.session "sess_1" created
  exact ⟨within, created, told, many, queued, tagged.mpr keeps⟩

theorem sessionRenamed :
    let again := heardAll [createdFrame [], .binary [0xAA], namedFrame "sess_2", .binary [0xBB]]
    (createdCore.performAll again).generation = createdCore.generation ∧
    createdCore.run.sessionId = some "sess_1" ∧
    (createdCore.performAll again).run.sessionId = some "sess_2" ∧
    ((createdCore.performAll again).events.filterMap fun e => e.2.result?).map (·.sessionId) =
      [some "sess_1", none, none, some "sess_2", some "sess_2"] := by
  decide +kernel

end Core

end Session

end ModelServing
