import ModelServing.Client
import ModelServing.Proofs.Headers
import ModelServing.Proofs.Session.Wire
import ModelServing.Proofs.Stream.Arrivals
import ModelServing.Proofs.Stream.Parts
import ModelServing.Route

/-! The speech of one text: a single envelope goes out, and what comes back are the octets that arrive
before the task ends, all of them and in their order, whatever else arrives in between. -/
namespace ModelServing

def Arrival.octets : Arrival → Bytes
  | .frame (.binary bytes) => bytes
  | _ => []

def Arrival.ending? : Arrival → Option (Except Error Unit)
  | .hungUp => some (.error .connectionClosed)
  | .failed e => some (.error e)
  | .frame (.binary _) => none
  | .frame (.text s) =>
    match Json.parse? s with
    | none => some (.error .malformedJson)
    | some message =>
      let event := Dialect.Task.headerText "event" message
      if event = some "task-finished" then some (.ok ())
      else if event = some "task-failed" then
        some (.error (.api (Dialect.Task.toError message)))
      else none

def noAudio (requestId : Option String) : Error :=
  .api ((ApiError.ofCode "NoAudio" "synthesis finished without audio").withRequestId requestId)

namespace Fold

def LastIsJson (f : Fold) : Prop := ∀ r, f.last = some r → r.bytes? = none

theorem emptyJson : empty.LastIsJson := by
  rintro r ⟨⟩

theorem LastIsJson.add {f : Fold} (json : f.LastIsJson) (r : Reply) : (f.add r).LastIsJson := by
  obtain ⟨requestId, sessionId, event, status, payload, usage⟩ := r
  cases payload with
  | binary bytes => exact json
  | json value =>
    rintro _ ⟨⟩
    rfl

theorem resultSpeech {f : Fold} (json : f.LastIsJson) :
    f.result.speech = if f.audio = [] then .error (noAudio f.requestId) else .ok f.audio := by
  unfold result
  by_cases silent : f.audio = []
  · rw [if_pos silent, if_pos (List.isEmpty_iff.mpr silent)]
    have last : (f.last.getD (.json .null)).bytes? = none := by
      cases told : f.last with
      | none => rfl
      | some r => exact json r told
    generalize f.last.getD (.json .null) = r at last
    unfold Reply.speech
    have same : Reply.bytes? { r with requestId := f.requestId, usage := f.usage } = none := last
    rw [same]
    rfl
  · rw [if_neg silent, if_neg (mt List.isEmpty_iff.mp silent)]
    rfl

end Fold

namespace TaskStream

theorem taskKind (message : Json) :
    (Dialect.task.classify message = .started ↔
      Dialect.Task.headerText "event" message = some "task-started") ∧
    (Dialect.task.classify message = .finished ↔
      Dialect.Task.headerText "event" message = some "task-finished") ∧
    (Dialect.task.classify message = .failed ↔
      Dialect.Task.headerText "event" message = some "task-failed") := by
  have same : Dialect.task.classify message =
      Dialect.Task.events.classify (Dialect.Task.headerText "event" message) := rfl
  rw [same]
  cases Dialect.Task.headerText "event" message with
  | none => simp [EventTable.classify]
  | some name =>
    by_cases failed : name = "task-failed"
    · subst failed
      decide
    by_cases finished : name = "task-finished"
    · subst finished
      decide
    by_cases data : name = "result-generated"
    · subst data
      decide
    by_cases started : name = "task-started"
    · subst started
      decide
    have unknown : Dialect.Task.events.classify (some name) = .data := by
      simp [EventTable.classify, Dialect.Task.events, Ne.symm failed, Ne.symm finished, Ne.symm data,
        Ne.symm started]
    simp [unknown, failed, finished, started]

inductive Meaning (a : Arrival) : Option (Except Error Unit) → Verdict → Prop where
  | skip (silent : a.octets = []) : Meaning a none .skip
  | item (r : Reply) (octets : r.bytes?.getD [] = a.octets) : Meaning a none (.item r)
  | finish : Meaning a (some (.ok ())) .finish
  | lastReply (r : Reply) (json : r.bytes? = none) : Meaning a (some (.ok ())) (.last (.ok r))
  | fails (e : Error) : Meaning a (some (.error e)) (.last (.error e))

theorem judgeMeans (a : Arrival) : Meaning a a.ending? (judge a) := by
  cases a with
  | hungUp => exact .fails .connectionClosed
  | failed e => exact .fails e
  | frame f =>
    cases f with
    | binary bytes => exact .item (.binary bytes) rfl
    | text s =>
      simp only [Arrival.ending?, judge]
      cases Json.parse? s with
      | none => exact .fails .malformedJson
      | some message =>
        obtain ⟨_, finished, failed⟩ := taskKind message
        simp only [← finished, ← failed, judgeMessage]
        cases Dialect.task.classify message with
        | started => exact .skip rfl
        | data | sessionCreated | turnDone => exact .item (Dialect.task.toReply message) rfl
        | failed => exact .fails (.api (Dialect.Task.toError message))
        | finished =>
          cases Dialect.task.hasOutput message with
          | true => exact .lastReply (Dialect.task.toReply message) rfl
          | false => exact .finish

theorem endsAt {before : List Arrival} {a : Arrival} {result : Except Error Unit}
    (unended : ∀ x ∈ before, x.ending? = none) (ended : a.ending? = some result) :
    EndsAt before a where
  unended x member := by
    have means := judgeMeans x
    rw [unended x member] at means
    generalize judge x = verdict at means
    cases means with
    | skip | item => rfl
  ends := by
    have means := judgeMeans a
    rw [ended] at means
    generalize judge a = verdict at means
    cases means with
    | finish | lastReply | fails => rfl

theorem foldsOctets {before : List Arrival} (unended : ∀ x ∈ before, x.ending? = none)
    (rest : List (Except Error Reply)) {f : Fold} (json : f.LastIsJson) :
    ∃ g : Fold, f.run (itemsIn before ++ rest) = g.run rest ∧ g.LastIsJson ∧
      g.audio = f.audio ++ before.flatMap Arrival.octets := by
  induction before generalizing f with
  | nil => exact ⟨f, rfl, json, (List.append_nil _).symm⟩
  | cons x later ih =>
    have more {f : Fold} (json : f.LastIsJson) :=
      ih (fun y member => unended y (List.mem_cons_of_mem _ member)) json
    have means := judgeMeans x
    rw [unended x List.mem_cons_self] at means
    rw [List.flatMap_cons, itemsIn, List.flatMap_cons, List.append_assoc]
    generalize judge x = verdict at means
    cases means with
    | skip silent =>
      rw [silent]
      exact more json
    | item r octets =>
      obtain ⟨g, ran, kept, heard⟩ := more (json.add r)
      refine ⟨g, ran, kept, ?_⟩
      rw [heard, f.addOctets, octets, List.append_assoc]

theorem foldedSpeech {before : List Arrival} {a : Arrival} {result : Except Error Unit}
    (unended : ∀ x ∈ before, x.ending? = none) (ended : a.ending? = some result) :
    ∃ requestId, (Fold.empty.run (itemsIn (before ++ [a]))).bind Reply.speech =
      result.bind fun _ =>
        if before.flatMap Arrival.octets = [] then .error (noAudio requestId)
        else .ok (before.flatMap Arrival.octets) := by
  rw [itemsNext]
  obtain ⟨g, ran, json, heard⟩ := foldsOctets unended (judge a).items Fold.emptyJson
  have heard : g.audio = before.flatMap Arrival.octets := heard
  rw [ran, ← heard]
  have means := judgeMeans a
  rw [ended] at means
  generalize judge a = verdict at means
  cases means with
  -- An error ends the fold, whatever has been folded.
  | fails e => exact ⟨none, rfl⟩
  | finish => exact ⟨g.requestId, Fold.resultSpeech json⟩
  | lastReply r silent =>
    have same : (g.add r).audio = g.audio := by
      rw [g.addOctets, silent]
      exact List.append_nil _
    have speech := Fold.resultSpeech (json.add r)
    rw [same] at speech
    exact ⟨(g.add r).requestId, speech⟩

namespace Call
variable {setup : Setup} {c : Call}

theorem readSends (c : Call) (a : Arrival) :
    (c.read a).2.filterMap Demand.frame? = [] ∧ (c.read a).1.opening = c.opening := by
  unfold read
  cases judge a with
  | skip | item r | finish => exact ⟨rfl, rfl⟩
  | last i =>
    cases i with
    | ok r | error e => exact ⟨rfl, rfl⟩

inductive Sends (setup : Setup) (before after : Opening) : List WireFrame → Prop where
  | nothing (past : before ≠ .connecting → after ≠ .connecting) : Sends setup before after []
  | envelope (first : before = .connecting) (past : after ≠ .connecting) :
      Sends setup before after [setup.envelope]

theorem openingSends (o : Opening) (setup : Setup) (signal : Signal) :
    Sends setup o (o.step setup signal).1 ((o.step setup signal).2.filterMap Demand.frame?) := by
  cases o with
  | connecting =>
    cases signal with
    | connected => exact .envelope rfl nofun
    | refused e | sent | sendFailed e | arrived a => exact .nothing fun past => absurd rfl past
  | sending => cases signal <;> exact .nothing nofun
  | opened | refused e => exact .nothing fun past => past

theorem stepSends (c : Call) (setup : Setup) (signal : Signal) :
    Sends setup c.opening (c.step setup signal).1.opening
      ((c.step setup signal).2.filterMap Demand.frame?) := by
  unfold step
  split
  · exact .nothing fun past => past
  · rename_i a _ _
    obtain ⟨silent, same⟩ := c.readSends a
    rw [silent, same]
    exact .nothing fun past => past
  · exact openingSends c.opening setup _

theorem runSends (c : Call) (setup : Setup) (signals : List Signal) :
    let sent := (c.run setup signals).2.filterMap Demand.frame?
    sent <+: [setup.envelope] ∧ (c.opening ≠ .connecting → sent = []) := by
  induction signals generalizing c with
  | nil => exact ⟨List.nil_prefix, fun _ => rfl⟩
  | cons signal rest ih =>
    have first := c.stepSends setup signal
    obtain ⟨bounded, silent⟩ := ih (c.step setup signal).1
    simp only [run, List.filterMap_append]
    generalize (c.step setup signal).2.filterMap Demand.frame? = sent at first
    cases first with
    | nothing past => exact ⟨bounded, fun connected => silent (past connected)⟩
    | envelope first past =>
      rw [silent past]
      exact ⟨List.prefix_rfl, fun connected => absurd first connected⟩

end Call

end TaskStream

/-- One envelope is sent at most, and from a connection that takes it come all octets up to the end. -/
theorem speechIsAudio (client : Client) {r : Request} {accepted : Session.Setup}
    (synthesizer : client.synthesizer r = .ok accepted) (text taskId : String) :
    ∃ setup, Route.of client.config (r.speak text) .folded taskId = .ok (.task setup) ∧
      setup.envelope = .ofJson (.object
        [("header", .object [("action", .string "run-task"), ("streaming", .string "none"),
          ("task_id", .string taskId)]),
        ("payload", .object <| Fields.insertSome "resources" r.resources
          [("function", .string r.function), ("input", .object [("text", .string text)]),
            ("model", .string r.model), ("parameters", .object r.parameters),
            ("task", .string r.task), ("task_group", .string r.taskGroup)])]) ∧
      (∀ signals, ((TaskStream.Call.begin setup).2 ++
        ((TaskStream.Call.begin setup).1.run setup signals).2).filterMap Demand.frame? <+:
          [setup.envelope]) ∧
      ∀ before after e result, (∀ a ∈ before, Arrival.ending? a = none) →
        Arrival.ending? e = some result →
        let ran := (TaskStream.Call.begin setup).1.run setup
          (.connected :: .sent :: (before ++ e :: after).map .arrived)
        let audio := before.flatMap Arrival.octets
        ran.2.filterMap Demand.frame? = [setup.envelope] ∧
        ∃ requestId, ran.1.result.map (·.bind Reply.speech) = some (result.bind fun _ =>
          if audio = [] then .error (noAudio requestId) else .ok audio) := by
  obtain ⟨url, addressed, made⟩ := passedBind synthesizer
  obtain ⟨headers, assembled, _⟩ := passedBind made
  obtain ⟨_, valid, addressed⟩ := passedBind addressed
  obtain ⟨u, parsed, _⟩ := passedBind addressed
  have valid : (r.speak text).validateEndpoint = .ok () := valid
  have assembled : client.config.headersFor (r.speak text) = .ok headers := assembled
  let setup : TaskStream.Setup :=
    ⟨u.text, headers, .ofJson ({ r.speak text with streaming := .none }.runTask taskId)⟩
  refine ⟨setup, ?_, rfl, ?_, ?_⟩
  · have opened : TaskStream.Setup.of client.config (r.speak text) .none taskId = .ok setup := by
      rw [TaskStream.Setup.of, valid, assembled, parsed]
      rfl
    change (TaskStream.Setup.of client.config (r.speak text) .none taskId).map Route.task = _
    rw [opened]
    rfl
  · exact fun signals => (TaskStream.Call.runSends _ _ signals).1
  · intro before after e result unended ended ran audio
    let opened : TaskStream.Call := ⟨.opened, .empty, none⟩
    obtain ⟨folded, farewell⟩ := opened.foldEnds setup (TaskStream.endsAt unended ended) after rfl rfl
    obtain ⟨requestId, speech⟩ := TaskStream.foldedSpeech unended ended
    have whole : ran = ((opened.run setup ((before ++ e :: after).map .arrived)).1,
        .send setup.envelope :: (opened.run setup ((before ++ e :: after).map .arrived)).2) := rfl
    have silent : (opened.run setup ((before ++ e :: after).map .arrived)).2.filterMap
        Demand.frame? = [] := by
      apply List.filterMap_eq_nil_iff.mpr
      intro d member
      rcases farewell d member with rfl | rfl <;> rfl
    rw [whole]
    refine ⟨congrArg (setup.envelope :: ·) silent, requestId, ?_⟩
    rw [folded, Option.map_some, ← speech]

def clipClient : Client :=
  ⟨{ Config.default with apiKey := some "sk-test", socketBase := "ws://127.0.0.1/" },
    ⟨fun _ => "", fun _ _ => "", fun _ => "", fun _ => ""⟩⟩

def clipRequest : Request := .synthesis "cosyvoice-v1" "longxiaochun"

def clipMessage (event : String) : Json :=
  .object [("header", .object [("event", .string event)]),
    ("payload", .object [("output", .object [("text", .string "hello")])])]

def clipEvent (event : String) : Arrival := .frame (.ofJson (clipMessage event))

def clipArrivals : List Arrival :=
  [clipEvent "task-started", .frame (.binary [1]), clipEvent "result-generated",
    .frame (.binary []), .frame (.binary [2, 3])]

theorem clipUnended : ∀ a ∈ clipArrivals, a.ending? = none := by
  have none : ∀ a ∈ clipArrivals, a.ending?.isNone := by decide +kernel
  exact fun a member => Option.isNone_iff_eq_none.mp (none a member)

theorem clipFinished : (clipEvent "task-finished").ending? = some (.ok ()) := by
  have parsed : Json.parse? (clipMessage "task-finished").print =
      some (clipMessage "task-finished") := by decide +kernel
  simp only [clipEvent, Arrival.ending?, WireFrame.ofJson, parsed]
  rfl

theorem clipSpoken : (∃ accepted, clipClient.synthesizer clipRequest = .ok accepted) ∧
    ∃ setup, Route.of clipClient.config (clipRequest.speak "hello") .folded "t-1" =
        .ok (.task setup) ∧
      ((TaskStream.Call.begin setup).1.run setup (.connected :: .sent ::
        (clipArrivals ++ clipEvent "task-finished" :: [.frame (.binary [4])]).map .arrived)).1.result.map
          (·.bind Reply.speech) = some (.ok [1, 2, 3]) := by
  have made : ∃ accepted, clipClient.synthesizer clipRequest = .ok accepted := by
    have ok : (clipClient.synthesizer clipRequest).isOk = true := by decide +kernel
    cases made : clipClient.synthesizer clipRequest with
    | ok accepted => exact ⟨accepted, rfl⟩
    | error e =>
      rw [made] at ok
      contradiction
  obtain ⟨accepted, synthesizer⟩ := made
  obtain ⟨setup, route, _, _, speech⟩ := speechIsAudio clipClient synthesizer "hello" "t-1"
  have spoken := (speech clipArrivals [.frame (.binary [4])] (clipEvent "task-finished") (.ok ())
    clipUnended clipFinished).2
  obtain ⟨_, audio⟩ := spoken
  exact ⟨⟨accepted, synthesizer⟩, setup, route, audio⟩

end ModelServing
