import ModelServing.Rehearsal.Basic
import ModelServing.Rehearsal.Call
/-! The steps of a rehearsal, each taking a millisecond, and a report on each. -/
namespace ModelServing.Rehearsal

inductive Step where
  | rest
  | cue (c : Cue)
  | advance (millis : Nat)
  | start
  | send (frames : List Frame)
  | command (c : Conversation.Command)
  | stop (timeout : Duration)
  | stopDuring (timeout : Duration) (cues : List Cue)
  | asyncStop
  | cancel
  | reset
  | tryRead
  | drain
  | read
  | nextReply
  | nextAudio
  | speak (text : String) (cues : List Cue)
  deriving DecidableEq

inductive Said where
  | nothing
  | done (result : Except Error Unit)
  | each (results : List (Except Error Unit))
  | stopping (index : Nat)
  | tried (event : Option Session.Event)
  | drained (events : List Session.Event)
  | event (event : Session.Reading Session.Event)
  | reply (reply : Session.Reading (Except Error Reply))
  | audio (audio : Session.Reading (Except Error Bytes))
  | speech (audio : Option (Except Error Bytes))

def tell (r : Rehearsal) (action : Session.Action) : Said × Rehearsal :=
  let (result, r) := r.act action
  (.done result, r.settle)

def sendAll (r : Rehearsal) : List Frame → List (Except Error Unit) × Rehearsal
  | [] => ([], r)
  | f :: rest =>
    let (result, r) := r.act (.send f)
    let (results, r) := r.sendAll rest
    (result :: results, r)

def command (r : Rehearsal) (c : Conversation.Command) : Said × Rehearsal :=
  let answer := Conversation.give ⟨r.session, r.commands⟩ r.setup c
  let { session, commands } := answer.conversation
  (.done answer.result, (answer.trace.foldl meet { r with session, commands }).settle)

def stopInBackground (r : Rehearsal) (timeout : Duration) : Said × Rehearsal :=
  let (n, r) := r.stop timeout
  (.stopping r.background.length, { r with background := r.background ++ [n] }.settle)

def awaitStop (r : Rehearsal) (n : Nat) : List Cue → Rehearsal
  | [] =>
    match r.stops[n]?.bind (·.answer?), r.stops[n]?.bind (·.waiter.deadline) with
    | none, some deadline => r.pass (deadline - r.now)
    | _, _ => r
  | c :: rest => awaitStop ((r.pass 1).cue c) n rest

def stopDuring (r : Rehearsal) (timeout : Duration) (cues : List Cue) : Said × Rehearsal :=
  let (n, r) := r.stop timeout
  let r := awaitStop r.settle n cues
  (match r.answer? n with
    | some result => .done result
    | none => .nothing, r)

def waitIfPending {α : Type} (reading : Session.Reading α) (r : Rehearsal) : Rehearsal :=
  match reading with
  | .pending => r.pass 1
  | _ => r

def drainWithin : Nat → Rehearsal → List Session.Event × Rehearsal
  | 0, r => ([], r)
  | attempts + 1, r =>
    match r.read with
    | (none, r) => ([], r)
    | (some event, r) =>
      let (events, r) := drainWithin attempts r
      (event :: events, r)

def withCore (r : Rehearsal) (core : Session.Core) : Rehearsal :=
  { r with session := { r.session with core } }

def readEvent (r : Rehearsal) : Session.Reading Session.Event × Rehearsal :=
  match r.read with
  | (none, r) => (.pending, r)
  | (some event, r) => (.item event, r)

def awaitCall (r : Rehearsal) (call : Call) : List Cue → Call × Rehearsal
  | [] => (call, { r with network := call.abandon r.network })
  | c :: rest =>
    let r := (r.pass 1).cue c
    let (call, network) := call.advance r.network
    awaitCall { r with network } call rest

def speak (r : Rehearsal) (text : String) (cues : List Cue) : Said × Rehearsal :=
  let request := r.setup.request.speak text
  match TaskStream.Setup.of r.config request .none (r.setup.ids.call r.calls) with
  | .error e => (.speech (some (.error e)), r)
  | .ok setup =>
    let (call, network) := Call.begin setup r.network
    let (call, r) := awaitCall { r with network, calls := r.calls + 1 } call cues
    (.speech (call.call.result.map fun result => result.bind Reply.speech), r)

def perform (r : Rehearsal) : Step → Said × Rehearsal
  | .rest => (.nothing, r)
  | .cue c => (.nothing, r.cue c)
  | .advance millis => (.nothing, r.pass millis)
  | .start => r.tell .start
  | .send frames =>
    let (results, r) := r.sendAll frames
    (.each results, r.settle)
  | .command c => r.command c
  | .stop timeout => r.stopInBackground timeout
  | .stopDuring timeout cues => r.stopDuring timeout cues
  | .asyncStop => (.nothing, (r.tell .stop).2)
  | .cancel => (.nothing, (r.tell .cancel).2)
  | .reset => (.nothing, (r.tell .reset).2)
  | .tryRead =>
    let (event, r) := r.read
    (.tried event, r)
  | .drain =>
    let (events, r) := drainWithin r.session.core.events.length r
    (.drained events, r)
  | .read =>
    let (reading, r) := r.readEvent
    (.event reading, waitIfPending reading r)
  | .nextReply =>
    let (reading, reader, core) := r.reader.next r.session.core
    (.reply reading, waitIfPending reading { r.withCore core with reader })
  | .nextAudio =>
    let (reading, reader, core) := r.reader.nextAudio r.session.core
    (.audio reading, waitIfPending reading { r.withCore core with reader })
  | .speak text cues => r.speak text cues

structure Report where
  said : Said
  phase : Session.Phase
  sessionId : Option String
  requestId : Option String
  seen : List Entry
  answered : List (Nat × Except Error Unit)

def newlyAnswered (before after : Rehearsal) : List (Nat × Except Error Unit) :=
  let fresh := after.background.mapIdx fun i n =>
    match before.stops[n]?.bind (·.waiter.notice), after.stops[n]? with
    | none, some stop =>
      stop.waiter.notice.map fun notice => (notice.time, i, stop.result notice.outcome)
    | _, _ => none
  ((fresh.filterMap id).mergeSort fun a b => a.1 ≤ b.1).map (·.2)

def step (r : Rehearsal) (s : Step) : Report × Rehearsal :=
  let (said, after) := r.perform s
  let after := after.pass 1
  let run := after.session.core.run
  (⟨said, run.phase, run.sessionId, run.requestId, after.network.log.drop r.network.log.length,
    newlyAnswered r after⟩, after)

def reports (r : Rehearsal) : List Step → List Report
  | [] => []
  | s :: rest =>
    let (report, r) := r.step s
    report :: r.reports rest

end ModelServing.Rehearsal
