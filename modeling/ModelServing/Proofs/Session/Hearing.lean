import ModelServing.Dialect.Task
import ModelServing.Proofs.Session.Outcome
import ModelServing.Proofs.Session.Reception

/-! What a run should have told, as a function of the frames that came in and of when the caller had
stopped: the replies of each frame, up to and with the first one that ends the run, each with the
session and the request that were known by then. -/
namespace ModelServing

def Reply.tagged (reply : Reply) (sessionId requestId : Option String) : Reply :=
  { reply with sessionId, requestId := reply.requestId.orElse fun _ => requestId }

namespace Dialect
open Session

def sessionIn (d : Dialect) (frames : List WireFrame) : Option String :=
  frames.foldl d.sessionAfter none

def requestIn (d : Dialect) (frames : List WireFrame) : Option String :=
  frames.foldl d.requestAfter none

def results (d : Dialect) (sessionId requestId : Option String) : List WireFrame → List Reply
  | [] => []
  | f :: rest =>
    let sessionId := d.sessionAfter sessionId f
    let requestId := d.requestAfter requestId f
    (d.replies f).map (·.tagged sessionId requestId) ++ d.results sessionId requestId rest

def closes (d : Dialect) (stopped : Bool) : WireFrame → Bool
  | .binary _ => false
  | .text s =>
    match Json.parse? s with
    | none => true
    | some message =>
      match d.classify message with
      | .finished | .failed => true
      | .turnDone => stopped
      | .started | .data | .sessionCreated => false

theorem endingCloses (d : Dialect) (stopped : Bool) (requestId : Option String) (f : WireFrame) :
    (d.ending? stopped requestId f).isSome = d.closes stopped f := by
  cases f with
  | binary bytes => rfl
  | text s =>
    simp only [closes, ending?]
    cases Json.parse? s with
    | none => rfl
    | some message =>
      dsimp only
      cases d.classify message with
      | turnDone => cases stopped <;> rfl
      | finished | failed | started | data | sessionCreated => rfl

theorem sessionInNext (d : Dialect) (frames : List WireFrame) (f : WireFrame) :
    d.sessionIn (frames ++ [f]) = d.sessionAfter (d.sessionIn frames) f := by
  rw [sessionIn, List.foldl_append]
  rfl

theorem requestInNext (d : Dialect) (frames : List WireFrame) (f : WireFrame) :
    d.requestIn (frames ++ [f]) = d.requestAfter (d.requestIn frames) f := by
  rw [requestIn, List.foldl_append]
  rfl

theorem resultsAppend (d : Dialect) (sessionId requestId : Option String)
    (frames more : List WireFrame) :
    d.results sessionId requestId (frames ++ more) = d.results sessionId requestId frames ++
      d.results (frames.foldl d.sessionAfter sessionId) (frames.foldl d.requestAfter requestId)
        more := by
  induction frames generalizing sessionId requestId with
  | nil => rfl
  | cons f rest ih =>
    rw [List.cons_append, results, results, ih, List.append_assoc]
    rfl

theorem resultsNext (d : Dialect) (frames : List WireFrame) (f : WireFrame) :
    d.results none none (frames ++ [f]) = d.results none none frames ++
      (d.replies f).map (·.tagged (d.sessionIn (frames ++ [f])) (d.requestIn (frames ++ [f]))) := by
  rw [resultsAppend, sessionInNext, requestInNext, results, results, List.append_nil]
  rfl

end Dialect

namespace Session

inductive Incident where
  | stop
  | frame (f : WireFrame)
  deriving DecidableEq

namespace Incident

def isStop : Incident → Bool
  | .stop => true
  | .frame _ => false

def frame? : Incident → Option WireFrame
  | .stop => none
  | .frame f => some f

end Incident

def stopsIn (incidents : List Incident) : Bool := incidents.any Incident.isStop

def framesIn (incidents : List Incident) : List WireFrame := incidents.filterMap Incident.frame?

def untilClosing (d : Dialect) (stopped : Bool) : List Incident → List WireFrame
  | [] => []
  | .stop :: rest => untilClosing d true rest
  | .frame f :: rest => f :: if d.closes stopped f then [] else untilClosing d stopped rest

def goesOn (d : Dialect) (stopped : Bool) : List Incident → Bool
  | [] => true
  | .stop :: rest => goesOn d true rest
  | .frame f :: rest => !d.closes stopped f && goesOn d stopped rest

section
variable {d : Dialect} {stopped : Bool} {incidents : List Incident}

theorem goesOnAppend (d : Dialect) (stopped : Bool) (incidents more : List Incident) :
    goesOn d stopped (incidents ++ more) =
      (goesOn d stopped incidents && goesOn d (stopped || stopsIn incidents) more) := by
  induction incidents generalizing stopped with
  | nil => simp [goesOn, stopsIn]
  | cons i rest ih =>
    cases i with
    | stop =>
      rw [List.cons_append, goesOn, goesOn, ih]
      simp [stopsIn, Incident.isStop]
    | frame f =>
      rw [List.cons_append, goesOn, goesOn, ih, Bool.and_assoc]
      simp [stopsIn, Incident.isStop]

theorem untilClosingAppend (open_ : goesOn d stopped incidents = true) (more : List Incident) :
    untilClosing d stopped (incidents ++ more) =
      framesIn incidents ++ untilClosing d (stopped || stopsIn incidents) more := by
  induction incidents generalizing stopped with
  | nil => simp [framesIn, stopsIn]
  | cons i rest ih =>
    cases i with
    | stop =>
      rw [List.cons_append, untilClosing, ih open_]
      simp [framesIn, stopsIn, Incident.isStop, List.filterMap_cons, Incident.frame?]
    | frame f =>
      simp only [goesOn, Bool.and_eq_true, Bool.not_eq_true'] at open_
      rw [List.cons_append, untilClosing, if_neg (by simp [open_.1]), ih open_.2]
      simp [framesIn, stopsIn, Incident.isStop, Incident.frame?]

theorem untilClosingOpen (open_ : goesOn d stopped incidents = true) :
    untilClosing d stopped incidents = framesIn incidents := by
  have whole := untilClosingAppend open_ []
  rwa [List.append_nil, untilClosing, List.append_nil] at whole

theorem framesAppend (incidents more : List Incident) :
    framesIn (incidents ++ more) = framesIn incidents ++ framesIn more := List.filterMap_append

theorem stopsAppend (incidents more : List Incident) :
    stopsIn (incidents ++ more) = (stopsIn incidents || stopsIn more) := List.any_append

theorem stopsFrame (incidents : List Incident) (f : WireFrame) :
    stopsIn (incidents ++ [.frame f]) = stopsIn incidents := by
  rw [stopsAppend]
  exact Bool.or_false _

theorem framesOfStops {late : List Incident} (stops : ∀ i ∈ late, i = .stop) : framesIn late = [] := by
  apply List.filterMap_eq_nil_iff.mpr
  intro i member
  rw [stops i member]
  rfl

theorem untilClosingLast {f : WireFrame} {late : List Incident}
    (open_ : goesOn d stopped incidents = true)
    (closes : d.closes (stopped || stopsIn incidents) f = true) (stops : ∀ i ∈ late, i = .stop) :
    untilClosing d stopped (incidents ++ .frame f :: late) =
      framesIn (incidents ++ .frame f :: late) := by
  rw [untilClosingAppend open_, untilClosing, if_pos closes, framesAppend]
  change _ = framesIn incidents ++ (f :: framesIn late)
  rw [framesOfStops stops]

end

def Event.result? : Event → Option Reply
  | .result r => some r
  | _ => none

/-- How far it has come with a run. What the transport ends is not told apart here. With `unreported`
the courier of the run is about to report a frame that it could not read. -/
inductive Ending (d : Dialect) (unreported : Prop) (r : Run) (incidents : List Incident)
    (ends : List Event) : Prop where
  | running (wasOpen : r.phase ≠ .closed) (goesOn : goesOn d false incidents = true)
      (silent : ends = [])
  | transport {last} (closed : r.phase = .closed) (goesOn : goesOn d false incidents = true)
      (told : ends = [last])
  | closed {early f late last} (whole : incidents = early ++ .frame f :: late)
      (goesOn : goesOn d false early = true) (stops : ∀ i ∈ late, i = .stop)
      (json : f.json? ≠ none)
      (ended : d.ending? (stopsIn early) (d.requestIn (framesIn (early ++ [.frame f]))) f = some last)
      (closed : r.phase = .closed) (told : ends = [last])
  | malformed {early f late} (whole : incidents = early ++ .frame f :: late)
      (goesOn : goesOn d false early = true) (stops : ∀ i ∈ late, i = .stop)
      (json : f.json? = none) (closes : d.closes (stopsIn early) f = true)
      (told : r.phase ≠ .closed ∧ unreported ∧ ends = [] ∨
        r.phase = .closed ∧ ends = [.failed .malformedJson] ∨
        r.phase = .closed ∧ stopsIn early = false ∧ stopsIn late = true ∧
          ends = [.failed .connectionClosed])

structure Heard (d : Dialect) (unreported : Prop) (r : Run) (incidents : List Incident)
    (told : List Event) : Prop where
  results : told.filterMap Event.result? = d.results none none (framesIn incidents)
  session : r.sessionId = d.sessionIn (framesIn incidents)
  request : r.requestId = d.requestIn (framesIn incidents)
  stops : r.phase ≠ .closed → r.stopRequested = stopsIn incidents
  ending : Ending d unreported r incidents (told.filter Event.isTerminal)

section
variable {d : Dialect} {unreported unreported' : Prop} {r r' : Run} {incidents : List Incident}
  {told : List Event}

theorem Ending.untilClosing {ends : List Event} (ending : Ending d unreported r incidents ends) :
    untilClosing d false incidents = framesIn incidents := by
  cases ending with
  | running wasOpen goesOn silent => exact untilClosingOpen goesOn
  | transport closed goesOn told => exact untilClosingOpen goesOn
  | closed whole goesOn stops json ended closed told =>
    subst whole
    refine untilClosingLast goesOn ?_ stops
    rw [Bool.false_or, ← d.endingCloses, ended]
    rfl
  | malformed whole goesOn stops json closes told =>
    subst whole
    exact untilClosingLast goesOn closes stops

theorem Ending.silent {ends : List Event} (ending : Ending d unreported r incidents ends)
    (wasOpen : r.phase ≠ .closed) : ends = [] := by
  cases ending with
  | running _ _ silent => exact silent
  | transport closed _ _ | closed _ _ _ _ _ closed _ => exact absurd closed wasOpen
  | malformed _ _ _ _ _ told =>
    rcases told with ⟨_, _, silent⟩ | ⟨closed, _⟩ | ⟨closed, _⟩
    · exact silent
    · exact absurd closed wasOpen
    · exact absurd closed wasOpen

theorem goesOnStops (goesOn_ : goesOn d stopped incidents = true) {more : List Incident}
    (stops : ∀ i ∈ more, i = .stop) : goesOn d stopped (incidents ++ more) = true := by
  rw [goesOnAppend, goesOn_, Bool.true_and]
  generalize (stopped || stopsIn incidents) = flag
  induction more generalizing flag with
  | nil => rfl
  | cons i rest ih =>
    rw [stops i List.mem_cons_self]
    exact ih (fun x member => stops x (List.mem_cons_of_mem _ member)) true

theorem Run.Turn.uncancelled {events : List Event} (turn : r.Turn r' events)
    (after : r'.cancelled = false) : r.cancelled = false := by
  cases turn with
  | goesOn _ quiet _ => exact quiet.cancelled.symm.trans after
  | closes _ _ _ _ _ cancelled =>
    rw [cancelled, Bool.or_eq_false_iff] at after
    exact after.1

structure Run.Unheard (r : Run) (stopped : Bool) (r' : Run) : Prop where
  phase : r'.phase = .closed ↔ r.phase = .closed
  session : r'.sessionId = r.sessionId
  request : r'.requestId = r.requestId
  cancelled : r'.cancelled = r.cancelled
  stops : r.phase ≠ .closed → r'.stopRequested = (r.stopRequested || stopped)

theorem Run.Unheard.refl (r : Run) : r.Unheard false r := ⟨.rfl, rfl, rfl, rfl, fun _ => by simp⟩

theorem Ending.keep {ends : List Event} (ending : Ending d unreported r incidents ends)
    (phase : r'.phase = .closed ↔ r.phase = .closed)
    (still : r.phase ≠ .closed → unreported → unreported') {more : List Incident}
    (quiet : ∀ i ∈ more, i = .stop) : Ending d unreported' r' (incidents ++ more) ends := by
  have behind {late : List Incident} (stops : ∀ i ∈ late, i = .stop) :
      ∀ i ∈ late ++ more, i = .stop := by
    intro i member
    rcases List.mem_append.mp member with old | new
    · exact stops i old
    · exact quiet i new
  cases ending with
  | running wasOpen goesOn silent =>
    exact .running (fun h => wasOpen (phase.mp h)) (goesOnStops goesOn quiet) silent
  | transport closed goesOn told => exact .transport (phase.mpr closed) (goesOnStops goesOn quiet) told
  | closed whole goesOn stops json ended closed told =>
    subst whole
    rw [List.append_assoc, List.cons_append]
    exact .closed rfl goesOn (behind stops) json ended (phase.mpr closed) told
  | @malformed early f late whole goesOn stops json closes told =>
    subst whole
    rw [List.append_assoc, List.cons_append]
    refine .malformed rfl goesOn (behind stops) json closes ?_
    rcases told with ⟨wasOpen, away, silent⟩ | ⟨closed, told⟩ | ⟨closed, first, stopped, told⟩
    · exact .inl ⟨fun h => wasOpen (phase.mp h), still wasOpen away, silent⟩
    · exact .inr (.inl ⟨phase.mpr closed, told⟩)
    · refine .inr (.inr ⟨phase.mpr closed, first, ?_, told⟩)
      rw [stopsAppend, stopped, Bool.true_or]

theorem Heard.keep (heard : Heard d unreported r incidents told) {more : List Incident}
    (unheard : r.Unheard (stopsIn more) r') (quiet : ∀ i ∈ more, i = .stop)
    (still : r.phase ≠ .closed → unreported → unreported') :
    Heard d unreported' r' (incidents ++ more) told where
  results := by
    rw [framesAppend, framesOfStops quiet, List.append_nil]
    exact heard.results
  session := by
    rw [framesAppend, framesOfStops quiet, List.append_nil]
    exact unheard.session.trans heard.session
  request := by
    rw [framesAppend, framesOfStops quiet, List.append_nil]
    exact unheard.request.trans heard.request
  stops wasOpen := by
    have before : r.phase ≠ .closed := fun h => wasOpen (unheard.phase.mpr h)
    rw [unheard.stops before, heard.stops before, stopsAppend]
  ending := heard.ending.keep unheard.phase still quiet

theorem Heard.calm (heard : Heard d unreported r incidents told) (unheard : r.Unheard false r')
    (still : r.phase ≠ .closed → unreported → unreported') : Heard d unreported' r' incidents told := by
  have nothing : r.Unheard (stopsIn []) r' := unheard
  have kept := heard.keep nothing (by simp) still
  rwa [List.append_nil] at kept

theorem terminalSilent {last : Event} (terminal : last.isTerminal = true) :
    last.result? = none := by
  cases last with
  | result r => contradiction
  | completed | failed e | cancelled => rfl

theorem Heard.ends (heard : Heard d unreported r incidents told) (wasOpen : r.phase ≠ .closed)
    (closed : r'.phase = .closed) (session : r'.sessionId = r.sessionId)
    (request : r'.requestId = r.requestId) {last : Event} (terminal : last.isTerminal = true)
    {more : List Incident} (quiet : ∀ i ∈ more, i = .stop)
    (malformed : unreported → last = .failed .malformedJson ∨
      stopsIn incidents = false ∧ stopsIn more = true ∧ last = .failed .connectionClosed) :
    Heard d unreported' r' (incidents ++ more) (told ++ [last]) where
  results := by
    rw [framesAppend, framesOfStops quiet, List.append_nil, List.filterMap_append,
      List.filterMap_cons_none (terminalSilent terminal), List.filterMap_nil, List.append_nil]
    exact heard.results
  session := by
    rw [framesAppend, framesOfStops quiet, List.append_nil]
    exact session.trans heard.session
  request := by
    rw [framesAppend, framesOfStops quiet, List.append_nil]
    exact request.trans heard.request
  stops open_ := absurd closed open_
  ending := by
    have told_ : (told ++ [last]).filter Event.isTerminal = [last] := by
      rw [List.filter_append, heard.ending.silent wasOpen, List.nil_append,
        List.filter_cons_of_pos terminal, List.filter_nil]
    rw [told_]
    cases heard.ending with
    | running _ goesOn _ => exact .transport closed (goesOnStops goesOn quiet) rfl
    | transport already _ _ | closed _ _ _ _ _ already _ => exact absurd already wasOpen
    | @malformed early f late whole goesOn stops json closes told =>
      subst whole
      rw [List.append_assoc, List.cons_append]
      refine .malformed rfl goesOn ?_ json closes ?_
      · intro i member
        rcases List.mem_append.mp member with old | new
        · exact stops i old
        · exact quiet i new
      · rcases told with ⟨_, away, _⟩ | ⟨already, _⟩ | ⟨already, _⟩
        · rcases malformed away with rfl | ⟨first, stopped, rfl⟩
          · exact .inr (.inl ⟨closed, rfl⟩)
          · rw [stopsAppend, Bool.or_eq_false_iff] at first
            refine .inr (.inr ⟨closed, first.1, ?_, rfl⟩)
            rw [stopsAppend, stopped, Bool.or_true]
        · exact absurd already wasOpen
        · exact absurd already wasOpen

theorem namedUnread (r : Run) (d : Dialect) {f : WireFrame} (json : f.json? = none) :
    r.named d f = r := by
  simp [Run.named, Dialect.sessionAfter, Dialect.requestAfter, json]

theorem tellsResults (r : Run) (d : Dialect) (f : WireFrame) :
    (r.tells d f).filterMap Event.result? =
      (d.replies f).map (·.tagged (r.named d f).sessionId (r.named d f).requestId) := by
  rw [Run.tells, List.filterMap_map]
  change (d.replies f).filterMap (some ∘ fun reply => (r.named d f).tag reply) = _
  rw [List.filterMap_eq_map]
  rfl

theorem tellsSilent (r : Run) (d : Dialect) (f : WireFrame) :
    (r.tells d f).filter Event.isTerminal = [] := by
  simp [Run.tells, Event.isTerminal]

theorem Ending.going {ends : List Event} (ending : Ending d unreported r incidents ends)
    (wasOpen : r.phase ≠ .closed) (reported : ¬unreported) : goesOn d false incidents = true := by
  cases ending with
  | running _ goesOn _ => exact goesOn
  | transport closed _ _ | closed _ _ _ _ _ closed _ => exact absurd closed wasOpen
  | malformed _ _ _ _ _ told =>
    rcases told with ⟨_, away, _⟩ | ⟨closed, _⟩ | ⟨closed, _⟩
    · exact absurd away reported
    · exact absurd closed wasOpen
    · exact absurd closed wasOpen

theorem Heard.receive (heard : Heard d unreported r incidents told) (wasOpen : r.phase ≠ .closed)
    (reported : ¬unreported) {f : WireFrame} {events : List Event} {result : Except Error Inbound}
    (reception : r.Reception d f (r', events, result)) :
    Heard d (result = .error .malformedJson) r' (incidents ++ [.frame f]) (told ++ events) := by
  have going := heard.ending.going wasOpen reported
  have silent := heard.ending.silent wasOpen
  have stops := heard.stops wasOpen
  have frames : framesIn (incidents ++ [.frame f]) = framesIn incidents ++ [f] :=
    framesAppend incidents _
  have session : (r.named d f).sessionId = d.sessionIn (framesIn incidents ++ [f]) := by
    rw [d.sessionInNext, ← heard.session]
    rfl
  have request : (r.named d f).requestId = d.requestIn (framesIn incidents ++ [f]) := by
    rw [d.requestInNext, ← heard.request]
    rfl
  have results : (told ++ r.tells d f).filterMap Event.result? =
      d.results none none (framesIn incidents ++ [f]) := by
    rw [List.filterMap_append, heard.results, tellsResults, session, request, d.resultsNext]
  have quiet : (told ++ r.tells d f).filter Event.isTerminal = [] := by
    rw [List.filter_append, silent, tellsSilent, List.append_nil]
  cases reception with
  | goesOn unended verdict =>
    have unclosed : d.closes (stopsIn incidents) f = false := by
      rw [← stops, ← d.endingCloses, unended]
      rfl
    have on : Session.goesOn d false (incidents ++ [.frame f]) = true := by
      rw [goesOnAppend, going]
      simp [Session.goesOn, unclosed]
    rw [← frames] at session request results
    refine ⟨results, session, request, fun _ => ?_, .running wasOpen on quiet⟩
    exact stops.trans (stopsFrame incidents f).symm
  | @ends last outcome json ended told_ =>
    rw [stops, request, ← frames] at ended
    have terminal := terminalOfOutcome told_
    have closed : ((r.named d f).close outcome last).1.phase = .closed := by
      rw [Run.closeOpen (r := r.named d f) wasOpen]
    have same : ((r.named d f).close outcome last).1.sessionId = (r.named d f).sessionId ∧
        ((r.named d f).close outcome last).1.requestId = (r.named d f).requestId := by
      rw [Run.closeOpen (r := r.named d f) wasOpen]
      exact ⟨rfl, rfl⟩
    rw [← frames] at session request results
    refine ⟨?_, same.1.trans session, same.2.trans request, fun open_ => absurd closed open_, ?_⟩
    · rw [← List.append_assoc, List.filterMap_append,
        List.filterMap_cons_none (terminalSilent terminal), List.filterMap_nil, List.append_nil]
      exact results
    · refine .closed rfl going (fun _ absent => nomatch absent) json ended closed ?_
      rw [← List.append_assoc, List.filter_append, quiet, List.nil_append,
        List.filter_cons_of_pos terminal, List.filter_nil]
  | fails json ended silent_ =>
    have closes : d.closes (stopsIn incidents) f = true := by
      rw [← stops, ← d.endingCloses _ (r.named d f).requestId, ended]
      rfl
    rw [silent_, List.append_nil, ← frames] at results
    rw [namedUnread r d json, ← frames] at session request
    rw [List.append_nil]
    refine ⟨results, session, request, fun _ => ?_, ?_⟩
    · exact stops.trans (stopsFrame incidents f).symm
    · exact .malformed rfl going (fun _ absent => nomatch absent) json closes
        (.inl ⟨wasOpen, rfl, silent⟩)

end

end Session

end ModelServing
