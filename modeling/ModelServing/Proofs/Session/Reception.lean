import ModelServing.Proofs.Session.Operation

/-! What a frame is to a run, by its kind: which replies it brings, whose they are, and whether the run
ends with it. A run that takes a frame in does that and nothing else. -/
namespace ModelServing

namespace Dialect
open Session

def replies (d : Dialect) : WireFrame → List Reply
  | .binary bytes => [.binary bytes]
  | .text s =>
    match Json.parse? s with
    | none => []
    | some message =>
      match d.classify message with
      | .data | .sessionCreated | .turnDone => [d.toReply message]
      | .finished => if d.hasOutput message then [d.toReply message] else []
      | .started | .failed => []

def ending? (d : Dialect) (stopped : Bool) (requestId : Option String) : WireFrame → Option Event
  | .binary _ => none
  | .text s =>
    match Json.parse? s with
    | none => some (.failed .malformedJson)
    | some message =>
      match d.classify message with
      | .finished => some .completed
      | .turnDone => if stopped then some .completed else none
      | .failed => some (.failed (.api ((d.toError message).withRequestId requestId)))
      | .started | .data | .sessionCreated => none

def sessionAfter (d : Dialect) (current : Option String) (f : WireFrame) : Option String :=
  match f.json? with
  | some message => if d.classify message = .sessionCreated then d.sessionId message else current
  | none => current

def requestAfter (d : Dialect) (current : Option String) (f : WireFrame) : Option String :=
  current.orElse fun _ => f.json?.bind d.requestId

def isStarted (d : Dialect) (f : WireFrame) : Bool :=
  f.json?.any fun message => decide (d.classify message = .started)

end Dialect

namespace Session.Run

def named (r : Run) (d : Dialect) (f : WireFrame) : Run :=
  { r with
    sessionId := d.sessionAfter r.sessionId f
    requestId := d.requestAfter r.requestId f }

def tells (r : Run) (d : Dialect) (f : WireFrame) : List Event :=
  (d.replies f).map fun reply => .result ((r.named d f).tag reply)

inductive Reception (r : Run) (d : Dialect) (f : WireFrame) :
    Run × List Event × Except Error Inbound → Prop where
  | goesOn {inbound} (unended : d.ending? r.stopRequested (r.named d f).requestId f = none)
      (verdict : inbound = .delivered ∨ inbound = .started ∧ d.isStarted f = true) :
      Reception r d f (r.named d f, r.tells d f, .ok inbound)
  | ends {last outcome} (json : f.json? ≠ none)
      (ended : d.ending? r.stopRequested (r.named d f).requestId f = some last)
      (told : last.outcome? = some outcome) :
      Reception r d f (((r.named d f).close outcome last).1, r.tells d f ++ [last], .ok .closed)
  | fails (json : f.json? = none)
      (ended : d.ending? r.stopRequested (r.named d f).requestId f = some (.failed .malformedJson))
      (silent : r.tells d f = []) : Reception r d f (r, [], .error .malformedJson)

section
variable {r : Run} {d : Dialect} {f : WireFrame} {s : String} {message : Json}

theorem namedCreated (parsed : Json.parse? s = some message)
    (kind : d.classify message = .sessionCreated) : r.named d (.text s) = { r with
      sessionId := d.sessionId message
      requestId := r.requestId.orElse fun _ => d.requestId message } := by
  simp [named, Dialect.sessionAfter, Dialect.requestAfter, WireFrame.json?, WireFrame.text?, parsed,
    kind]

theorem namedOther (parsed : Json.parse? s = some message)
    (kind : d.classify message ≠ .sessionCreated) : r.named d (.text s) = { r with
      requestId := r.requestId.orElse fun _ => d.requestId message } := by
  simp [named, Dialect.sessionAfter, Dialect.requestAfter, WireFrame.json?, WireFrame.text?, parsed,
    kind]

theorem Reception.ofLast {last : Event} {outcome : Outcome} {result}
    (wasOpen : r.phase ≠ .closed) (json : f.json? ≠ none)
    (ended : d.ending? r.stopRequested (r.named d f).requestId f = some last)
    (told : last.outcome? = some outcome)
    (heard : result = (((r.named d f).close outcome last).1,
      r.tells d f ++ ((r.named d f).close outcome last).2, .ok .closed)) :
    r.Reception d f result := by
  have last : ((r.named d f).close outcome last).2 = [last] := by
    rw [closeOpen (r := r.named d f) wasOpen]
  rw [heard, last]
  exact .ends json ended told

theorem Reception.ofMore {inbound : Inbound} {result}
    (unended : d.ending? r.stopRequested (r.named d f).requestId f = none)
    (verdict : inbound = .delivered ∨ inbound = .started ∧ d.isStarted f = true)
    (heard : result = (r.named d f, r.tells d f, .ok inbound)) : r.Reception d f result := by
  rw [heard]
  exact .goesOn unended verdict

theorem receiveMessage (wasOpen : r.phase ≠ .closed) (parsed : Json.parse? s = some message) :
    r.Reception d (.text s) (r.receive d (.text s)) := by
  have json : (WireFrame.text s).json? ≠ none := by simp [WireFrame.json?, WireFrame.text?, parsed]
  have ends {stopped : Bool} {requestId : Option String} :
      d.ending? stopped requestId (.text s) = match d.classify message with
        | .finished => some .completed
        | .turnDone => if stopped then some .completed else none
        | .failed => some (.failed (.api ((d.toError message).withRequestId requestId)))
        | .started | .data | .sessionCreated => none := by
    simp only [Dialect.ending?, parsed]
  cases kind : d.classify message with
  | sessionCreated =>
    have own := namedCreated (r := r) parsed kind
    refine .ofMore (by rw [ends, kind]) (.inl rfl) ?_
    simp [receive, parsed, hear, kind, own, tells, Dialect.replies]
  | started =>
    have own := namedOther (r := r) parsed (by rw [kind]; decide)
    have isStarted : d.isStarted (.text s) = true := by
      simp [Dialect.isStarted, WireFrame.json?, WireFrame.text?, parsed, kind]
    refine .ofMore (by rw [ends, kind]) (.inr ⟨rfl, isStarted⟩) ?_
    simp [receive, parsed, hear, kind, own, tells, Dialect.replies]
  | data =>
    have own := namedOther (r := r) parsed (by rw [kind]; decide)
    refine .ofMore (by rw [ends, kind]) (.inl rfl) ?_
    simp [receive, parsed, hear, kind, own, tells, Dialect.replies]
  | turnDone =>
    have own := namedOther (r := r) parsed (by rw [kind]; decide)
    cases stopped : r.stopRequested with
    | false =>
      refine .ofMore (by simp [ends, kind, stopped]) (.inl rfl) ?_
      simp [receive, parsed, hear, kind, own, tells, Dialect.replies, stopped]
    | true =>
      have ended : d.ending? r.stopRequested (r.named d (.text s)).requestId (.text s) =
          some .completed := by simp [ends, kind, stopped]
      refine .ofLast wasOpen json ended rfl ?_
      simp [receive, parsed, hear, kind, own, tells, Dialect.replies, stopped]
  | finished =>
    have own := namedOther (r := r) parsed (by rw [kind]; decide)
    have ended : d.ending? r.stopRequested (r.named d (.text s)).requestId (.text s) =
        some .completed := by rw [ends, kind]
    refine .ofLast wasOpen json ended rfl ?_
    cases output : d.hasOutput message <;>
      simp [receive, parsed, hear, kind, own, tells, Dialect.replies, output]
  | failed =>
    have own := namedOther (r := r) parsed (by rw [kind]; decide)
    have ended : d.ending? r.stopRequested (r.named d (.text s)).requestId (.text s) =
        some (.failed (.api ((d.toError message).withRequestId
          (r.named d (.text s)).requestId))) := by rw [ends, kind]
    refine .ofLast wasOpen json ended rfl ?_
    simp [receive, parsed, hear, kind, own, tells, Dialect.replies, Error.toApiError]

end

theorem receiveSteps {r : Run} (wasOpen : r.phase ≠ .closed) (d : Dialect) (f : WireFrame) :
    r.Reception d f (r.receive d f) := by
  cases f with
  | binary bytes =>
    have same : r.named d (.binary bytes) = r := by
      simp [named, Dialect.sessionAfter, Dialect.requestAfter, WireFrame.json?, WireFrame.text?]
    have step := Reception.goesOn (r := r) (d := d) (f := .binary bytes) rfl (.inl rfl)
    simpa [receive, tells, Dialect.replies, same] using step
  | text s =>
    cases parsed : Json.parse? s with
    | none =>
      have step := Reception.fails (r := r) (d := d) (f := .text s) parsed
        (by simp [Dialect.ending?, parsed]) (by simp [tells, Dialect.replies, parsed])
      simpa [receive, parsed] using step
    | some message => exact receiveMessage wasOpen parsed

end Session.Run

theorem Session.Core.receiveSteps {core : Core} {generation : Nat}
    (live : core.isLive generation = true) (d : Dialect) (f : WireFrame) :
    ∃ r events result, core.receive generation d f = (core.become r events, result) ∧
      core.run.Reception d f (r, events, result) := by
  have reception := Run.receiveSteps (liveOpen live) d f
  rw [Core.receive, if_pos live]
  generalize core.run.receive d f = told at reception
  obtain ⟨r, events, result⟩ := told
  exact ⟨r, events, result, rfl, reception⟩

end ModelServing
