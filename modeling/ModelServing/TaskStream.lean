import ModelServing.Connection
import ModelServing.Dialect.Task
import ModelServing.Fold
/-! Tasks over a socket that are read by one consumer: one envelope is sent, and the partial replies
are read until the task is over. -/
namespace ModelServing

namespace TaskStream

structure Setup where
  url : String
  headers : Http.Headers
  envelope : WireFrame
  deriving DecidableEq

def Setup.of (config : Config) (r : Request) (streaming : Streaming) (taskId : String) :
    Except Error Setup := do
  r.validateEndpoint
  let headers ← config.headersFor r
  let u ← Dialect.parseUrl config.socketBase
  return ⟨u.text, headers, .ofJson ({ r with streaming }.runTask taskId)⟩

inductive Verdict where
  | skip
  | item (r : Reply)
  | last (i : Except Error Reply)
  | finish

def judgeMessage (message : Json) : Verdict :=
  match Dialect.task.classify message with
  | .started => .skip
  | .finished =>
    if Dialect.task.hasOutput message then .last (.ok (Dialect.task.toReply message)) else .finish
  | .failed => .last (.error (.api (Dialect.task.toError message)))
  | .data | .sessionCreated | .turnDone => .item (Dialect.task.toReply message)

def judge : Arrival → Verdict
  | .hungUp => .last (.error .connectionClosed)
  | .failed e => .last (.error e)
  | .frame (.binary bytes) => .item (.binary bytes)
  | .frame (.text s) =>
    match Json.parse? s with
    | none => .last (.error .malformedJson)
    | some message => judgeMessage message

inductive Stage where
  | reading
  | spent
  | ended
  deriving DecidableEq, Repr

inductive Next where
  | item (i : Except Error Reply)
  | ended
  | pending

def next : Stage → List Arrival → Next × Stage × List Arrival
  | .spent, arrivals => (.ended, .ended, arrivals)
  | .ended, arrivals => (.ended, .ended, arrivals)
  | .reading, [] => (.pending, .reading, [])
  | .reading, a :: rest =>
    match judge a with
    | .skip => next .reading rest
    | .item r => (.item (.ok r), .reading, rest)
    | .last i => (.item i, .spent, rest)
    | .finish => (.ended, .ended, rest)

def closing (before after : Stage) : List Demand :=
  if before ≠ .ended ∧ after = .ended then [.closeNormally "finished"] else []

structure Consumed where
  items : List (Except Error Reply)
  stop : Option Next
  stage : Stage
  rest : List Arrival
  demands : List Demand

def consume : Nat → Stage → List Arrival → Consumed
  | 0, stage, arrivals => ⟨[], none, stage, arrivals, []⟩
  | reads + 1, stage, arrivals =>
    let (result, after, rest) := next stage arrivals
    match result with
    | .item i =>
      let more := consume reads after rest
      { more with items := i :: more.items, demands := closing stage after ++ more.demands }
    | other => ⟨[], some other, after, rest, closing stage after⟩

inductive Opening where
  | connecting
  | sending
  | opened
  | refused (e : Error)
  deriving DecidableEq

inductive Signal where
  | connected
  | refused (e : Error)
  | sent
  | sendFailed (e : Error)
  | arrived (a : Arrival)
  deriving DecidableEq

def Opening.step (setup : Setup) (o : Opening) (signal : Signal) : Opening × List Demand :=
  match o, signal with
  | .connecting, .connected => (.sending, [.send setup.envelope])
  | .connecting, .refused e => (.refused e, [.giveUp])
  | .sending, .sent => (.opened, [])
  | .sending, .sendFailed e => (.refused e, [.giveUp])
  | o, _ => (o, [])

structure Call where
  opening : Opening
  folded : Fold
  result : Option (Except Error Reply)

namespace Call

def begin (setup : Setup) : Call × List Demand :=
  (⟨.connecting, .empty, none⟩, [.connect setup.url setup.headers])

def finish (c : Call) (result : Except Error Reply) (stage : Stage) : Call × List Demand :=
  ({ c with result := some result }, closing .reading stage ++ [.giveUp])

def read (c : Call) (a : Arrival) : Call × List Demand :=
  match judge a with
  | .skip => (c, [])
  | .item r => ({ c with folded := c.folded.add r }, [])
  | .last (.ok r) => c.finish (.ok (c.folded.add r).result) .ended
  | .last (.error e) => c.finish (.error e) .spent
  | .finish => c.finish (.ok c.folded.result) .ended

def advance (c : Call) (setup : Setup) (signal : Signal) : Call × List Demand :=
  let (opening, demands) := c.opening.step setup signal
  let result := match opening with
    | .refused e => some (.error e)
    | _ => none
  ({ c with opening, result }, demands)

def step (c : Call) (setup : Setup) (signal : Signal) : Call × List Demand :=
  match c.result, c.opening, signal with
  | some _, _, _ => (c, [])
  | none, .opened, .arrived a => c.read a
  | none, _, signal => c.advance setup signal

def run (c : Call) (setup : Setup) : List Signal → Call × List Demand
  | [] => (c, [])
  | signal :: rest =>
    let (next, demands) := c.step setup signal
    let (last, more) := next.run setup rest
    (last, demands ++ more)

def abandon (c : Call) : List Demand :=
  match c.result with
  | some _ => []
  | none => [.giveUp]

end Call

end TaskStream

def Reply.speech (r : Reply) : Except Error Bytes :=
  match r.bytes? with
  | some bytes => .ok bytes
  | none =>
    .error (.api ((ApiError.ofCode "NoAudio" "synthesis finished without audio").withRequestId
      r.requestId))

def Request.speak (r : Request) (text : String) : Request :=
  { r with input := .object [("text", .string text)], carrier := .webSocket }

end ModelServing
