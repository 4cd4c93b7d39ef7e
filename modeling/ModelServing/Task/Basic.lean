import ModelServing.Config
import ModelServing.Task.Poll
/-! Asynchronous tasks: a request creates one, and it is polled until it has come to an end. -/
namespace ModelServing

structure Tasks where
  backoff : Backoff
  credentials : Credentials
  deriving DecidableEq, Repr

namespace Tasks

def default : Tasks := ⟨.default, .none⟩

def pollBackoff (t : Tasks) : Backoff := t.backoff.reset

def credentialsFor (t : Tasks) (r : Request) : Credentials :=
  (Credentials.ofRequest r).or t.credentials

def created (r : Reply) : Except Error String :=
  match r.taskId? with
  | some id => .ok id
  | none =>
    .error (.api ((ApiError.ofCode "MissingTaskId" "create response carries no task_id").withRequestId
      r.requestId))

structure Backend (σ : Type) where
  submit : Request → Nat → σ → Nat × Except Error Reply × σ
  fetch : String → Credentials → Nat → σ → Nat × Except Error Reply × σ
  pause : Duration → Nat → σ → Nat × σ

section
variable {σ : Type} (t : Tasks) (b : Backend σ) (limit : Option Nat) (fetches : Nat)

/-- Polls until the task has ended or the time for it is up. The limit is that of whoever watches,
who makes no more of it than that it takes too long; of equal ones the timeout counts. -/
def waitAs (taskId : String) (as : Credentials) (timeout : Option Duration) (now : Nat) (s : σ) :
    Poll.Watched Reply × σ :=
  let deadline := timeout.map fun d => now + d.millis
  match Poll.watch (b.fetch taskId as) b.pause (limit.merge min deadline) fetches now t.pollBackoff s
  with
  | (.expired time, s) =>
    match timeout with
    | some d =>
      if deadline = some time then (.done time (.error (.timeout d)), s) else (.expired time, s)
    | none => (.expired time, s)
  | other => other

def waitOn (taskId : String) (timeout : Option Duration) (now : Nat) (s : σ) :
    Poll.Watched Reply × σ :=
  t.waitAs b limit fetches taskId t.credentials timeout now s

def callOn (r : Request) (timeout : Option Duration) (now : Nat) (s : σ) : Poll.Watched Reply × σ :=
  match Poll.once (b.submit r) limit now s with
  | (.done answered (.ok reply), s) =>
    match created reply with
    | .ok taskId => t.waitAs b limit fetches taskId (t.credentialsFor r) timeout answered s
    | .error e => (.done answered (.error e), s)
  | other => other

end

end Tasks

end ModelServing
