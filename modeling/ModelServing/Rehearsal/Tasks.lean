import ModelServing.Task.Basic
import ModelServing.Task.Listing
/-! Tasks against a scripted service, on a clock that moves only while someone waits. -/
namespace ModelServing.Rehearsal

structure Answer where
  takes : Nat
  reply : Except Error Reply
  page : Except Error TaskPage

inductive ServiceCall where
  | submit (r : Request)
  | fetch (taskId : String) (as : Credentials)
  | cancel (taskId : String) (as : Credentials)
  | list (query : TaskQuery) (as : Credentials)
  deriving DecidableEq

structure Service where
  script : List Answer
  last : Answer
  calls : List (Nat × ServiceCall)

namespace Service

def call (s : Service) (now : Nat) (c : ServiceCall) : Answer × Service :=
  let s := { s with calls := (now, c) :: s.calls }
  match s.script with
  | [] => (s.last, s)
  | a :: rest => (a, { s with script := rest })

def ask {α : Type} (c : ServiceCall) (read : Answer → Except Error α) (now : Nat) (s : Service) :
    Nat × Except Error α × Service :=
  let (answer, s) := s.call now c
  (answer.takes, read answer, s)

def backend : Tasks.Backend Service where
  submit r := ask (.submit r) (·.reply)
  fetch taskId as := ask (.fetch taskId as) (·.reply)
  pause length _ s := (length.millis, s)

end Service

structure TaskRehearsal where
  tasks : Tasks
  service : Service
  now : Nat

inductive TaskStep where
  | wait (taskId : String) (timeout : Option Duration)
  | call (r : Request) (timeout : Option Duration)
  | submit (r : Request)
  | fetch (taskId : String)
  | cancel (taskId : String)
  | list (query : TaskQuery)
  deriving DecidableEq

inductive TaskSaid where
  | reply (result : Except Error Reply)
  | page (result : Except Error TaskPage)
  | pending

namespace TaskRehearsal

def patience : Nat := 1000000

def see {α : Type} (r : TaskRehearsal) (said : Except Error α → TaskSaid) :
    Poll.Watched α × Service → TaskSaid × TaskRehearsal
  | (.done now result, service) => (said result, { r with service, now })
  | (.expired now, service) | (.unfinished now, service) => (.pending, { r with service, now })

def ask {α : Type} (r : TaskRehearsal) (c : ServiceCall) (read : Answer → Except Error α)
    (said : Except Error α → TaskSaid) : TaskSaid × TaskRehearsal :=
  r.see said (Poll.once (Service.ask c read) (some (r.now + patience)) r.now r.service)

def perform (r : TaskRehearsal) (s : TaskStep) : TaskSaid × TaskRehearsal :=
  let as := r.tasks.credentials
  let limit := some (r.now + patience)
  let fetches := r.service.script.length + patience + 2
  match s with
  | .wait taskId timeout =>
    r.see .reply (r.tasks.waitOn Service.backend limit fetches taskId timeout r.now r.service)
  | .call request timeout =>
    r.see .reply (r.tasks.callOn Service.backend limit fetches request timeout r.now r.service)
  | .submit request => r.ask (.submit request) (·.reply) .reply
  | .fetch taskId => r.ask (.fetch taskId as) (·.reply) .reply
  | .cancel taskId => r.ask (.cancel taskId as) (·.reply) .reply
  | .list query => r.ask (.list query as) (·.page) .page

structure TaskReport where
  said : TaskSaid
  now : Nat
  calls : List (Nat × ServiceCall)

def reports (r : TaskRehearsal) : List TaskStep → List TaskReport
  | [] => []
  | s :: rest =>
    let (said, after) := r.perform s
    let made := after.service.calls.length - r.service.calls.length
    ⟨said, after.now, (after.service.calls.take made).reverse⟩ :: after.reports rest

end TaskRehearsal

end ModelServing.Rehearsal
