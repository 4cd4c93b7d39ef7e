import ModelServing.Rest.Service
import ModelServing.Task.Basic
/-! Tasks over HTTP, where nobody looks at a clock. How often a task is polled at most is a parameter;
a poll that comes to no end within it has no result. -/
namespace ModelServing

variable {σ : Type} (t : Tasks) (exchange : Rest.Exchange σ) (c : Config)

def Rest.backend : Tasks.Backend σ where
  submit r _ s := (0, submit exchange c r s)
  fetch taskId as _ s := (0, fetch exchange c taskId as s)
  pause _ _ s := (0, s)

namespace Tasks

def wait (fetches : Nat) (taskId : String) (s : σ) : Option (Except Error Reply) × σ :=
  let (watched, s) := t.waitOn (Rest.backend exchange c) none fetches taskId none 0 s
  (watched.result?, s)

def call (fetches : Nat) (r : Request) (s : σ) : Option (Except Error Reply) × σ :=
  let (watched, s) := t.callOn (Rest.backend exchange c) none fetches r none 0 s
  (watched.result?, s)

def fetch (taskId : String) (s : σ) : Except Error Reply × σ :=
  Rest.fetch exchange c taskId t.credentials s

def cancel (taskId : String) (s : σ) : Except Error Reply × σ :=
  Rest.cancel exchange c taskId t.credentials s

def list (q : TaskQuery) (s : σ) : Except Error TaskPage × σ :=
  Rest.list exchange c q t.credentials s

end Tasks

end ModelServing
