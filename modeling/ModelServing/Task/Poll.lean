import ModelServing.Backoff
import ModelServing.Error
import ModelServing.Reply
/-! Polling a task until nothing more will happen to it. A fetch that shows the task unfinished uses
up one pause of the backoff; one that fails but may be tried again waits for the same pause without
using it up. -/
namespace ModelServing.Poll

inductive Verdict where
  | done (result : Except Error Reply)
  | pause (delay : Duration) (next : Backoff)

def judge (b : Backoff) : Except Error Reply → Verdict
  | .ok r =>
    if r.taskStatus.isTerminal then .done (.ok r)
    else
      let (delay, next) := b.next
      .pause delay next
  | .error e => if e.isTransient then .pause b.current b else .done (.error e)

inductive Watched (α : Type) where
  | done (time : Nat) (result : Except Error α)
  | expired (time : Nat)
  | unfinished (time : Nat)

def Watched.result? {α : Type} : Watched α → Option (Except Error α)
  | .done _ result => some result
  | .expired _ | .unfinished _ => none

def late (limit : Option Nat) (time : Nat) : Option Nat := limit.filter (· < time)

def once {α σ : Type} (ask : Nat → σ → Nat × Except Error α × σ) (limit : Option Nat) (now : Nat)
    (s : σ) : Watched α × σ :=
  let (taken, result, s) := ask now s
  let answered := now + taken
  match late limit answered with
  | some time => (.expired time, s)
  | none => (.done answered result, s)

def watch {σ : Type} (fetch : Nat → σ → Nat × Except Error Reply × σ)
    (pause : Duration → Nat → σ → Nat × σ) (limit : Option Nat) :
    Nat → Nat → Backoff → σ → Watched Reply × σ
  | 0, now, _, s => (.unfinished now, s)
  | fetches + 1, now, b, s =>
    match once fetch limit now s with
    | (.done answered outcome, s) =>
      match judge b outcome with
      | .done result => (.done answered result, s)
      | .pause delay next =>
        let (lasts, s) := pause delay answered s
        let resumed := answered + lasts
        match late limit resumed with
        | some time => (.expired time, s)
        | none => watch fetch pause limit fetches resumed next s
    | other => other

end ModelServing.Poll
