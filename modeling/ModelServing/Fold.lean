import ModelServing.Error
import ModelServing.Reply
/-! Many partial replies as one. Octets are joined; otherwise the last JSON reply stands. Usage and
request are those last heard of. -/
namespace ModelServing

structure Fold where
  audio : Bytes
  last : Option Reply
  usage : Option Usage
  requestId : Option String
  deriving DecidableEq

namespace Fold

def empty : Fold := ⟨[], none, none, none⟩

def add (f : Fold) (r : Reply) : Fold :=
  let f := { f with
    usage := r.usage.orElse fun _ => f.usage
    requestId := r.requestId.orElse fun _ => f.requestId }
  match r.payload with
  | .binary bytes => { f with audio := f.audio ++ bytes }
  | .json _ => { f with last := some r }

def result (f : Fold) : Reply :=
  let folded :=
    if f.audio.isEmpty then f.last.getD (Reply.json .null)
    else { Reply.binary f.audio with event := f.last.bind (·.event) }
  { folded with requestId := f.requestId, usage := f.usage }

def run (f : Fold) : List (Except Error Reply) → Except Error Reply
  | [] => .ok f.result
  | .error e :: _ => .error e
  | .ok r :: rest => (f.add r).run rest

end Fold

def foldReplies (parts : List (Except Error Reply)) : Except Error Reply := Fold.empty.run parts

end ModelServing
