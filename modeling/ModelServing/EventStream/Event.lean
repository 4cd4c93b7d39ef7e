import ModelServing.Error
import ModelServing.Reply
/-! Events of an event stream: blocks of lines, each a field with a value, up to a blank line. -/
namespace ModelServing.EventStream

structure Event where
  id : Option String
  event : Option String
  data : String
  deriving DecidableEq, Repr

def Event.isError (e : Event) : Bool := e.event == some "error"

def Event.toReply (e : Event) : Except Error Reply :=
  if e.isError then .error (.api (.ofTextOrMessage e.data))
  else
    match Json.parse? e.data with
    | none => .error .malformedJson
    | some value => .ok { Reply.ofEnvelope value none with event := e.event }

structure Block where
  id : List Char
  event : List Char
  data : List (List Char)
  deriving DecidableEq, Repr

namespace Block

def empty : Block := ⟨[], [], []⟩

def joinData : List (List Char) → List Char
  | [] => []
  | [line] => line
  | line :: next :: rest => line ++ '\n' :: joinData (next :: rest)

def fieldValue : List Char → List Char
  | ':' :: ' ' :: value => value
  | ':' :: value => value
  | value => value

def setField (b : Block) (name value : List Char) : Block :=
  if name = "event".toList then { b with event := value }
  else if name = "data".toList then { b with data := b.data ++ [value] }
  else if name = "id".toList ∧ ¬value.contains '\x00' then { b with id := value }
  else b

def nonEmpty (cs : List Char) : Option String :=
  if cs.isEmpty then none else some (String.ofList cs)

def event? (b : Block) : Option Event :=
  if b.data.isEmpty then none
  else
    let name := if b.event.isEmpty then "message".toList else b.event
    some ⟨nonEmpty b.id, nonEmpty name, String.ofList (joinData b.data)⟩

/-- A blank line ends the block; the identifier outlives it. A line that begins with a colon is a
comment. -/
def line (b : Block) (cs : List Char) : Block × List Event :=
  match cs with
  | [] => ({ empty with id := b.id }, b.event?.toList)
  | ':' :: _ => (b, [])
  | _ => (b.setField (cs.takeWhile (· ≠ ':')) (fieldValue (cs.dropWhile (· ≠ ':'))), [])

def lines (b : Block) : List (List Char) → Block × List Event
  | [] => (b, [])
  | l :: rest =>
    let (b, now) := b.line l
    let (b, later) := b.lines rest
    (b, now ++ later)

end Block

end ModelServing.EventStream
