import ModelServing.Json.Reader
/-! Records in JSON. A record is an object, or an array of its fields in their order with the last
ones left out at will. Members that the record does not know are skipped unread; a known member
may occur once. -/
namespace ModelServing

namespace Json

def record? (names : List String) : Json → Option Fields
  | object fields => some (fields.filter fun m => names.contains m.1)
  | array items => if items.length ≤ names.length then some (names.zip items) else none
  | _ => none

/-- The known members of an object's text. Every name must be well formed; the values of unknown
members need not be. -/
def Tree.knownMembers? (names : List String) (depth : Nat) :
    List (List Piece × Tree) → Option Fields
  | [] => some []
  | (key, t) :: rest => do
    let k ← Piece.string? key
    let more ← knownMembers? names depth rest
    if names.contains k then do
      let v ← t.value? depth
      if (more.get? k).isSome then none else some ((k, v) :: more)
    else some more

def Tree.record? (names : List String) (depth : Nat) : Tree → Option Fields
  | .object members => knownMembers? names depth members
  | .array items =>
    if items.length ≤ names.length then (values? depth items).map (names.zip ·) else none
  | _ => none

def recordOfText? (names : List String) (text : String) : Option Fields := do
  let t ← Tree.ofChars? text.toList
  t.record? names (maxDepth - 1)

end Json

namespace Fields

def optional {α : Type} (fields : Fields) (key : String) (read : Json → Option α) :
    Option (Option α) :=
  match fields.get? key with
  | none => some none
  | some .null => some none
  | some v => (read v).map some

def orElse {α : Type} (fields : Fields) (key : String) (read : Json → Option α) (fallback : α) :
    Option α :=
  match fields.get? key with
  | none => some fallback
  | some v => read v

def insertSome (key : String) (value : Option Json) (fields : Fields) : Fields :=
  match value with
  | none => fields
  | some v => fields.insert key v

end Fields

end ModelServing
