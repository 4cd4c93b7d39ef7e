/-! What the events of a session mean to it. -/
namespace ModelServing

inductive EventKind where
  | sessionCreated
  | started
  | data
  | turnDone
  | finished
  | failed
  deriving DecidableEq, Repr

abbrev EventTable := List (String × EventKind)

def EventTable.classify (table : EventTable) : Option String → EventKind
  | none => .data
  | some name => ((table.reverse.find? (·.1 = name)).map (·.2)).getD .data

end ModelServing
