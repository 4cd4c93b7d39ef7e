/-! Logs whose entries are labelled with a number, such as the generation of a run, and the entries
under one label in their order. -/
namespace ModelServing

def entriesOf {α : Type} (log : List (Nat × α)) (label : Nat) : List α :=
  log.filterMap fun e => if e.1 = label then some e.2 else none

section
variable {α : Type} {label other : Nat}

theorem entriesOfAppend (log more : List (Nat × α)) (label : Nat) :
    entriesOf (log ++ more) label = entriesOf log label ++ entriesOf more label :=
  List.filterMap_append

theorem entriesOfOwn (label : Nat) (entries : List α) :
    entriesOf (entries.map (label, ·)) label = entries := by
  induction entries with
  | nil => rfl
  | cons e rest ih =>
    have head : entriesOf [(label, e)] label = [e] := by simp [entriesOf]
    rw [List.map_cons, ← List.singleton_append, entriesOfAppend, head, ih]
    rfl

theorem entriesOfAbsent {log : List (Nat × α)} (absent : ∀ e ∈ log, e.1 ≠ label) :
    entriesOf log label = [] := by
  apply List.filterMap_eq_nil_iff.mpr
  intro e member
  exact if_neg (absent e member)

theorem entriesOfOther (different : other ≠ label) (entries : List α) :
    entriesOf (entries.map (other, ·)) label = [] := by
  apply entriesOfAbsent
  intro e member
  obtain ⟨x, _, rfl⟩ := List.mem_map.mp member
  exact different

theorem entriesOfLater {log : List (Nat × α)} {bound : Nat} (known : ∀ e ∈ log, e.1 ≤ bound)
    (later : bound < label) : entriesOf log label = [] := by
  apply entriesOfAbsent
  intro e member
  have earlier := known e member
  omega

theorem entriesOfMapped {β : Type} (f : α → β) (log : List (Nat × α)) (label : Nat) :
    entriesOf (log.map fun e => (e.1, f e.2)) label = (entriesOf log label).map f := by
  rw [entriesOf, entriesOf, List.filterMap_map, List.map_filterMap]
  refine congrArg (List.filterMap · log) (funext fun e => ?_)
  dsimp only [Function.comp_apply]
  split <;> rfl

theorem entriesOfSublist {log more : List (Nat × α)} (sub : log.Sublist more) (label : Nat) :
    (entriesOf log label).Sublist (entriesOf more label) := sub.filterMap _

end

end ModelServing
