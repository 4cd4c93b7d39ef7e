import ModelServing.Http.Header

/-! Lists of named values whose names ascend, as headers are kept. Each name occurs once, so what such a
list holds under each name says what it is. -/
namespace ModelServing

def Ascends {α : Type} (l : List (String × α)) : Prop := l.Pairwise fun a b => a.1 < b.1

section
variable {α : Type} {l more : List (String × α)}

theorem Ascends.lookupIff (ascends : Ascends l) (name : String) (v : α) :
    l.lookup name = some v ↔ (name, v) ∈ l := by
  induction l with
  | nil => simp
  | cons m rest ih =>
    obtain ⟨own, w⟩ := m
    obtain ⟨below, ascends⟩ := List.pairwise_cons.mp ascends
    by_cases same : name = own
    · subst same
      have absent : (name, v) ∉ rest := fun member => String.lt_irrefl name (below _ member)
      simp [absent, eq_comm]
    · simp [List.lookup_cons, beq_false_of_ne same, same, ih ascends]

theorem Ascends.nodup (ascends : Ascends l) : l.Nodup := by
  refine List.Pairwise.imp (fun {a b} less same => ?_) ascends
  subst same
  exact String.lt_irrefl a.1 less

theorem Ascends.ext (ascends : Ascends l) (other : Ascends more)
    (same : ∀ name, l.lookup name = more.lookup name) : l = more := by
  have members : ∀ m, m ∈ l ↔ m ∈ more := by
    rintro ⟨name, v⟩
    rw [← ascends.lookupIff, ← other.lookupIff, same]
  refine ((List.perm_ext_iff_of_nodup ascends.nodup other.nodup).mpr members).eq_of_pairwise ?_
    ascends other
  intro a b _ _ less greater
  exact absurd greater (String.lt_asymm less)

end

namespace Http.Headers

theorem getLookup (headers : Headers) (name : String) : headers.get? name = headers.lookup name := by
  induction headers with
  | nil => rfl
  | cons h rest ih =>
    obtain ⟨own, v⟩ := h
    by_cases same : own = name
    · simp [get?, same]
    · simp [get?, List.lookup_cons, same, beq_false_of_ne (Ne.symm same), ih]

theorem memInsert {name value : String} {headers : Headers} {h : String × String}
    (member : h ∈ headers.insert name value) : h = (name, value) ∨ h ∈ headers := by
  induction headers with
  | nil => simpa [insert] using member
  | cons head rest ih => grind [insert]

theorem insertAscends (name value : String) {headers : Headers} (ascends : Ascends headers) :
    Ascends (headers.insert name value) := by
  induction headers with
  | nil => simp [insert, Ascends]
  | cons head rest ih =>
    obtain ⟨own, w⟩ := head
    obtain ⟨below, later⟩ := List.pairwise_cons.mp ascends
    unfold insert
    split
    · rename_i less
      refine .cons (List.forall_mem_cons.mpr ⟨less, fun h member => ?_⟩) ascends
      exact String.lt_trans less (below h member)
    · split
      · rename_i same
        subst same
        exact .cons below later
      · rename_i notLess other
        refine .cons (fun h member => ?_) (ih later)
        rcases memInsert member with rfl | old
        · exact String.not_le.mp fun le => other (String.le_antisymm le (String.not_lt.mp notLess))
        · exact below h old

end Http.Headers

end ModelServing
