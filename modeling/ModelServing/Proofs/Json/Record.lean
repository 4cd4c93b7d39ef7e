import ModelServing.Json.Record

/-! Which texts stand for a record, and what they state of its fields: an object in which no known field is
named twice, or an array that is not longer than the record. -/
namespace ModelServing.Json

def Tree.States (names : List String) (depth : Nat) (t : Tree) (name : String) (v : Json) : Prop :=
  match t with
  | .object members => ∃ m ∈ members, Piece.string? m.1 = some name ∧ m.2.value? depth = some v
  | .array items => ∃ m ∈ names.zip items, m.1 = name ∧ m.2.value? depth = some v
  | _ => False

def known? (names : List String) (m : List Piece × Tree) : Option String :=
  (Piece.string? m.1).filter fun name => names.contains name

inductive Tree.IsRecord (names : List String) (depth : Nat) : Tree → Prop where
  | object {members : List (List Piece × Tree)}
      (named : ∀ m ∈ members, ∃ name, Piece.string? m.1 = some name)
      (read : ∀ m ∈ members, ∀ name, known? names m = some name → ∃ v, m.2.value? depth = some v)
      (once : (members.filterMap (known? names)).Nodup) : IsRecord names depth (.object members)
  | array {items : List Tree} (few : items.length ≤ names.length)
      (read : ∀ t ∈ items, ∃ v, t.value? depth = some v) : IsRecord names depth (.array items)

section
variable {names : List String} {depth : Nat}

theorem knownStep (key : List Piece) (t : Tree) (rest : List (List Piece × Tree)) (fields : Fields) :
    Tree.knownMembers? names depth ((key, t) :: rest) = some fields ↔
      ∃ name more, Piece.string? key = some name ∧
        Tree.knownMembers? names depth rest = some more ∧
        (name ∉ names ∧ more = fields ∨
          name ∈ names ∧ ∃ v, t.value? depth = some v ∧ more.get? name = none ∧
            (name, v) :: more = fields) := by
  simp only [Tree.knownMembers?, Option.bind_eq_bind, Option.bind_eq_some_iff, List.contains_iff_mem]
  refine exists_congr fun name => ?_
  constructor
  · rintro ⟨named, more, read, last⟩
    refine ⟨more, named, read, ?_⟩
    split at last
    · rename_i known
      obtain ⟨v, value, last⟩ := Option.bind_eq_some_iff.mp last
      split at last
      · cases last
      · rename_i fresh
        exact .inr ⟨known, v, value, by simpa using fresh, Option.some.inj last⟩
    · rename_i other
      exact .inl ⟨other, Option.some.inj last⟩
  · rintro ⟨more, named, read, ⟨other, same⟩ | ⟨known, v, value, fresh, same⟩⟩
    · exact ⟨named, more, read, by rw [if_neg other, same]⟩
    · refine ⟨named, more, read, ?_⟩
      rw [if_pos known, value, Option.bind_some, fresh, ← same]
      rfl

theorem membersState {members : List (List Piece × Tree)} {fields : Fields}
    (read : Tree.knownMembers? names depth members = some fields) {name : String}
    (known : name ∈ names) (v : Json) :
    fields.get? name = some v ↔ (Tree.object members).States names depth name v := by
  induction members generalizing fields with
  | nil =>
    cases read
    simp [Tree.States, Fields.get?]
  | cons m rest ih =>
    obtain ⟨key, t⟩ := m
    obtain ⟨first, more, named, readMore, last⟩ := (knownStep key t rest fields).mp read
    have later := ih readMore
    simp only [Tree.States, List.mem_cons, exists_eq_or_imp, named, Option.some.injEq] at later ⊢
    rw [← later]
    rcases last with ⟨other, rfl⟩ | ⟨_, w, value, fresh, rfl⟩
    · have apart : first ≠ name := fun same => other (same ▸ known)
      simp [apart]
    · rw [value, Fields.get?]
      by_cases same : first = name
      · subst same
        simp [fresh]
      · simp [same]

theorem knownIs {m : List Piece × Tree} {name : String} (named : Piece.string? m.1 = some name) :
    known? names m = if name ∈ names then some name else none := by
  by_cases known : name ∈ names
  all_goals simp [known?, named, known]

theorem knownIff (m : List Piece × Tree) (name : String) :
    known? names m = some name ↔ Piece.string? m.1 = some name ∧ name ∈ names := by
  simp [known?, Option.filter_eq_some_iff]

theorem freshIff {members : List (List Piece × Tree)} {fields : Fields}
    (read : Tree.knownMembers? names depth members = some fields)
    (valued : ∀ m ∈ members, ∀ name, known? names m = some name → ∃ v, m.2.value? depth = some v)
    {name : String} (known : name ∈ names) :
    fields.get? name = none ↔ name ∉ members.filterMap (known? names) := by
  rw [Option.eq_none_iff_forall_ne_some, List.mem_filterMap]
  constructor
  · rintro fresh ⟨m, member, same⟩
    obtain ⟨v, value⟩ := valued m member name same
    exact fresh v ((membersState read known v).mpr ⟨m, member, ((knownIff _ _).mp same).1, value⟩)
  · intro absent v stated
    obtain ⟨m, member, same, _⟩ := (membersState read known v).mp stated
    exact absent ⟨m, member, (knownIff _ _).mpr ⟨same, known⟩⟩

theorem membersRead (members : List (List Piece × Tree)) :
    (∃ fields, Tree.knownMembers? names depth members = some fields) ↔
      (Tree.object members).IsRecord names depth := by
  induction members with
  | nil => exact ⟨fun _ => .object nofun nofun List.nodup_nil, fun _ => ⟨[], rfl⟩⟩
  | cons m rest ih =>
    obtain ⟨key, t⟩ := m
    constructor
    · rintro ⟨fields, read⟩
      obtain ⟨name, more, named, readMore, last⟩ := (knownStep key t rest fields).mp read
      obtain ⟨namedMore, valued, once⟩ := ih.mp ⟨more, readMore⟩
      have own : known? names (key, t) = if name ∈ names then some name else none := knownIs named
      rcases last with ⟨other, _⟩ | ⟨known, v, value, fresh, _⟩
      · rw [if_neg other] at own
        refine .object (List.forall_mem_cons.mpr ⟨⟨name, named⟩, namedMore⟩)
          (List.forall_mem_cons.mpr ⟨by simp [own], valued⟩) ?_
        rwa [List.filterMap_cons_none own]
      · rw [if_pos known] at own
        refine .object (List.forall_mem_cons.mpr ⟨⟨name, named⟩, namedMore⟩)
          (List.forall_mem_cons.mpr ⟨fun _ _ => ⟨v, value⟩, valued⟩) ?_
        rw [List.filterMap_cons_some own]
        exact List.nodup_cons.mpr ⟨(freshIff readMore valued known).mp fresh, once⟩
    · rintro ⟨named, valued, once⟩
      obtain ⟨⟨name, named⟩, namedMore⟩ := List.forall_mem_cons.mp named
      obtain ⟨value, valuedMore⟩ := List.forall_mem_cons.mp valued
      have own : known? names (key, t) = if name ∈ names then some name else none := knownIs named
      by_cases known : name ∈ names
      · rw [if_pos known] at own
        rw [List.filterMap_cons_some own] at once
        obtain ⟨single, once⟩ := List.nodup_cons.mp once
        obtain ⟨more, readMore⟩ := ih.mpr (.object namedMore valuedMore once)
        obtain ⟨v, value⟩ := value name own
        have fresh := (freshIff readMore valuedMore known).mpr single
        exact ⟨_, (knownStep key t rest _).mpr
          ⟨name, more, named, readMore, .inr ⟨known, v, value, fresh, rfl⟩⟩⟩
      · rw [if_neg known] at own
        rw [List.filterMap_cons_none own] at once
        obtain ⟨more, readMore⟩ := ih.mpr (.object namedMore valuedMore once)
        exact ⟨more, (knownStep key t rest more).mpr
          ⟨name, more, named, readMore, .inl ⟨known, rfl⟩⟩⟩

theorem itemsRead (items : List Tree) :
    (∃ values, Tree.values? depth items = some values) ↔ ∀ t ∈ items, ∃ v, t.value? depth = some v := by
  induction items with
  | nil => exact ⟨fun _ => nofun, fun _ => ⟨[], rfl⟩⟩
  | cons t rest ih =>
    rw [List.forall_mem_cons, ← ih]
    simp only [Tree.values?, Option.bind_eq_bind, Option.bind_eq_some_iff]
    constructor
    · rintro ⟨_, v, value, values, others, _⟩
      exact ⟨⟨v, value⟩, values, others⟩
    · rintro ⟨⟨v, value⟩, values, others⟩
      exact ⟨v :: values, v, value, values, others, rfl⟩

theorem itemsState {names : List String} (single : names.Nodup) {items : List Tree}
    {values : List Json} (read : Tree.values? depth items = some values) (name : String) (v : Json) :
    Fields.get? name (names.zip values) = some v ↔
      (Tree.array items).States names depth name v := by
  induction items generalizing names values with
  | nil =>
    cases read
    simp [Tree.States, Fields.get?]
  | cons t rest ih =>
    simp only [Tree.values?, Option.bind_eq_bind, Option.bind_eq_some_iff] at read
    obtain ⟨w, value, others, readMore, last⟩ := read
    cases last
    cases names with
    | nil => simp [Tree.States, Fields.get?]
    | cons first names =>
      obtain ⟨absent, single⟩ := List.nodup_cons.mp single
      have later := ih single readMore
      simp only [Tree.States, List.zip_cons_cons, List.mem_cons, exists_eq_or_imp] at later ⊢
      rw [← later, value, Fields.get?]
      by_cases same : first = name
      · subst same
        have none_ : Fields.get? first (names.zip others) ≠ some v := by
          rw [Ne, later]
          rintro ⟨m, member, rfl, _⟩
          exact absent (List.of_mem_zip member).1
        simp [none_]
      · simp [same]

theorem recordRead (t : Tree) :
    (∃ fields, t.record? names depth = some fields) ↔ t.IsRecord names depth := by
  cases t with
  | object members => exact membersRead members
  | array items =>
    rw [Tree.record?]
    constructor
    · rintro ⟨fields, read⟩
      split at read
      · rename_i few
        obtain ⟨values, read, _⟩ := Option.map_eq_some_iff.mp read
        exact .array few ((itemsRead items).mp ⟨values, read⟩)
      · cases read
    · rintro ⟨⟩
      rename_i few read
      obtain ⟨values, read⟩ := (itemsRead items).mpr read
      exact ⟨names.zip values, by rw [if_pos few, read]; rfl⟩
  | null | bool b | number l | text pieces =>
    exact ⟨fun ⟨_, read⟩ => (nomatch read), nofun⟩

theorem recordStates (single : names.Nodup) {t : Tree} {fields : Fields}
    (read : t.record? names depth = some fields) {name : String} (known : name ∈ names) (v : Json) :
    fields.get? name = some v ↔ t.States names depth name v := by
  cases t with
  | object members => exact membersState read known v
  | array items =>
    rw [Tree.record?] at read
    split at read
    · obtain ⟨values, read, same⟩ := Option.map_eq_some_iff.mp read
      rw [← same]
      exact itemsState single read name v
    · cases read
  | null | bool b | number l | text pieces => cases read

end

end ModelServing.Json
