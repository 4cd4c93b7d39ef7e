import ModelServing.Proofs.Json.RoundTrip
import ModelServing.Proofs.Number.Nearest
import ModelServing.Usage

/-! What a reply cost, read and written. The five counters and all other members share one object: each
member is taken by one side, and each side puts back what it took. -/
namespace ModelServing

inductive Stated {α : Type} (reads : Json → α → Prop) : Option Json → Option α → Prop where
  | absent : Stated reads none none
  | null : Stated reads (some .null) none
  | value {v : Json} {a : α} (read : reads v a) : Stated reads (some v) (some a)

inductive Number.ReadAs : Number → Double → Prop where
  | natural {n : UInt64} {d : Double} (nearest : d.Nearest n.toNat) : ReadAs (.natural n) d
  | negative {below : Fin 9223372036854775808} {d : Double} (nearest : d.Nearest (below.val + 1)) :
      ReadAs (.negative below) d.negate
  | double (d : Double) : ReadAs (.double d) d

theorem Stated.unique {α : Type} {reads : Json → α → Prop}
    {stated : Option Json} {x y : Option α} (one : Stated reads stated x)
    (other : Stated reads stated y) (same : ∀ v a b, reads v a → reads v b → a = b)
    (value : ∀ a, ¬reads .null a) : x = y := by
  cases one with
  | absent =>
    cases other
    rfl
  | null =>
    cases other with
    | null => rfl
    | value read => exact absurd read (value _)
  | value read =>
    cases other with
    | null => exact absurd read (value _)
    | value also => exact congrArg some (same _ _ _ read also)

theorem Number.ReadAs.unique {n : Number} {d e : Double} (one : n.ReadAs d) (other : n.ReadAs e) :
    d = e := by
  cases one with
  | natural nearest =>
    cases other with
    | natural also => exact nearest.unique also
  | negative nearest =>
    cases other with
    | negative also => exact congrArg Double.negate (nearest.unique also)
  | double d =>
    cases other
    rfl

namespace Fields

theorem optionalStates {α : Type} {read : Json → Option α} {reads : Json → α → Prop}
    (sound : ∀ v a, read v = some a → reads v a) {fields : Fields} {key : String} {x : Option α}
    (taken : fields.optional key read = some x) : Stated reads (fields.get? key) x := by
  unfold optional at taken
  generalize fields.get? key = stated at taken ⊢
  cases stated with
  | none =>
    cases taken
    exact .absent
  | some v =>
    by_cases null : v = .null
    · subst null
      cases taken
      exact .null
    · obtain ⟨a, own, rfl⟩ : ∃ a, read v = some a ∧ some a = x := by
        cases v <;> simp_all
      exact .value (sound v a own)

theorem optionalTaken {α : Type} {read : Json → Option α} {reads : Json → α → Prop}
    (complete : ∀ v a, reads v a → ∃ b, read v = some b) {fields : Fields} {key : String} {x : Option α}
    (stated : Stated reads (fields.get? key) x) : ∃ y, fields.optional key read = some y := by
  unfold optional
  generalize fields.get? key = own at stated
  cases stated with
  | absent | null => exact ⟨none, rfl⟩
  | @value v a read =>
    obtain ⟨b, own⟩ := complete v a read
    cases v <;> simp [own]

theorem optionalFound {α : Type} {read : Json → Option α} {write : α → Json} {fields : Fields}
    {key : String} {x : Option α} (found : fields.get? key = x.map write)
    (back : ∀ a, read (write a) = some a ∧ write a ≠ .null) : fields.optional key read = some x := by
  rw [optional, found]
  cases x with
  | none => rfl
  | some a =>
    obtain ⟨own, value⟩ := back a
    simp [own]

theorem getFilter (keep : String → Bool) (fields : Fields) (key : String) :
    get? key (fields.filter fun m => keep m.1) = if keep key then fields.get? key else none := by
  induction fields with
  | nil => simp [get?]
  | cons m rest ih =>
    obtain ⟨own, v⟩ := m
    by_cases same : own = key
    · subst same
      cases kept : keep own <;> simp [get?, kept, ih]
    · cases kept : keep own <;> simp [get?, kept, ih, same]

theorem getInsertSome (key name : String) (value : Option Json) (fields : Fields) :
    (fields.insertSome key value).get? name =
      if key = name then value.or (fields.get? name) else fields.get? name := by
  cases value with
  | none => simp [insertSome]
  | some v =>
    rw [insertSome, get?_insert]
    split <;> rfl

theorem orderedInsertSome (key : String) (value : Option Json) {fields : Fields}
    (ordered : fields.Ordered) : (fields.insertSome key value).Ordered := by
  cases value with
  | none => exact ordered
  | some v => exact ordered_insert key v fields ordered

theorem filterInsertSome {keep : String → Bool} {key : String} (dropped : keep key = false)
    (value : Option Json) (fields : Fields) :
    (fields.insertSome key value).filter (fun m => keep m.1) = fields.filter fun m => keep m.1 := by
  cases value with
  | none => rfl
  | some v =>
    rw [insertSome]
    induction fields with
    | nil => simp [insert, dropped]
    | cons m rest ih => grind [insert]

theorem getNone (fields : Fields) (key : String) :
    fields.get? key = none ↔ ∀ m ∈ fields, m.1 ≠ key := by
  induction fields with
  | nil => simp [get?]
  | cons m rest ih => grind [get?]

end Fields

namespace Json

theorem naturalStates (v : Json) (n : UInt64) : v.natural? = some n ↔ v = .natural n := by
  cases v with
  | number x => cases x <;> simp [natural?, natural]
  | _ => simp [natural?, natural]

def Measures (v : Json) (d : Double) : Prop := ∃ n, v = .number n ∧ n.ReadAs d

theorem Measures.unique {v : Json} {d e : Double} (one : v.Measures d) (other : v.Measures e) : d = e := by
  obtain ⟨n, rfl, read⟩ := one
  obtain ⟨_, same, also⟩ := other
  cases same
  exact read.unique also

theorem doubleMeasures {v : Json} {d : Double} (read : v.double? = some d) : v.Measures d := by
  cases v with
  | number n =>
    refine ⟨n, rfl, ?_⟩
    cases n with
    | natural n => exact .natural (Double.nearestRead read)
    | negative below =>
      obtain ⟨e, own, rfl⟩ := Option.map_eq_some_iff.mp read
      exact .negative (Double.nearestRead own)
    | double e =>
      cases read
      exact .double d
  | _ => cases read

theorem numberMeasured (n : Number) : ∃ d, (Json.number n).double? = some d := by
  cases n with
  | natural n => exact Double.naturalFits n.toNat_lt.le
  | negative below =>
    obtain ⟨d, own⟩ := Double.naturalFits (n := below.val + 1) (below.isLt.trans (by decide))
    exact ⟨d.negate, congrArg (Option.map Double.negate) own⟩
  | double d => exact ⟨d, rfl⟩

end Json

namespace Usage

def Counts (v : Json) (n : UInt64) : Prop := v = .natural n

structure Reports (fields : Fields) (u : Usage) : Prop where
  inputTokens : Stated Counts (fields.get? "input_tokens") u.inputTokens
  outputTokens : Stated Counts (fields.get? "output_tokens") u.outputTokens
  totalTokens : Stated Counts (fields.get? "total_tokens") u.totalTokens
  characters : Stated Counts (fields.get? "characters") u.characters
  duration : Stated Json.Measures (fields.get? "duration") u.duration
  extra : u.extra = fields.filter fun m => m.1 ∉ fieldNames

variable {fields : Fields} {u : Usage}

theorem reported (read : ofJson? (.object fields) = some u) : Reports fields u := by
  simp only [ofJson?, Option.bind_eq_bind, Option.bind_eq_some_iff] at read
  obtain ⟨input, a, output, b, total, c, characters, d, duration, e, last⟩ := read
  cases Option.some.inj last
  have counts (v : Json) (n : UInt64) : v.natural? = some n → Counts v n := (Json.naturalStates v n).mp
  exact ⟨Fields.optionalStates counts a, Fields.optionalStates counts b,
    Fields.optionalStates counts c, Fields.optionalStates counts d,
    Fields.optionalStates (fun _ _ => Json.doubleMeasures) e, by simp⟩

theorem Reports.read (reports : Reports fields u) : ∃ w, ofJson? (.object fields) = some w := by
  have counts (v : Json) (n : UInt64) (own : Counts v n) : ∃ m, v.natural? = some m :=
    ⟨n, (Json.naturalStates v n).mpr own⟩
  have measures (v : Json) (d : Double) : v.Measures d → ∃ e, v.double? = some e := by
    rintro ⟨n, rfl, _⟩
    exact Json.numberMeasured n
  obtain ⟨input, a⟩ := Fields.optionalTaken counts reports.inputTokens
  obtain ⟨output, b⟩ := Fields.optionalTaken counts reports.outputTokens
  obtain ⟨total, c⟩ := Fields.optionalTaken counts reports.totalTokens
  obtain ⟨characters, d⟩ := Fields.optionalTaken counts reports.characters
  obtain ⟨duration, e⟩ := Fields.optionalTaken measures reports.duration
  simp [ofJson?, a, b, c, d, e]

theorem Reports.extraIs (reports : Reports fields u) (name : String) :
    u.extra.get? name = if name ∈ fieldNames then none else fields.get? name := by
  rw [reports.extra, Fields.getFilter fun key => decide (key ∉ fieldNames)]
  by_cases known : name ∈ fieldNames <;> simp [known]

theorem Reports.unique {w : Usage} (one : Reports fields u) (other : Reports fields w) : u = w := by
  have counts (v : Json) (n m : UInt64) (read : Counts v n) (also : Counts v m) : n = m := by
    cases read.symm.trans also
    rfl
  have counter (n : UInt64) : ¬Counts .null n := nofun
  have measure (d : Double) : ¬Json.Measures .null d := nofun
  cases u
  cases w
  congr 1
  · exact one.inputTokens.unique other.inputTokens counts counter
  · exact one.outputTokens.unique other.outputTokens counts counter
  · exact one.totalTokens.unique other.totalTokens counts counter
  · exact one.characters.unique other.characters counts counter
  · exact one.duration.unique other.duration (fun _ _ _ => Json.Measures.unique) measure
  · exact one.extra.trans other.extra.symm

def written (u : Usage) : Fields :=
  Fields.insertSome "input_tokens" (u.inputTokens.map Json.natural) <|
  Fields.insertSome "output_tokens" (u.outputTokens.map Json.natural) <|
  Fields.insertSome "total_tokens" (u.totalTokens.map Json.natural) <|
  Fields.insertSome "characters" (u.characters.map Json.natural) <|
  Fields.insertSome "duration" (u.duration.map fun d => .number (.double d)) u.extra

structure Found (u : Usage) (fields : Fields) : Prop where
  inputTokens : fields.get? "input_tokens" = u.inputTokens.map Json.natural
  outputTokens : fields.get? "output_tokens" = u.outputTokens.map Json.natural
  totalTokens : fields.get? "total_tokens" = u.totalTokens.map Json.natural
  characters : fields.get? "characters" = u.characters.map Json.natural
  duration : fields.get? "duration" = u.duration.map fun d => .number (.double d)
  others : ∀ name, name ∉ fieldNames → fields.get? name = u.extra.get? name

theorem found (apart : ∀ name ∈ fieldNames, u.extra.get? name = none) : Found u u.written := by
  simp only [fieldNames, List.forall_mem_cons] at apart
  obtain ⟨input, output, total, characters, duration, _⟩ := apart
  constructor
  case others =>
    intro name other
    simp only [fieldNames, List.mem_cons, List.not_mem_nil, not_or] at other
    obtain ⟨a, b, c, d, e, _⟩ := other
    simp [written, Fields.getInsertSome, Ne.symm a, Ne.symm b, Ne.symm c, Ne.symm d, Ne.symm e]
  all_goals simp [written, Fields.getInsertSome, input, output, total, characters, duration]

theorem writtenOrdered (ordered : u.extra.Ordered) : u.written.Ordered := by
  unfold written
  exact Fields.orderedInsertSome _ _ (Fields.orderedInsertSome _ _ (Fields.orderedInsertSome _ _
    (Fields.orderedInsertSome _ _ (Fields.orderedInsertSome _ _ ordered))))

theorem writtenExtra (apart : ∀ name ∈ fieldNames, u.extra.get? name = none) :
    u.written.filter (fun m => !fieldNames.contains m.1) = u.extra := by
  have kept : u.extra.filter (fun m => !fieldNames.contains m.1) = u.extra := by
    refine List.filter_eq_self.mpr fun m member => ?_
    by_contra known
    have absent := apart m.1 (by simpa using known)
    exact (Fields.getNone u.extra m.1).mp absent m member rfl
  have dropped {key : String} (known : key ∈ fieldNames) (value : Option Json) (fields : Fields) :
      (fields.insertSome key value).filter (fun m => !fieldNames.contains m.1) =
        fields.filter fun m => !fieldNames.contains m.1 :=
    @Fields.filterInsertSome (fun key => !fieldNames.contains key) key (by simpa using known) value fields
  unfold written
  rw [dropped (by decide), dropped (by decide), dropped (by decide), dropped (by decide),
    dropped (by decide), kept]

theorem readBack (apart : ∀ name ∈ fieldNames, u.extra.get? name = none) :
    ofJson? u.toJson = some u := by
  have all := found apart
  have others := writtenExtra apart
  have counter (n : UInt64) : Json.natural? (.natural n) = some n ∧ Json.natural n ≠ .null := ⟨rfl, nofun⟩
  have length (d : Double) : Json.double? (.number (.double d)) = some d ∧
      Json.number (.double d) ≠ .null := ⟨rfl, nofun⟩
  change ofJson? (.object u.written) = some u
  simp only [ofJson?, others, Option.bind_eq_bind,
    Fields.optionalFound all.inputTokens counter, Fields.optionalFound all.outputTokens counter,
    Fields.optionalFound all.totalTokens counter, Fields.optionalFound all.characters counter,
    Fields.optionalFound all.duration length, Option.bind_some]

/-- What becomes of a member: a counter that is null goes, a duration is written as the double that it was
read as, and all else stays. -/
inductive Rewritten (name : String) : Option Json → Option Json → Prop where
  | absent : Rewritten name none none
  | null (known : name ∈ fieldNames) : Rewritten name (some .null) none
  | duration {n : Number} {d : Double} (own : name = "duration") (read : n.ReadAs d) :
      Rewritten name (some (.number n)) (some (.number (.double d)))
  | counter {n : UInt64} (known : name ∈ fieldNames) (other : name ≠ "duration") :
      Rewritten name (some (.natural n)) (some (.natural n))
  | other (v : Json) (unknown : name ∉ fieldNames) : Rewritten name (some v) (some v)

theorem counterRewritten {name : String} (known : name ∈ fieldNames) (other : name ≠ "duration")
    {stated : Option Json} {x : Option UInt64} (reads : Stated Counts stated x) :
    Rewritten name stated (x.map Json.natural) := by
  cases reads with
  | absent => exact .absent
  | null => exact .null known
  | value read => exact read ▸ .counter known other

theorem Reports.rewritten (reports : Reports fields u) (name : String) :
    Rewritten name (fields.get? name) (u.written.get? name) := by
  have all := found fun name known => (reports.extraIs name).trans (if_pos known)
  by_cases known : name ∈ fieldNames
  · have named := known
    simp only [fieldNames, List.mem_cons, List.not_mem_nil, or_false] at named
    rcases named with rfl | rfl | rfl | rfl | rfl
    · exact all.inputTokens ▸ counterRewritten known (by decide) reports.inputTokens
    · exact all.outputTokens ▸ counterRewritten known (by decide) reports.outputTokens
    · exact all.totalTokens ▸ counterRewritten known (by decide) reports.totalTokens
    · exact all.characters ▸ counterRewritten known (by decide) reports.characters
    · rw [all.duration]
      have stated := reports.duration
      generalize fields.get? "duration" = own at stated ⊢
      generalize u.duration = x at stated ⊢
      cases stated with
      | absent => exact .absent
      | null => exact .null known
      | value read =>
        obtain ⟨n, rfl, read⟩ := read
        exact .duration rfl read
  · rw [all.others name known, reports.extraIs, if_neg known]
    cases fields.get? name with
    | none => exact .absent
    | some v => exact .other v known

theorem usageRoundTrips {fields : Fields} (ordered : fields.Ordered) {u : Usage}
    (read : ofJson? (.object fields) = some u) :
    (∀ name, name ∉ fieldNames → u.extra.get? name = fields.get? name) ∧
    (∀ name ∈ fieldNames, u.extra.get? name = none) ∧
    (∃ encoded : Fields, u.toJson = .object encoded ∧ encoded.Ordered ∧
      ∀ name, Rewritten name (fields.get? name) (encoded.get? name)) ∧
    ofJson? u.toJson = some u := by
  have reports := reported read
  have apart : ∀ name ∈ fieldNames, u.extra.get? name = none :=
    fun name known => (reports.extraIs name).trans (if_pos known)
  have inOrder : u.extra.Ordered := by
    rw [Json.orderedPairwise] at ordered ⊢
    rw [reports.extra]
    exact ordered.filter _
  exact ⟨fun name other => (reports.extraIs name).trans (if_neg other), apart,
    ⟨u.written, rfl, writtenOrdered inOrder, reports.rewritten⟩, readBack apart⟩

def awkwardReport : Fields :=
  [("characters", .null), ("duration", .natural 9007199254740993), ("image_count", .natural 1),
    ("input_tokens", .natural 18446744073709551615), ("note", .null)]

def awkwardUsage : Usage :=
  ⟨some 18446744073709551615, none, none, none, some ⟨4845873199050653696⟩,
    [("image_count", .natural 1), ("note", .null)]⟩

theorem awkwardRoundTrips :
    awkwardReport.Ordered ∧ ofJson? (.object awkwardReport) = some awkwardUsage ∧
    (∀ name, name ∉ fieldNames → awkwardUsage.extra.get? name = awkwardReport.get? name) ∧
    (∀ name ∈ fieldNames, awkwardUsage.extra.get? name = none) ∧
    (∃ encoded : Fields, awkwardUsage.toJson = .object encoded ∧ encoded.Ordered ∧
      ∀ name, Rewritten name (awkwardReport.get? name) (encoded.get? name)) ∧
    ofJson? awkwardUsage.toJson = some awkwardUsage := by
  have ordered : awkwardReport.Ordered := (Json.orderedPairwise awkwardReport).mpr (by decide)
  have read : ofJson? (.object awkwardReport) = some awkwardUsage := by decide +kernel
  exact ⟨ordered, read, usageRoundTrips ordered read⟩

end Usage

end ModelServing
