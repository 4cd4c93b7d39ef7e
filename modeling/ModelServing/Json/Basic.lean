import ModelServing.Number.Double
/-! JSON values. A number is a natural below `2 ^ 64`, a negative integer down to `-2 ^ 63`, or a
double; the members of an object are kept in the order of their names, each name once. -/
namespace ModelServing

inductive Number where
  | natural (n : UInt64)
  /-- Stands for `-(below + 1)`. -/
  | negative (below : Fin 9223372036854775808)
  | double (d : Double)
  deriving DecidableEq, Repr

inductive Json where
  | null
  | bool (b : Bool)
  | number (n : Number)
  | string (s : String)
  | array (items : List Json)
  | object (fields : List (String × Json))

abbrev Fields := List (String × Json)

namespace Fields

def get? (key : String) : Fields → Option Json
  | [] => none
  | (k, v) :: rest => if k = key then some v else get? key rest

def insert (key : String) (value : Json) : Fields → Fields
  | [] => [(key, value)]
  | (k, v) :: rest =>
    if key < k then (key, value) :: (k, v) :: rest
    else if key = k then (key, value) :: rest
    else (k, v) :: insert key value rest

def insertAll (fields : Fields) : List (String × Json) → Fields
  | [] => fields
  | (k, v) :: rest => insertAll (insert k v fields) rest

def ofList (members : List (String × Json)) : Fields := insertAll [] members

def Ordered : Fields → Prop
  | [] => True
  | (k, _) :: rest => (∀ m ∈ rest, k < m.1) ∧ Ordered rest

theorem get?_insert (key k : String) (value : Json) (fields : Fields) :
    (insert key value fields).get? k = if key = k then some value else fields.get? k := by
  induction fields with
  | nil => simp [insert, get?]
  | cons m rest ih => grind [insert, get?]

theorem mem_insert {key : String} {value : Json} {fields : Fields} {m : String × Json}
    (h : m ∈ insert key value fields) : m = (key, value) ∨ m ∈ fields := by
  induction fields with
  | nil => simpa [insert] using h
  | cons head rest ih => grind [insert]

theorem ordered_insert (key : String) (value : Json) (fields : Fields) (h : Ordered fields) :
    Ordered (insert key value fields) := by
  induction fields with
  | nil => simp [insert, Ordered]
  | cons m rest ih =>
    obtain ⟨k, v⟩ := m
    obtain ⟨above, below⟩ := h
    unfold insert
    split
    · next lt =>
      refine ⟨?_, above, below⟩
      intro m member
      rcases List.mem_cons.1 member with rfl | member
      · exact lt
      · exact String.lt_trans lt (above m member)
    · split
      · next same => subst same; exact ⟨above, below⟩
      · next notLt notEq =>
        refine ⟨?_, ih below⟩
        intro m member
        rcases mem_insert member with rfl | member
        · exact String.not_le.1 fun le => notEq (String.le_antisymm le (String.not_lt.1 notLt))
        · exact above m member

end Fields

namespace Json

def ofMembers (members : List (String × Json)) : Json := object (Fields.ofList members)

def empty : Json := object []

def natural (n : UInt64) : Json := number (.natural n)

def get? (key : String) : Json → Option Json
  | object fields => Fields.get? key fields
  | _ => none

def text? : Json → Option String
  | string s => some s
  | _ => none

def flag? : Json → Option Bool
  | bool b => some b
  | _ => none

def items? : Json → Option (List Json)
  | array items => some items
  | _ => none

def fields? : Json → Option Fields
  | object fields => some fields
  | _ => none

def natural? : Json → Option UInt64
  | number (.natural n) => some n
  | _ => none

def natural16? (value : Json) : Option UInt16 := do
  let n ← value.natural?
  if n.toNat < UInt16.size then some n.toUInt16 else none

def natural32? (value : Json) : Option UInt32 := do
  let n ← value.natural?
  if n.toNat < UInt32.size then some n.toUInt32 else none

def double? : Json → Option Double
  | number (.natural n) => Double.ofNat? n.toNat
  | number (.negative below) => (Double.ofNat? (below.val + 1)).map Double.negate
  | number (.double d) => some d
  | _ => none

def isNull : Json → Bool
  | null => true
  | _ => false

def textAt? (key : String) (value : Json) : Option String := (value.get? key).bind text?

mutual

def same : Json → Json → Bool
  | null, null => true
  | bool a, bool b => a == b
  | number a, number b => a == b
  | string a, string b => a == b
  | array a, array b => sameItems a b
  | object a, object b => sameFields a b
  | _, _ => false

def sameItems : List Json → List Json → Bool
  | [], [] => true
  | a :: as, b :: bs => same a b && sameItems as bs
  | _, _ => false

def sameFields : List (String × Json) → List (String × Json) → Bool
  | [], [] => true
  | (k, a) :: as, (l, b) :: bs => k == l && same a b && sameFields as bs
  | _, _ => false

end

mutual

theorem same_iff : ∀ a b : Json, same a b = true ↔ a = b
  | null, b => by cases b <;> simp [same]
  | bool _, b => by cases b <;> simp [same]
  | number _, b => by cases b <;> simp [same]
  | string _, b => by cases b <;> simp [same]
  | array as, b => by
    cases b with
    | array bs => simp [same, sameItems_iff as bs]
    | _ => simp [same]
  | object as, b => by
    cases b with
    | object bs => simp [same, sameFields_iff as bs]
    | _ => simp [same]

theorem sameItems_iff : ∀ as bs : List Json, sameItems as bs = true ↔ as = bs
  | [], bs => by cases bs <;> simp [sameItems]
  | a :: as, bs => by
    cases bs with
    | nil => simp [sameItems]
    | cons b bs => simp [sameItems, same_iff a b, sameItems_iff as bs]

theorem sameFields_iff : ∀ as bs : List (String × Json), sameFields as bs = true ↔ as = bs
  | [], bs => by cases bs <;> simp [sameFields]
  | (k, a) :: as, bs => by
    cases bs with
    | nil => simp [sameFields]
    | cons b bs =>
      obtain ⟨l, b⟩ := b
      simp [sameFields, same_iff a b, sameFields_iff as bs, and_assoc]

end

instance : DecidableEq Json := fun a b => decidable_of_iff _ (same_iff a b)

instance : Inhabited Json := ⟨null⟩

end Json

end ModelServing
