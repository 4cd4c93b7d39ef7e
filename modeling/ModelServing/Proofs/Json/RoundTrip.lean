import ModelServing.Json.Reader
import ModelServing.Proofs.Json.Build
import ModelServing.Proofs.Json.Scan

/-! What is printed without doubles is read back, if no more containers nest in it than the reader admits:
the scanner finds the tokens of a tree, the tokens build the tree again, and its value is what was
printed. -/
namespace ModelServing

def Text.OneLine (cs : List Char) : Prop := ∀ c ∈ cs, c ≠ '\r' ∧ c ≠ '\n'

instance (cs : List Char) : Decidable (Text.OneLine cs) :=
  List.decidableBAll (fun c => c ≠ '\r' ∧ c ≠ '\n') cs

theorem Text.OneLine.append {a b : List Char} (first : OneLine a) (later : OneLine b) :
    OneLine (a ++ b) :=
  List.forall_mem_append.mpr ⟨first, later⟩

theorem Text.OneLine.cons {c : Char} {cs : List Char} (inside : c ≠ '\r' ∧ c ≠ '\n')
    (rest : OneLine cs) : OneLine (c :: cs) :=
  List.forall_mem_cons.mpr ⟨inside, rest⟩

namespace Json

inductive Plain : Nat → Json → Prop where
  | null (depth : Nat) : Plain depth .null
  | bool (depth : Nat) (b : Bool) : Plain depth (.bool b)
  | natural (depth : Nat) (n : UInt64) : Plain depth (.number (.natural n))
  | negative (depth : Nat) (below : Fin 9223372036854775808) : Plain depth (.number (.negative below))
  | string (depth : Nat) (s : String) : Plain depth (.string s)
  | array {depth : Nat} {items : List Json} (each : ∀ v ∈ items, Plain depth v) :
      Plain (depth + 1) (.array items)
  | object {depth : Nat} {fields : Fields} (ordered : fields.Ordered)
      (each : ∀ m ∈ fields, Plain depth m.2) : Plain (depth + 1) (.object fields)

theorem unitDecoded {n : Nat} (plain : n < 0xD800) (rest : List Piece) :
    Piece.decode (.unit n :: rest) = (Piece.decode rest).map (Char.ofNat n :: ·) := by
  have high : ¬(0xD800 ≤ n ∧ n < 0xDC00) := by omega
  have low : ¬(0xDC00 ≤ n ∧ n < 0xE000) := by omega
  have surrogate : ¬(0xD800 ≤ n ∧ n < 0xE000) := by omega
  cases rest with
  | nil => simp [Piece.decode, surrogate]
  | cons p more =>
    cases p with
    | char d => simp [Piece.decode, surrogate]
    | unit m => rw [Piece.decode, if_neg high, if_neg low]

theorem pieceDecoded {c : Char} {pieces : List Piece} {cs : List Char}
    (rest : Piece.decode pieces = some cs) : Piece.decode (piece c :: pieces) = some (c :: cs) := by
  unfold piece
  split
  · rename_i control
    rw [unitDecoded (by omega), rest, Option.map_some, Char.ofNat_toNat]
  · rw [Piece.decode, rest, Option.map_some]

theorem stringDecoded (s : String) : Piece.string? (s.toList.map piece) = some s := by
  have decoded (cs : List Char) : Piece.decode (cs.map piece) = some cs := by
    induction cs with
    | nil => rfl
    | cons c rest ih => exact pieceDecoded ih
  rw [Piece.string?, decoded, Option.map_some, String.ofList_toList]

theorem naturalRead (n : UInt64) :
    Literal.number? ⟨false, Text.decimalChars n.toNat, none, none⟩ = some (.natural n) := by
  have small : n.toNat < UInt64.size := n.toNat_lt
  simp [Literal.number?, Text.decimalValue, small]

theorem negativeRead (below : Fin 9223372036854775808) :
    Literal.number? ⟨true, Text.decimalChars (below.val + 1), none, none⟩ =
      some (.negative below) := by
  have least : below.val + 1 ≤ 9223372036854775808 := below.isLt
  simp [Literal.number?, Text.decimalValue, least]

theorem orderedPairwise (fields : Fields) :
    fields.Ordered ↔ fields.Pairwise fun a b => a.1 < b.1 := by
  induction fields with
  | nil => simp [Fields.Ordered]
  | cons m rest ih => rw [Fields.Ordered, List.pairwise_cons, ih]

theorem insertLast {key : String} (value : Json) {fields : Fields}
    (below : ∀ m ∈ fields, m.1 < key) : fields.insert key value = fields ++ [(key, value)] := by
  induction fields with
  | nil => rfl
  | cons m rest ih =>
    have less := below m List.mem_cons_self
    have notLess : ¬key < m.1 := String.lt_asymm less
    have other : key ≠ m.1 := fun same => String.lt_irrefl key (same ▸ less)
    rw [Fields.insert, if_neg notLess, if_neg other,
      ih fun m member => below m (List.mem_cons_of_mem _ member)]
    rfl

theorem insertAllOrdered {done fields : Fields} (ordered : (done ++ fields).Ordered) :
    done.insertAll fields = done ++ fields := by
  induction fields generalizing done with
  | nil => exact (List.append_nil done).symm
  | cons m rest ih =>
    obtain ⟨key, value⟩ := m
    have below : ∀ m ∈ done, m.1 < key := fun m member =>
      (List.pairwise_append.mp ((orderedPairwise _).mp ordered)).2.2 m member (key, value)
        List.mem_cons_self
    have split : done ++ (key, value) :: rest = done ++ [(key, value)] ++ rest :=
      List.append_cons done (key, value) rest
    rw [Fields.insertAll, insertLast value below, split]
    exact ih (split ▸ ordered)

theorem apartCons {c : Char} (number : isNumberChar c = false) (word : isWordChar c = false)
    (rest : List Char) : Apart (c :: rest) := by
  intro d member
  cases member
  exact ⟨number, word⟩

theorem nothingSpelled : Spelled [] [] := fun _ _ => Option.map_id'.symm

def ReadAs (depth : Nat) (v : Json) : Prop :=
  ∃ t : Tree, Spelled v.chars t.tokens ∧ t.value? depth = some v

theorem itemsSpelled {depth : Nat} : ∀ {items : List Json}, (∀ v ∈ items, ReadAs depth v) →
    ∃ ts, Spelled (itemChars items) (itemTokens ts) ∧ Tree.values? depth ts = some items
  | [], _ => ⟨[], nothingSpelled, rfl⟩
  | [v], each => by
    obtain ⟨t, spelled, value⟩ := each v List.mem_cons_self
    exact ⟨[t], spelled, by simp [Tree.values?, value]⟩
  | v :: w :: rest, each => by
    obtain ⟨t, spelled, value⟩ := each v List.mem_cons_self
    obtain ⟨ts, others, values⟩ := itemsSpelled fun v member => each v (List.mem_cons_of_mem _ member)
    cases ts with
    | nil => cases values
    | cons u more =>
      refine ⟨t :: u :: more, ?_, by rw [Tree.values?, value, values]; rfl⟩
      exact spelled.append (spelledSign rfl others) fun _ _ => apartCons rfl rfl _

theorem membersSpelled {depth : Nat} : ∀ {fields : List (String × Json)},
    (∀ m ∈ fields, ReadAs depth m.2) →
    ∃ ms, Spelled (fieldChars fields) (memberTokens ms) ∧ Tree.members? depth ms = some fields
  | [], _ => ⟨[], nothingSpelled, rfl⟩
  | [(key, v)], each => by
    obtain ⟨t, spelled, value⟩ := each (key, v) List.mem_cons_self
    refine ⟨[(key.toList.map piece, t)], ?_, ?_⟩
    · exact (quotedSpelled key).append (spelledSign rfl spelled) fun _ _ => apartCons rfl rfl _
    · rw [Tree.members?, stringDecoded, value]
      rfl
  | (key, v) :: m :: rest, each => by
    obtain ⟨t, spelled, value⟩ := each (key, v) List.mem_cons_self
    obtain ⟨ms, others, values⟩ :=
      membersSpelled fun m member => each m (List.mem_cons_of_mem _ member)
    cases ms with
    | nil => cases values
    | cons n more =>
      refine ⟨(key.toList.map piece, t) :: n :: more, ?_, ?_⟩
      · have behind : Spelled (v.chars ++ ',' :: fieldChars (m :: rest))
            (t.tokens ++ .comma :: memberTokens (n :: more)) :=
          spelled.append (spelledSign rfl others) fun _ _ => apartCons rfl rfl _
        exact (quotedSpelled key).append (spelledSign rfl behind) fun _ _ => apartCons rfl rfl _
      · rw [Tree.members?, stringDecoded, value, values]
        rfl

theorem plainSpelled {depth : Nat} {v : Json} (plain : Plain depth v) : ReadAs depth v := by
  induction plain with
  | null depth => exact ⟨.null, wordSpelled rfl rfl rfl, rfl⟩
  | bool depth b =>
    refine ⟨.bool b, ?_, rfl⟩
    cases b with
    | false | true => exact wordSpelled rfl rfl rfl
  | natural depth n => exact ⟨.number _, decimalSpelled n.toNat, by rw [Tree.value?, naturalRead]; rfl⟩
  | negative depth below =>
    exact ⟨.number _, negativeSpelled (below.val + 1), by rw [Tree.value?, negativeRead]; rfl⟩
  | string depth s => exact ⟨.text _, quotedSpelled s, by rw [Tree.value?, stringDecoded]; rfl⟩
  | array each ih =>
    obtain ⟨ts, spelled, values⟩ := itemsSpelled ih
    refine ⟨.array ts, spelledSign rfl ?_, by rw [Tree.value?, values]; rfl⟩
    exact spelled.append (spelledSign rfl nothingSpelled) fun _ _ => apartCons rfl rfl _
  | object ordered each ih =>
    obtain ⟨ms, spelled, values⟩ := membersSpelled ih
    refine ⟨.object ms, spelledSign rfl ?_, ?_⟩
    · exact spelled.append (spelledSign rfl nothingSpelled) fun _ _ => apartCons rfl rfl _
    · have sorted : Fields.insertAll [] _ = _ := insertAllOrdered ordered
      rw [Tree.value?, values, Option.map_some, ofMembers, Fields.ofList, sorted]
      rfl

theorem printParses {v : Json} (plain : Plain maxDepth v) : parse? v.print = some v := by
  obtain ⟨t, spelled, value⟩ := plainSpelled plain
  have scanned : scan .between v.chars = some t.tokens := by
    have read := spelled [] fun _ member => nomatch member
    rwa [List.append_nil, scan, Mode.finish, Option.map_some, List.append_nil] at read
  have tree : Tree.ofChars? v.chars = some t := by
    rw [Tree.ofChars?, scanned]
    exact treeBuilt t
  rw [parse?, print, String.toList_ofList, ofChars?, tree]
  exact value

theorem printSome {v : Json} (plain : Plain maxDepth v) : v.print ≠ "" := by
  intro nothing
  have parsed := printParses plain
  rw [nothing] at parsed
  cases parsed

theorem printLead {depth : Nat} {v : Json} (plain : Plain depth v) : v.chars.head? ≠ some ' ' := by
  cases plain with
  | bool _ b => cases b <;> decide
  | natural _ n =>
    change (Text.decimalChars n.toNat).head? ≠ some ' '
    intro lead
    exact absurd (Text.decimalDigits n.toNat ' ' (List.mem_of_head? lead)) (by decide)
  | null | negative _ below | string _ s | array each | object ordered each =>
    simp [chars, Number.chars, quoted]

theorem decimalOneLine (n : Nat) : Text.OneLine (Text.decimalChars n) := by
  intro d member
  have digit := Text.decimalDigits n d member
  constructor
  all_goals rintro rfl; exact absurd digit (by decide)

theorem escapeOneLine (c : Char) : Text.OneLine (escape c) := by
  have digit {n : Nat} (small : n < 16) : Text.Hex.digit n ≠ '\r' ∧ Text.Hex.digit n ≠ '\n' := by
    have read := Text.Hex.value_digit n small
    constructor
    all_goals intro same; rw [same] at read; cases read
  unfold escape
  iterate 7
    split
    · decide
  split
  · rename_i control
    have high := digit (show c.toNat / 16 < 16 by omega)
    have low := digit (show c.toNat % 16 < 16 by omega)
    simp [Text.OneLine, high, low]
  · rename_i noFeed _ noReturn _
    exact fun d member => List.mem_singleton.mp member ▸ ⟨noReturn, noFeed⟩

theorem quotedOneLine (s : String) : Text.OneLine (quoted s) := by
  have escaped : Text.OneLine (s.toList.flatMap escape) := by
    intro d member
    obtain ⟨c, _, written⟩ := List.mem_flatMap.mp member
    exact escapeOneLine c d written
  exact (escaped.append (by decide)).cons (by decide)

theorem itemsOneLine : ∀ {items : List Json}, (∀ v ∈ items, Text.OneLine v.chars) →
    Text.OneLine (itemChars items)
  | [], _ => nofun
  | [v], each => each v List.mem_cons_self
  | v :: w :: rest, each => by
    have first := each v List.mem_cons_self
    have others := itemsOneLine fun v member => each v (List.mem_cons_of_mem _ member)
    exact first.append (others.cons (by decide))

theorem membersOneLine : ∀ {fields : List (String × Json)},
    (∀ m ∈ fields, Text.OneLine m.2.chars) → Text.OneLine (fieldChars fields)
  | [], _ => nofun
  | [(key, v)], each =>
    (quotedOneLine key).append ((each (key, v) List.mem_cons_self).cons (by decide))
  | (key, v) :: m :: rest, each => by
    have first := each (key, v) List.mem_cons_self
    have others := membersOneLine fun m member => each m (List.mem_cons_of_mem _ member)
    exact (quotedOneLine key).append ((first.append (others.cons (by decide))).cons (by decide))

theorem printOneLine {depth : Nat} {v : Json} (plain : Plain depth v) : Text.OneLine v.chars := by
  induction plain with
  | null => decide
  | bool _ b => cases b <;> decide
  | natural _ n => exact decimalOneLine n.toNat
  | negative _ below => exact (decimalOneLine (below.val + 1)).cons (by decide)
  | string _ s => exact quotedOneLine s
  | array each ih => exact ((itemsOneLine ih).append (by decide)).cons (by decide)
  | object ordered each ih => exact ((membersOneLine ih).append (by decide)).cons (by decide)

end Json

end ModelServing
