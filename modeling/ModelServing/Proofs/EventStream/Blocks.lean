import ModelServing.Proofs.EventStream.Chunks
import ModelServing.Proofs.Json.RoundTrip

/-! What is written as an event stream is read back: one reply for each result block, whatever its line
ends, and whatever comments and blocks without data stand between. An error block ends the stream. -/
namespace ModelServing.EventStream

inductive LineEnd where
  | feed
  | returnFeed
  deriving DecidableEq, Repr

def LineEnd.chars : LineEnd → List Char
  | .feed => ['\n']
  | .returnFeed => ['\r', '\n']

def spell (ends : Nat → LineEnd) : List (List Char) → List Char
  | [] => []
  | line :: rest => line ++ (ends 0).chars ++ spell (fun i => ends (i + 1)) rest

theorem splitBehind {line rest left : List Char} {lines : List (List Char)}
    (single : Text.OneLine line) (split : splitLines rest = ([] :: lines, left)) :
    splitLines (line ++ rest) = (line :: lines, left) := by
  induction line with
  | nil => exact split
  | cons c line ih =>
    obtain ⟨⟨noReturn, noFeed⟩, more⟩ := List.forall_mem_cons.mp single
    rw [List.cons_append, splitOther noReturn noFeed, ih more]
    rfl

theorem splitEnded {line : List Char} (single : Text.OneLine line) (stop : LineEnd) (rest : List Char) :
    splitLines (line ++ stop.chars ++ rest) = (line :: (splitLines rest).1, (splitLines rest).2) := by
  rw [List.append_assoc]
  cases stop with
  | feed => exact splitBehind single (splitLineFeed rest)
  | returnFeed => exact splitBehind single (splitReturnFeed rest)

theorem splitSpelled {lines : List (List Char)} (single : ∀ line ∈ lines, Text.OneLine line)
    (ends : Nat → LineEnd) (rest : List Char) :
    splitLines (spell ends lines ++ rest) = (lines ++ (splitLines rest).1, (splitLines rest).2) := by
  induction lines generalizing ends with
  | nil => rfl
  | cons line lines ih =>
    obtain ⟨first, others⟩ := List.forall_mem_cons.mp single
    rw [spell, List.append_assoc, splitEnded first, ih others]
    rfl

def mark (marked : Bool) : List Char := if marked then ['\uFEFF'] else []

def Unmarked (lines : List (List Char)) : Prop := ∀ line ∈ lines.head?, line.head? ≠ some '\uFEFF'

theorem markStays {line : List Char} (unmarked : line.head? ≠ some '\uFEFF') (stop : LineEnd)
    (rest : List Char) :
    Decoder.dropMark true (line ++ stop.chars ++ rest) = line ++ stop.chars ++ rest := by
  have stays {c : Char} (other : c ≠ '\uFEFF') (cs : List Char) :
      Decoder.dropMark true (c :: cs) = c :: cs := by
    have code : c.toNat ≠ 0xFEFF := fun same => other (Char.toNat_inj.mp same)
    simp [Decoder.dropMark, code]
  cases line with
  | nil =>
    cases stop with
    | feed | returnFeed => exact stays (by decide) _
  | cons c line => exact stays (fun same => unmarked (congrArg some same)) _

theorem markDropped {marked : Bool} {lines : List (List Char)}
    (unmarked : marked = false → Unmarked lines) (ends : Nat → LineEnd) (more : List Char) :
    ∃ rest, (more = [] → rest = []) ∧
      Decoder.dropMark true (mark marked ++ spell ends lines ++ more) = spell ends lines ++ rest := by
  cases marked with
  | true => exact ⟨more, id, rfl⟩
  | false =>
    cases lines with
    -- Then a mark may still come with what follows.
    | nil => exact ⟨Decoder.dropMark true more, by rintro rfl; rfl, rfl⟩
    | cons line lines =>
      have kept := markStays (unmarked rfl line rfl) (ends 0)
        (spell (fun i => ends (i + 1)) lines ++ more)
      rw [← List.append_assoc] at kept
      exact ⟨more, id, kept⟩

theorem eventsSpelled {marked : Bool} {lines : List (List Char)}
    (single : ∀ line ∈ lines, Text.OneLine line) (unmarked : marked = false → Unmarked lines)
    (ends : Nat → LineEnd) (after : Bytes) :
    ∃ later, (after = [] → later = []) ∧
      eventsAtOnce (Text.Utf8.encode (mark marked ++ spell ends lines) ++ after) =
        (Block.empty.lines lines).2.map .ok ++ later := by
  have decoded := Text.Utf8.decodeEncoded (mark marked ++ spell ends lines) after
  obtain ⟨rest, nothing, dropped⟩ := markDropped unmarked ends (Text.Utf8.decode after).1
  have split := splitSpelled single ends rest
  refine ⟨((Block.empty.lines lines).1.lines (splitLines rest).1).2.map .ok ++
    if (Text.Utf8.decode after).2 = [] then [] else [.error (.eventStream "invalid UTF-8")], ?_, ?_⟩
  · rintro rfl
    have ended : Text.Utf8.decode [] = ([], []) := Text.Utf8.decodeStops rfl
    rw [ended] at nothing ⊢
    rw [nothing rfl]
    rfl
  · rw [eventsAtOnce, decoded, dropped, split, Block.linesAppend, List.map_append, List.append_assoc]

def fieldLine (name : String) (value : List Char) : List Char := name.toList ++ ':' :: value

def headLines (id : Option String) (name : String) (status : Nat) : List (List Char) :=
  (id.map fun text => fieldLine "id" text.toList).toList ++
    [fieldLine "event" name.toList, ":HTTP_STATUS/".toList ++ Text.decimalChars status]

structure ResultBlock where
  id : Option String
  name : String
  status : Nat
  value : Json
  idSingle : ∀ text ∈ id, Text.OneLine text.toList
  nameSingle : Text.OneLine name.toList
  unspaced : name.toList.head? ≠ some ' '
  named : name ≠ ""
  noError : name ≠ "error"
  plain : Json.Plain Json.maxDepth value

def ResultBlock.lines (b : ResultBlock) : List (List Char) :=
  headLines b.id b.name b.status ++ [fieldLine "data" b.value.chars, []]

def ResultBlock.reply (b : ResultBlock) : Reply :=
  { Reply.ofEnvelope b.value none with event := some b.name }

structure ErrorBlock where
  id : Option String
  status : Nat
  data : List (List Char)
  idSingle : ∀ text ∈ id, Text.OneLine text.toList
  dataSingle : ∀ text ∈ data, Text.OneLine text
  told : Block.joinData (data.map fun text => Block.fieldValue (':' :: text)) ≠ []

def ErrorBlock.lines (e : ErrorBlock) : List (List Char) :=
  headLines e.id "error" e.status ++ (e.data.map (fieldLine "data") ++ [[]])

def ErrorBlock.content (e : ErrorBlock) : String :=
  String.ofList (Block.joinData (e.data.map fun text => Block.fieldValue (':' :: text)))

def data? (line : List Char) : Option (List Char) :=
  if line.takeWhile (· ≠ ':') = "data".toList then some (Block.fieldValue (line.dropWhile (· ≠ ':')))
  else none

inductive Part where
  | result (b : ResultBlock)
  | comment (text : List Char) (single : Text.OneLine text)
  | silent (fields : List (List Char)) (single : ∀ line ∈ fields, Text.OneLine line)
      (filled : ∀ line ∈ fields, line ≠ []) (untold : Block.joinData (fields.filterMap data?) = [])

def Part.lines : Part → List (List Char)
  | .result b => b.lines
  | .comment text _ => [':' :: text]
  | .silent fields _ _ _ => fields ++ [[]]

def Part.result? : Part → Option ResultBlock
  | .result b => some b
  | _ => none

theorem headSingle {id : Option String} {name : String} (status : Nat)
    (idSingle : ∀ text ∈ id, Text.OneLine text.toList) (nameSingle : Text.OneLine name.toList) :
    ∀ line ∈ headLines id name status, Text.OneLine line := by
  have event : Text.OneLine (fieldLine "event" name.toList) :=
    Text.OneLine.append (by decide) (nameSingle.cons (by decide))
  have comment : Text.OneLine (":HTTP_STATUS/".toList ++ Text.decimalChars status) :=
    Text.OneLine.append (by decide) (Json.decimalOneLine status)
  refine List.forall_mem_append.mpr
    ⟨?_, List.forall_mem_cons.mpr ⟨event, List.forall_mem_singleton.mpr comment⟩⟩
  cases id with
  | none => exact nofun
  | some text =>
    have identifier : Text.OneLine (fieldLine "id" text.toList) :=
      Text.OneLine.append (by decide) ((idSingle text rfl).cons (by decide))
    exact List.forall_mem_singleton.mpr identifier

theorem dataLineSingle {value : List Char} (single : Text.OneLine value) :
    Text.OneLine (fieldLine "data" value) :=
  Text.OneLine.append (by decide) (single.cons (by decide))

theorem Part.single (p : Part) : ∀ line ∈ p.lines, Text.OneLine line := by
  cases p with
  | result b =>
    have data := dataLineSingle (Json.printOneLine b.plain)
    exact List.forall_mem_append.mpr ⟨headSingle b.status b.idSingle b.nameSingle,
      List.forall_mem_cons.mpr ⟨data, by decide⟩⟩
  | comment text single => exact List.forall_mem_singleton.mpr (single.cons (by decide))
  | silent fields single filled untold =>
    exact List.forall_mem_append.mpr ⟨single, by decide⟩

theorem ErrorBlock.single (e : ErrorBlock) : ∀ line ∈ e.lines, Text.OneLine line := by
  have data : ∀ line ∈ e.data.map (fieldLine "data"), Text.OneLine line :=
    List.forall_mem_map.mpr fun text member => dataLineSingle (e.dataSingle text member)
  exact List.forall_mem_append.mpr ⟨headSingle e.status e.idSingle (by decide),
    List.forall_mem_append.mpr ⟨data, by decide⟩⟩

def Block.begun (id : List Char) : Block := { empty with id }

theorem blankRead (b : Block) : b.lines [[]] = (Block.begun b.id, b.event?.toList) := by
  rw [Block.linesCons]
  exact Prod.ext rfl (List.append_nil _)

theorem idRead (text : String) (before : List Char) :
    ∃ after, (Block.begun before).line (fieldLine "id" text.toList) = (Block.begun after, []) := by
  let value := Block.fieldValue (':' :: text.toList)
  have step : (Block.begun before).line (fieldLine "id" text.toList) =
      (if "id".toList = "id".toList ∧ ¬value.contains '\x00' then Block.begun value
        else Block.begun before, []) := rfl
  rw [step]
  split
  · exact ⟨value, rfl⟩
  · exact ⟨before, rfl⟩

theorem headRead (id : Option String) (name : String) (status : Nat) (before : List Char)
    (rest : List (List Char)) :
    ∃ after, (Block.begun before).lines (headLines id name status ++ rest) =
      Block.lines ⟨after, Block.fieldValue (':' :: name.toList), []⟩ rest := by
  cases id with
  | none => exact ⟨before, rfl⟩
  | some text =>
    obtain ⟨after, read⟩ := idRead text before
    refine ⟨after, ?_⟩
    change (Block.begun before).lines (fieldLine "id" text.toList :: _) = _
    rw [Block.linesCons, read]
    rfl

theorem valueUnspaced {value : List Char} (unspaced : value.head? ≠ some ' ') :
    Block.fieldValue (':' :: value) = value := by
  cases value with
  | nil => rfl
  | cons c rest =>
    rw [Block.fieldValue]
    rintro _ ⟨⟩
    exact unspaced rfl

theorem ResultBlock.read (b : ResultBlock) (before : List Char) :
    ∃ after, (Block.begun before).lines b.lines =
      (Block.begun after, [⟨Block.nonEmpty after, some b.name, b.value.print⟩]) := by
  obtain ⟨after, head⟩ := headRead b.id b.name b.status before [fieldLine "data" b.value.chars, []]
  refine ⟨after, head.trans ?_⟩
  have name := valueUnspaced b.unspaced
  have data := valueUnspaced (Json.printLead b.plain)
  have some_ : b.name.toList ≠ [] := fun none => b.named (String.toList_eq_nil_iff.mp none)
  have event : (⟨after, b.name.toList, [b.value.chars]⟩ : Block).event? =
      some ⟨Block.nonEmpty after, some b.name, b.value.print⟩ := by
    simp [Block.event?, Block.nonEmpty, some_, Block.joinData, Json.print]
  have line (block : Block) : block.line (fieldLine "data" b.value.chars) =
      ({ block with data := block.data ++ [Block.fieldValue (':' :: b.value.chars)] }, []) := rfl
  rw [name, Block.linesCons, line, blankRead, data, List.nil_append, event]
  rfl

theorem ResultBlock.told (b : ResultBlock) (id : Option String) :
    (⟨id, some b.name, b.value.print⟩ : Event).toReply = .ok b.reply := by
  have other : (some b.name == some "error") = false := by simp [b.noError]
  rw [Event.toReply, Event.isError, other, Json.printParses b.plain]
  rfl

theorem dataRead (texts : List (List Char)) (b : Block) (rest : List (List Char)) :
    b.lines (texts.map (fieldLine "data") ++ rest) =
      Block.lines { b with data := b.data ++ texts.map fun text => Block.fieldValue (':' :: text) }
        rest := by
  induction texts generalizing b with
  | nil => rw [List.map_nil, List.map_nil, List.append_nil]; rfl
  | cons text texts ih =>
    have step : b.line (fieldLine "data" text) =
      ({ b with data := b.data ++ [Block.fieldValue (':' :: text)] }, []) := rfl
    rw [List.map_cons, List.cons_append, Block.linesCons, step, ih, List.append_assoc]
    rfl

theorem ErrorBlock.read (e : ErrorBlock) (before : List Char) :
    ∃ after, (Block.begun before).lines e.lines =
      (Block.begun after, [⟨Block.nonEmpty after, some "error", e.content⟩]) := by
  obtain ⟨after, head⟩ := headRead e.id "error" e.status before
    (e.data.map (fieldLine "data") ++ [[]])
  refine ⟨after, head.trans ?_⟩
  have some_ : e.data ≠ [] := by
    intro none
    have told := e.told
    rw [none] at told
    exact told rfl
  have event : (⟨after, Block.fieldValue (':' :: "error".toList),
      e.data.map fun text => Block.fieldValue (':' :: text)⟩ : Block).event? =
      some ⟨Block.nonEmpty after, some "error", e.content⟩ := by
    rw [Block.event?, List.isEmpty_map, if_neg (by simpa using some_)]
    rfl
  rw [dataRead, blankRead, List.nil_append, event]
  rfl

theorem ErrorBlock.fails (e : ErrorBlock) (id : Option String) (more : List (Except Error Event)) :
    replies (.ok ⟨id, some "error", e.content⟩ :: more) =
      [.error (.api (.ofTextOrMessage e.content))] := by
  have told : e.content ≠ "" := fun none => e.told (String.ofList_eq_empty_iff.mp none)
  rw [replies, if_neg (by simpa using told)]
  rfl

theorem lineRead {line : List Char} (filled : line ≠ []) (b : Block) :
    (b.line line).1.data = b.data ++ (data? line).toList ∧ (b.line line).2 = [] := by
  unfold Block.line
  split
  · contradiction
  · exact ⟨(List.append_nil _).symm, rfl⟩
  · refine ⟨?_, rfl⟩
    unfold Block.setField data?
    split
    · rename_i event
      rw [event, if_neg (by decide)]
      exact (List.append_nil _).symm
    · split
      · rfl
      · split
        all_goals exact (List.append_nil _).symm

theorem fieldsRead {fields : List (List Char)} (filled : ∀ line ∈ fields, line ≠ []) (b : Block) :
    (b.lines fields).1.data = b.data ++ fields.filterMap data? ∧ (b.lines fields).2 = [] := by
  induction fields generalizing b with
  | nil => exact ⟨(List.append_nil b.data).symm, rfl⟩
  | cons line fields ih =>
    obtain ⟨first, others⟩ := List.forall_mem_cons.mp filled
    obtain ⟨data, silent⟩ := lineRead first b
    obtain ⟨moreData, moreSilent⟩ := ih others (b.line line).1
    rw [Block.linesCons]
    refine ⟨?_, by rw [silent, moreSilent]; rfl⟩
    rw [moreData, data, List.append_assoc, List.filterMap_cons]
    cases data? line <;> rfl

theorem Part.read (p : Part) (before : List Char) :
    ∃ after es, (Block.begun before).lines p.lines = (Block.begun after, es) ∧
      ∀ more, replies (es.map .ok ++ more) =
        p.result?.toList.map (fun b => .ok b.reply) ++ replies more := by
  cases p with
  | result b =>
    obtain ⟨after, read⟩ := b.read before
    refine ⟨after, _, read, fun more => ?_⟩
    have told : b.value.print.isEmpty = false := by simpa using Json.printSome b.plain
    change replies (.ok _ :: more) = .ok b.reply :: replies more
    rw [replies, told, b.told]
    rfl
  | comment text single => exact ⟨before, [], rfl, fun more => rfl⟩
  | silent fields single filled untold =>
    obtain ⟨data, silent⟩ := fieldsRead filled (Block.begun before)
    generalize state : ((Block.begun before).lines fields).1 = b at data
    have read : (Block.begun before).lines (fields ++ [[]]) =
        (Block.begun b.id, b.event?.toList) := by
      rw [Block.linesAppend, silent, state, blankRead]
      rfl
    refine ⟨b.id, _, read, fun more => ?_⟩
    cases told : b.event? with
    | none => rfl
    | some e =>
      have blank : e.data.isEmpty = true := by
        rw [Block.event?] at told
        split at told
        · cases told
        · cases told
          rw [data]
          exact congrArg (fun text => (String.ofList text).isEmpty) untold
      change replies (.ok e :: more) = replies more
      rw [replies, if_pos blank]

theorem partsRead (parts : List Part) (before : List Char) :
    ∃ after es, (Block.begun before).lines (parts.flatMap Part.lines) = (Block.begun after, es) ∧
      ∀ more, replies (es.map .ok ++ more) =
        (parts.filterMap Part.result?).map (fun b => .ok b.reply) ++ replies more := by
  induction parts generalizing before with
  | nil => exact ⟨before, [], rfl, fun _ => rfl⟩
  | cons p parts ih =>
    obtain ⟨between, es, first, replied⟩ := p.read before
    obtain ⟨after, others, rest, repliedMore⟩ := ih between
    refine ⟨after, es ++ others, ?_, fun more => ?_⟩
    · rw [List.flatMap_cons, Block.linesAppend, first, rest]
    · rw [List.map_append, List.append_assoc, replied, repliedMore, ← List.append_assoc]
      cases p <;> rfl

theorem ErrorBlock.unmarked (e : ErrorBlock) : Unmarked e.lines := by
  have other {c : Char} (plain : c ≠ '\uFEFF') (rest : List Char) :
      (c :: rest).head? ≠ some '\uFEFF' := fun same => plain (Option.some.inj same)
  intro line first
  unfold lines headLines at first
  cases id : e.id with
  | none =>
    rw [id] at first
    cases first
    exact other (by decide) _
  | some text =>
    rw [id] at first
    cases first
    exact other (by decide) _

theorem Unmarked.append {first later : List (List Char)} (unmarked : Unmarked first)
    (behind : Unmarked later) : Unmarked (first ++ later) := by
  cases first with
  | nil => exact behind
  | cons line rest => exact unmarked

theorem blocksReadBack (parts : List Part) (marked : Bool) (ends : Nat → LineEnd)
    (unmarked : marked = false → Unmarked (parts.flatMap Part.lines)) :
    (∀ chunks : List Bytes,
      chunks.flatten =
        Text.Utf8.encode (mark marked ++ spell ends (parts.flatMap Part.lines)) →
      decode chunks = (parts.filterMap Part.result?).map fun b => .ok b.reply) ∧
    ∀ (e : ErrorBlock) (after : Bytes) (chunks : List Bytes),
      chunks.flatten =
        Text.Utf8.encode (mark marked ++ spell ends (parts.flatMap Part.lines ++ e.lines)) ++ after →
      decode chunks = (parts.filterMap Part.result?).map (fun b => .ok b.reply) ++
        [.error (.api (.ofTextOrMessage e.content))] := by
  have single : ∀ line ∈ parts.flatMap Part.lines, Text.OneLine line := by
    intro line member
    obtain ⟨p, _, written⟩ := List.mem_flatMap.mp member
    exact p.single line written
  obtain ⟨before, es, read, replied⟩ := partsRead parts []
  change Block.empty.lines _ = _ at read
  refine ⟨fun chunks same => ?_, fun e after chunks same => ?_⟩
  · obtain ⟨later, nothing, events⟩ := eventsSpelled single unmarked ends []
    rw [List.append_nil, nothing rfl] at events
    rw [decode, eventsJoined, same, events, read, replied]
    exact List.append_nil _
  · have all : ∀ line ∈ parts.flatMap Part.lines ++ e.lines, Text.OneLine line :=
      List.forall_mem_append.mpr ⟨single, e.single⟩
    have start (plain : marked = false) : Unmarked (parts.flatMap Part.lines ++ e.lines) :=
      (unmarked plain).append e.unmarked
    obtain ⟨later, _, events⟩ := eventsSpelled all start ends after
    obtain ⟨_, error⟩ := e.read before
    rw [decode, eventsJoined, same, events, Block.linesAppend, read, error, List.map_append,
      List.append_assoc, replied]
    exact congrArg _ (e.fails _ later)

def deceptive : Json := .object [("output", .object [("text", .string "é\ndata:\r\n\n:")])]

theorem deceptivePlain : Json.Plain Json.maxDepth deceptive := by
  refine .object ⟨nofun, trivial⟩ (List.forall_mem_singleton.mpr ?_)
  exact .object ⟨nofun, trivial⟩ (List.forall_mem_singleton.mpr (.string 125 _))

def deceptiveBlock : ResultBlock where
  id := some "1"
  name := "result"
  status := 200
  value := deceptive
  idSingle := by decide
  nameSingle := by decide
  unspaced := by decide
  named := by decide
  noError := by decide
  plain := deceptivePlain

def refusal : ErrorBlock where
  id := none
  status := 400
  data := ["bad".toList]
  idSingle := nofun
  dataSingle := by decide
  told := by decide

def parley : List Part :=
  [.comment "keep-alive".toList (by decide), .result deceptiveBlock,
    .silent ["retry:3".toList] (by decide) (by decide) rfl, .result deceptiveBlock]

def mixedEnds (i : Nat) : LineEnd := if i % 3 = 0 then .returnFeed else .feed

def parleyOctets : Bytes := Text.Utf8.encode (spell mixedEnds (parley.flatMap Part.lines))

def refusedOctets : Bytes :=
  Text.Utf8.encode (spell mixedEnds (parley.flatMap Part.lines ++ refusal.lines)) ++ [0xFF]

theorem parleyRead :
    Unmarked (parley.flatMap Part.lines) ∧
    decode [parleyOctets] = [.ok deceptiveBlock.reply, .ok deceptiveBlock.reply] ∧
    decode [refusedOctets] =
      [.ok deceptiveBlock.reply, .ok deceptiveBlock.reply, .error (.api (.ofTextOrMessage "bad"))] := by
  have unmarked : Unmarked (parley.flatMap Part.lines) := by
    rintro line ⟨⟩
    decide
  obtain ⟨ends, fails⟩ := blocksReadBack parley false mixedEnds fun _ => unmarked
  exact ⟨unmarked, ends [parleyOctets] (List.append_nil _),
    fails refusal [0xFF] [refusedOctets] (List.append_nil _)⟩

end ModelServing.EventStream
