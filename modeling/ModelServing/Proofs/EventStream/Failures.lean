import ModelServing.Proofs.EventStream.Blocks

/-! What becomes of complete blocks of any form, and of error blocks in particular: an error block with data
ends the stream with its error, whatever its data are. If all its data are one empty line, it is passed over
like a block without data. -/
namespace ModelServing.EventStream

/-- Complete lines at the front of a text, and what follows them. A carriage return ends a line by itself
only where it is known what follows. -/
inductive Lines : List Char → List (List Char) → List Char → Prop where
  | nothing (rest : List Char) : Lines rest [] rest
  | feed {line text rest : List Char} {lines : List (List Char)} (single : Text.OneLine line)
      (more : Lines text lines rest) : Lines (line ++ '\n' :: text) (line :: lines) rest
  | returnFeed {line text rest : List Char} {lines : List (List Char)} (single : Text.OneLine line)
      (more : Lines text lines rest) : Lines (line ++ '\r' :: '\n' :: text) (line :: lines) rest
  | returnAlone {line text rest : List Char} {lines : List (List Char)} {c : Char}
      (single : Text.OneLine line) (other : c ≠ '\n') (more : Lines (c :: text) lines rest) :
      Lines (line ++ '\r' :: c :: text) (line :: lines) rest

theorem Lines.split {text rest : List Char} {lines : List (List Char)} (read : Lines text lines rest)
    (later : List Char) :
    splitLines (text ++ later) =
      (lines ++ (splitLines (rest ++ later)).1, (splitLines (rest ++ later)).2) := by
  induction read with
  | nothing rest => rfl
  | @feed line text rest lines single more ih =>
    have ended := splitLineFeed (text ++ later)
    rw [ih] at ended
    rw [List.append_assoc]
    exact splitBehind single ended
  | @returnFeed line text rest lines single more ih =>
    have ended := splitReturnFeed (text ++ later)
    rw [ih] at ended
    rw [List.append_assoc]
    exact splitBehind single ended
  | @returnAlone line text rest lines c single other more ih =>
    have ended := splitReturn other (text ++ later)
    rw [← List.cons_append, ih] at ended
    rw [List.append_assoc]
    exact splitBehind single ended

def name? (line : List Char) : Option (List Char) :=
  if line.takeWhile (· ≠ ':') = "event".toList then some (Block.fieldValue (line.dropWhile (· ≠ ':')))
  else none

def nameOf (fields : List (List Char)) : String :=
  let name := (fields.filterMap name?).getLast?.getD []
  if name = [] then "message" else String.ofList name

def contentOf (fields : List (List Char)) : String :=
  String.ofList (Block.joinData (fields.filterMap data?))

theorem lineNamed {line : List Char} (filled : line ≠ []) (b : Block) :
    (b.line line).1.event = (name? line).getD b.event := by
  unfold Block.line
  split
  · contradiction
  · rfl
  · unfold Block.setField name?
    split
    · rfl
    · split
      · rfl
      · split <;> rfl

theorem fieldsNamed {fields : List (List Char)} (filled : ∀ line ∈ fields, line ≠ []) (b : Block) :
    (b.lines fields).1.event = (fields.filterMap name?).getLast?.getD b.event := by
  induction fields generalizing b with
  | nil => rfl
  | cons line fields ih =>
    obtain ⟨first, others⟩ := List.forall_mem_cons.mp filled
    have more := ih others (b.line line).1
    rw [lineNamed first] at more
    rw [Block.linesCons, more, List.filterMap_cons]
    cases name? line with
    | none => rfl
    | some name => rw [List.getLast?_cons]; rfl

theorem blockRead {fields : List (List Char)} (filled : ∀ line ∈ fields, line ≠ [])
    (before : List Char) :
    ∃ after, (Block.begun before).lines (fields ++ [[]]) =
      (Block.begun after, if fields.filterMap data? = [] then []
        else [⟨Block.nonEmpty after, some (nameOf fields), contentOf fields⟩]) := by
  obtain ⟨data, silent⟩ := fieldsRead filled (Block.begun before)
  have named := fieldsNamed filled (Block.begun before)
  generalize read : (Block.begun before).lines fields = step at data silent named
  obtain ⟨⟨after, event, lines⟩, es⟩ := step
  change lines = [] ++ _ at data
  change event = _ at named
  change es = [] at silent
  subst data named silent
  refine ⟨after, ?_⟩
  rw [Block.linesAppend, read, blankRead, List.nil_append, List.nil_append, Block.event?]
  dsimp only
  by_cases silent : fields.filterMap data? = []
  · rw [if_pos silent, if_pos (List.isEmpty_iff.mpr silent)]
    rfl
  · have name : Block.nonEmpty (if ((fields.filterMap name?).getLast?.getD []).isEmpty
        then "message".toList else (fields.filterMap name?).getLast?.getD []) =
        some (nameOf fields) := by
      unfold nameOf Block.nonEmpty
      cases (fields.filterMap name?).getLast?.getD [] with
      | nil => rfl
      | cons c name => rfl
    rw [if_neg silent, if_neg (mt List.isEmpty_iff.mp silent)]
    exact congrArg (fun name => (Block.begun after,
      [(⟨Block.nonEmpty after, name, contentOf fields⟩ : Event)])) name

structure Answer where
  fields : List (List Char)
  value : Json
  filled : ∀ line ∈ fields, line ≠ []
  noError : nameOf fields ≠ "error"
  told : Json.parse? (contentOf fields) = some value

def Answer.lines (a : Answer) : List (List Char) := a.fields ++ [[]]

def Answer.reply (a : Answer) : Reply :=
  { Reply.ofEnvelope a.value none with event := some (nameOf a.fields) }

structure Alarm where
  fields : List (List Char)
  filled : ∀ line ∈ fields, line ≠ []
  error : nameOf fields = "error"
  some_ : fields.filterMap data? ≠ []

def Alarm.lines (a : Alarm) : List (List Char) := a.fields ++ [[]]

def Alarm.content (a : Alarm) : String := contentOf a.fields

theorem Answer.read (a : Answer) (before : List Char) :
    ∃ after es, (Block.begun before).lines a.lines = (Block.begun after, es) ∧
      ∀ more, replies (es.map .ok ++ more) = .ok a.reply :: replies more := by
  obtain ⟨after, read⟩ := blockRead a.filled before
  have value := a.told
  have some_ : contentOf a.fields ≠ "" := by
    intro none
    rw [none] at value
    cases value
  have data : a.fields.filterMap data? ≠ [] := by
    intro none
    rw [contentOf, none] at some_
    exact some_ rfl
  rw [if_neg data] at read
  refine ⟨after, _, read, fun more => ?_⟩
  have other : (some (nameOf a.fields) == some "error") = false := by simp [a.noError]
  have reply (id : Option String) :
      Event.toReply ⟨id, some (nameOf a.fields), contentOf a.fields⟩ = .ok a.reply := by
    rw [Event.toReply, Event.isError, other, value]
    rfl
  change replies (.ok _ :: more) = _
  rw [replies, if_neg (by simpa using some_), reply]

theorem answersRead (answers : List Answer) (before : List Char) :
    ∃ after es, (Block.begun before).lines (answers.flatMap Answer.lines) = (Block.begun after, es) ∧
      ∀ more, replies (es.map .ok ++ more) = answers.map (fun a => .ok a.reply) ++ replies more := by
  induction answers generalizing before with
  | nil => exact ⟨before, [], rfl, fun _ => rfl⟩
  | cons a answers ih =>
    obtain ⟨between, es, first, told⟩ := a.read before
    obtain ⟨after, others, rest, toldMore⟩ := ih between
    refine ⟨after, es ++ others, ?_, fun more => ?_⟩
    · rw [List.flatMap_cons, Block.linesAppend, first, rest]
    · rw [List.map_append, List.append_assoc, told, toldMore]
      rfl

theorem Alarm.read (a : Alarm) (before : List Char) :
    ∃ after, (Block.begun before).lines a.lines =
      (Block.begun after, [⟨Block.nonEmpty after, some "error", a.content⟩]) := by
  obtain ⟨after, read⟩ := blockRead a.filled before
  rw [if_neg a.some_, a.error] at read
  exact ⟨after, read⟩

theorem toldAlike (id other name : Option String) (data : String)
    {more later : List (Except Error Event)} (next : replies more = replies later) :
    replies (.ok ⟨id, name, data⟩ :: more) = replies (.ok ⟨other, name, data⟩ :: later) := by
  have same : Event.toReply ⟨id, name, data⟩ = Event.toReply ⟨other, name, data⟩ := rfl
  rw [replies, replies, same, next]

theorem identifiersUntold (lines : List (List Char)) {a b : Block} (event : a.event = b.event)
    (data : a.data = b.data) (more : List (Except Error Event)) :
    replies ((a.lines lines).2.map .ok ++ more) = replies ((b.lines lines).2.map .ok ++ more) := by
  induction lines generalizing a b with
  | nil => rfl
  | cons line lines ih =>
    rw [Block.linesCons, Block.linesCons]
    by_cases blank : line = []
    · subst blank
      have next := ih (a := Block.begun a.id) (b := Block.begun b.id) rfl rfl
      obtain ⟨id, name, data⟩ := a
      obtain ⟨other, _, _⟩ := b
      subst event data
      change replies (List.map .ok ((⟨id, name, data⟩ : Block).event?.toList ++ _) ++ more) =
        replies (List.map .ok ((⟨other, name, data⟩ : Block).event?.toList ++ _) ++ more)
      unfold Block.event?
      by_cases silent : data.isEmpty
      · rw [if_pos silent, if_pos silent]
        exact next
      · rw [if_neg silent, if_neg silent]
        exact toldAlike _ _ _ _ next
    · obtain ⟨ofA, silent⟩ := lineRead blank a
      obtain ⟨ofB, silent'⟩ := lineRead blank b
      rw [silent, silent']
      refine ih ?_ ?_
      · rw [lineNamed blank, lineNamed blank, event]
      · rw [ofA, ofB, data]

theorem Lines.some_ {text rest line : List Char} {lines : List (List Char)}
    (read : Lines text (line :: lines) rest) : text ≠ [] := by
  cases read <;> simp

theorem markRead {marked : Bool} {text : List Char} (some_ : text ≠ [])
    (unmarked : marked = false → text.head? ≠ some '\uFEFF') (more : List Char) :
    Decoder.dropMark true (mark marked ++ text ++ more) = text ++ more := by
  cases marked with
  | true => rfl
  | false =>
    cases text with
    | nil => exact absurd rfl some_
    | cons c text =>
      have code : c.toNat ≠ 0xFEFF := fun same =>
        unmarked rfl (congrArg some (Char.toNat_inj.mp same))
      simp [mark, Decoder.dropMark, code]

def behind (b : Block) (rest : List Char) (after : Bytes) : List (Except Error Event) :=
  (b.lines (splitLines (rest ++ (Text.Utf8.decode after).1)).1).2.map .ok ++
    if (Text.Utf8.decode after).2 = [] then [] else [.error (.eventStream "invalid UTF-8")]

theorem eventsRead {marked : Bool} {text rest : List Char} {lines : List (List Char)}
    (read : Lines text lines rest) (marking : ∀ more,
      Decoder.dropMark true (mark marked ++ text ++ more) = text ++ more) (after : Bytes) :
    eventsAtOnce (Text.Utf8.encode (mark marked ++ text) ++ after) =
      (Block.empty.lines lines).2.map .ok ++ behind (Block.empty.lines lines).1 rest after := by
  rw [eventsAtOnce, Text.Utf8.decodeEncoded]
  dsimp only
  rw [marking, read.split, Block.linesAppend, List.map_append, List.append_assoc, behind]

theorem failuresTold (answers : List Answer) (alarm : Alarm) {marked : Bool} {text rest : List Char}
    (read : Lines text (answers.flatMap Answer.lines ++ alarm.lines) rest)
    (unmarked : marked = false → text.head? ≠ some '\uFEFF') {after : Bytes} {chunks : List Bytes}
    (octets : chunks.flatten = Text.Utf8.encode (mark marked ++ text) ++ after) :
    (alarm.content ≠ "" → decode chunks = answers.map (fun a => .ok a.reply) ++
      [.error (.api (.ofTextOrMessage alarm.content))]) ∧
    (alarm.content = "" → decode chunks = answers.map (fun a => .ok a.reply) ++
      decode [Text.Utf8.encode ('\uFEFF' :: rest) ++ after]) ∧
    (alarm.content = "" ↔ alarm.fields.filterMap data? = [[]]) := by
  have some_ : text ≠ [] := by
    cases lines : answers.flatMap Answer.lines ++ alarm.lines with
    | nil => simp [Alarm.lines] at lines
    | cons line lines' => exact Lines.some_ (lines ▸ read)
  obtain ⟨before, es, first, told⟩ := answersRead answers []
  obtain ⟨id, second⟩ := alarm.read before
  have said : decode chunks = answers.map (fun a => .ok a.reply) ++
      replies (.ok ⟨Block.nonEmpty id, some "error", alarm.content⟩ ::
        behind (Block.begun id) rest after) := by
    change Block.empty.lines _ = _ at first
    rw [decode, eventsJoined, octets, eventsRead read (markRead some_ unmarked), Block.linesAppend,
      first, second, List.map_append, List.append_assoc, told]
    rfl
  have alone : decode [Text.Utf8.encode ('\uFEFF' :: rest) ++ after] =
      replies (behind Block.empty rest after) := by
    have marking (more : List Char) :
        Decoder.dropMark true (mark true ++ rest ++ more) = rest ++ more := rfl
    rw [decode, eventsJoined, List.flatten_cons, List.flatten_nil, List.append_nil]
    exact congrArg replies (eventsRead (.nothing rest) marking after)
  refine ⟨fun filled => ?_, fun blank => ?_, ?_⟩
  · rw [said, replies, if_neg (by simpa using filled)]
    rfl
  · have unidentified : replies (behind (Block.begun id) rest after) =
        replies (behind Block.empty rest after) :=
      identifiersUntold _ (a := Block.begun id) (b := Block.empty) rfl rfl _
    rw [said, replies, if_pos (by simp [blank]), alone, unidentified]
  · rw [Alarm.content, contentOf, String.ofList_eq_empty_iff]
    have data := alarm.some_
    generalize alarm.fields.filterMap data? = lines at data
    cases lines with
    | nil => exact absurd rfl data
    | cons line lines => cases lines <;> simp [Block.joinData]

theorem Lines.spelled {lines : List (List Char)} (single : ∀ line ∈ lines, Text.OneLine line)
    (ends : Nat → LineEnd) : Lines (spell ends lines) lines [] := by
  induction lines generalizing ends with
  | nil => exact .nothing []
  | cons line lines ih =>
    obtain ⟨first, others⟩ := List.forall_mem_cons.mp single
    have more := ih others fun i => ends (i + 1)
    rw [spell, List.append_assoc]
    cases ends 0 with
    | feed => exact .feed first more
    | returnFeed => exact .returnFeed first more

def partialAnswer : Answer where
  fields := ["event:result".toList, "data:\x7b\"output\":".toList, "data: \"hello\"\x7d".toList]
  value := .object [("output", .string "hello")]
  filled := by decide
  noError := by decide
  told := by decide +kernel

def brokenAlarm : Alarm where
  fields := ["event:result".toList, "data".toList, "event: error".toList, "data:\x7b\"code\":".toList]
  filled := by decide
  error := by decide
  some_ := by decide

def blankAlarm : Alarm where
  fields := ["event:error".toList, "data:".toList]
  filled := by decide
  error := by decide
  some_ := by decide

def brokenText : List Char := spell mixedEnds (partialAnswer.lines ++ brokenAlarm.lines)

theorem brokenFailureTold :
    Lines brokenText ([partialAnswer].flatMap Answer.lines ++ brokenAlarm.lines) [] ∧
    brokenText.head? ≠ some '\uFEFF' ∧ brokenAlarm.content ≠ "" ∧
    decode [Text.Utf8.encode brokenText, [0xFF]] =
      [.ok partialAnswer.reply, .error (.api (.ofTextOrMessage "\n\x7b\"code\":"))] := by
  have read : Lines brokenText ([partialAnswer].flatMap Answer.lines ++ brokenAlarm.lines) [] :=
    .spelled (by decide) mixedEnds
  have unmarked : brokenText.head? ≠ some '\uFEFF' := by decide
  have filled : brokenAlarm.content ≠ "" := by decide
  have octets : [Text.Utf8.encode brokenText, [0xFF]].flatten =
      Text.Utf8.encode (mark false ++ brokenText) ++ [0xFF] := rfl
  exact ⟨read, unmarked, filled,
    (failuresTold [partialAnswer] brokenAlarm read (fun _ => unmarked) octets).1 filled⟩

theorem blankFailureLost :
    Lines (spell (fun _ => .feed) (partialAnswer.lines ++ blankAlarm.lines))
      ([partialAnswer].flatMap Answer.lines ++ blankAlarm.lines) [] ∧
    String.ofList (spell (fun _ => .feed) (partialAnswer.lines ++ blankAlarm.lines)) =
      "event:result\ndata:\x7b\"output\":\ndata: \"hello\"\x7d\n\nevent:error\ndata:\n\n" ∧
    blankAlarm.fields.filterMap data? ≠ [] ∧
    decode [Text.Utf8.ofString
      "event:result\ndata:\x7b\"output\":\ndata: \"hello\"\x7d\n\nevent:error\ndata:\n\n"] =
        [.ok partialAnswer.reply] :=
  ⟨.spelled (by decide) _, by decide +kernel, blankAlarm.some_, by decide +kernel⟩

end ModelServing.EventStream
