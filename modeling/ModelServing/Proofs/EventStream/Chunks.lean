import ModelServing.EventStream.Decoder
import ModelServing.Proofs.Text.Utf8

/-! An event stream says the same in whatever chunks it comes. Each layer keeps what it cannot use yet
(octets of an unfinished character, an unfinished line, an unfinished block) and does not mind where its
input is cut, so neither does the decoder: it finds what the octets say when they are read at once. -/
namespace ModelServing.EventStream

theorem splitLineFeed (rest : List Char) :
    splitLines ('\n' :: rest) = ([] :: (splitLines rest).1, (splitLines rest).2) := by
  simp [splitLines]

theorem splitReturnFeed (rest : List Char) :
    splitLines ('\r' :: '\n' :: rest) = ([] :: (splitLines rest).1, (splitLines rest).2) := by
  simp [splitLines]

theorem splitReturn {c : Char} (other : c ≠ '\n') (rest : List Char) :
    splitLines ('\r' :: c :: rest) =
      ([] :: (splitLines (c :: rest)).1, (splitLines (c :: rest)).2) := by
  rw [splitLines]
  exact other

def joinFront (c : Char) : List (List Char) × List Char → List (List Char) × List Char
  | ([], left) => ([], c :: left)
  | (line :: lines, left) => ((c :: line) :: lines, left)

theorem splitOther {c : Char} (noReturn : c ≠ '\r') (noFeed : c ≠ '\n') (rest : List Char) :
    splitLines (c :: rest) = joinFront c (splitLines rest) := by
  rw [splitLines.eq_def]
  split
  all_goals rename_i same; cases same
  all_goals first | contradiction | skip
  split
  all_goals rename_i split; rw [split]; rfl

theorem notReturn {c : Char} {rest : List Char} (alone : c = '\r' → rest = [] → False)
    (followed : ∀ d more, c = '\r' → rest = d :: more → False) : c ≠ '\r' := by
  rintro rfl
  cases rest with
  | nil => exact alone rfl rfl
  | cons d more => exact followed d more rfl rfl

theorem splitLinesAppend (a b : List Char) :
    splitLines (a ++ b) = ((splitLines a).1 ++ (splitLines ((splitLines a).2 ++ b)).1,
      (splitLines ((splitLines a).2 ++ b)).2) := by
  fun_induction splitLines a with
  | case1 | case2 => rfl
  | case3 rest lines left split ih =>
    rw [List.cons_append, List.cons_append, splitReturnFeed, ih, split]
    rfl
  | case4 c rest other lines left split ih =>
    rw [List.cons_append, List.cons_append, splitReturn other, ← List.cons_append, ih, split]
    rfl
  | case5 rest lines left split ih =>
    rw [List.cons_append, splitLineFeed, ih, split]
    rfl
  | case6 c rest alone _ followed noFeed left split ih =>
    have join := @splitOther c (notReturn alone followed) noFeed
    rw [List.cons_append, join, ih, split, List.nil_append, List.nil_append, List.cons_append, join]
  | case7 c rest alone _ followed noFeed line lines left split ih =>
    rw [List.cons_append, splitOther (notReturn alone followed) noFeed, ih, split]
    rfl

theorem Block.linesCons (b : Block) (l : List Char) (rest : List (List Char)) :
    b.lines (l :: rest) =
      (((b.line l).1.lines rest).1, (b.line l).2 ++ ((b.line l).1.lines rest).2) := rfl

theorem Block.linesAppend (b : Block) (first later : List (List Char)) :
    b.lines (first ++ later) =
      (((b.lines first).1.lines later).1, (b.lines first).2 ++ ((b.lines first).1.lines later).2) := by
  induction first generalizing b with
  | nil => rfl
  | cons l rest ih =>
    rw [List.cons_append, linesCons, linesCons, ih, List.append_assoc]

namespace Decoder

theorem dropMarkAppend (fresh : Bool) (a b : List Char) :
    dropMark fresh (a ++ b) = dropMark fresh a ++ dropMark (fresh && a.isEmpty) b := by
  cases a with
  | nil => rw [List.isEmpty_nil, Bool.and_true]; rfl
  | cons c rest =>
    have late : dropMark (fresh && (c :: rest).isEmpty) b = b := by
      cases b <;> simp [dropMark]
    rw [late, List.cons_append, dropMark, dropMark]
    split <;> rfl

theorem feedSteps (d : Decoder) (chunk : Bytes) :
    let read := Text.Utf8.decode (d.held ++ chunk)
    let split := splitLines (d.left ++ dropMark d.fresh read.1)
    d.feed chunk = (⟨d.fresh && read.1.isEmpty, read.2, split.2, (d.block.lines split.1).1⟩,
      (d.block.lines split.1).2) := rfl

theorem feedAppend (d : Decoder) (a b : Bytes) :
    d.feed (a ++ b) = (((d.feed a).1.feed b).1, (d.feed a).2 ++ ((d.feed a).1.feed b).2) := by
  simp only [feedSteps]
  rw [← List.append_assoc, Text.Utf8.decodeAppend (d.held ++ a) b]
  generalize Text.Utf8.decode (d.held ++ a) = first
  generalize Text.Utf8.decode (first.2 ++ b) = later
  have blank : (first.1 ++ later.1).isEmpty = (first.1.isEmpty && later.1.isEmpty) := by
    cases first.1 <;> rfl
  rw [dropMarkAppend, ← List.append_assoc, splitLinesAppend, Block.linesAppend, blank,
    Bool.and_assoc]

theorem feedAllCons (d : Decoder) (chunk : Bytes) (rest : List Bytes) :
    d.feedAll (chunk :: rest) =
      (((d.feed chunk).1.feedAll rest).1, (d.feed chunk).2 ++ ((d.feed chunk).1.feedAll rest).2) := rfl

theorem feedAllJoined {d : Decoder} (settled : d.feed [] = (d, [])) (chunks : List Bytes) :
    d.feedAll chunks = d.feed chunks.flatten := by
  induction chunks generalizing d with
  | nil => exact settled.symm
  | cons chunk rest ih =>
    -- What a chunk leaves behind is settled: it could as well have been cut at its end.
    have again := d.feedAppend chunk []
    rw [List.append_nil] at again
    have later : (d.feed chunk).1.feed [] = ((d.feed chunk).1, []) := by
      generalize (d.feed chunk).1.feed [] = step at again
      have state := congrArg Prod.fst again
      have events := List.self_eq_append_right.mp (congrArg Prod.snd again)
      exact Prod.ext state.symm events
    rw [feedAllCons, List.flatten_cons, feedAppend, ih later]

end Decoder

def eventsAtOnce (octets : Bytes) : List (Except Error Event) :=
  let read := Text.Utf8.decode octets
  let lines := (splitLines (Decoder.dropMark true read.1)).1
  (Block.empty.lines lines).2.map .ok ++
    if read.2 = [] then [] else [.error (.eventStream "invalid UTF-8")]

theorem eventsJoined (chunks : List Bytes) : events chunks = eventsAtOnce chunks.flatten := by
  have settled : Decoder.start.feed [] = (Decoder.start, []) := by
    rw [Decoder.feedSteps, Decoder.start, Text.Utf8.decodeStops rfl]
    rfl
  have joined := Decoder.feedAllJoined settled chunks
  rw [Decoder.feedSteps] at joined
  rw [events, joined, eventsAtOnce]
  simp only [Decoder.start, Decoder.finish, List.nil_append, List.isEmpty_iff]

theorem chunksAgree (chunks : List Bytes) :
    decode chunks = replies (eventsAtOnce chunks.flatten) ∧
    ∀ others : List Bytes, others.flatten = chunks.flatten → decode others = decode chunks := by
  refine ⟨congrArg replies (eventsJoined chunks), fun others same => ?_⟩
  rw [decode, decode, eventsJoined, eventsJoined, same]

def greeting : Bytes :=
  Text.Utf8.ofString "id:1\r\nevent:result\r\ndata:[\"é\"]\r\n\r\ndata:1" ++ [0xC3]

def cutGreeting : List Bytes :=
  [greeting.take 5, [], (greeting.drop 5).take 23, greeting.drop 28]

theorem greetingCut : cutGreeting.flatten = [greeting].flatten ∧
    (decode [greeting]).map (·.isOk) = [true, false] ∧ decode cutGreeting = decode [greeting] := by
  have same : cutGreeting.flatten = [greeting].flatten := by decide +kernel
  exact ⟨same, by decide +kernel, (chunksAgree [greeting]).2 cutGreeting same⟩

end ModelServing.EventStream
