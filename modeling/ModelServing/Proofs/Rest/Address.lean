import ModelServing.Proofs.Reach
import ModelServing.Proofs.Text.Percent
import ModelServing.Proofs.Url.Path

/-! Where tasks are looked for. An id stands for itself in the path, as one segment, if it has nothing in
it that means something to an address; otherwise another address is made of it. -/
namespace ModelServing

namespace Url
open Text (Utf8.encode Percent.decode Percent.encodeText)

structure Segment (cs : List Char) : Prop where
  single : ∀ c ∈ cs, c ∉ ['/', '\\', '?', '#', '\t', '\n', '\r']
  undotted : cs ≠ ['.'] ∧ cs ≠ ['.', '.']
  unescaped : Text.Percent.Unescaped (Utf8.encode cs)

theorem plainChar (c : Char) : c ∉ ['/', '\\', '?', '#', '\t', '\n', '\r'] ↔
    isSlash true c = false ∧ isPathChar c = true ∧ isLineOrTab c = false := by
  simp [isSlash, isPathChar, isLineOrTab, and_assoc]

theorem pathTransparent : Text.Percent.Transparent pathKeeps where
  percent := by decide
  digits b h read := by
    have all : ∀ k ∈ List.range 256, (Text.Hex.value (Char.ofNat k)).isSome = true →
        k < 0x80 ∧ pathKeeps (Char.ofNat k) = true := by
      decide +kernel
    exact all b.toNat (List.mem_range.mpr b.toNat_lt) (Option.isSome_of_eq_some read)

theorem octetsSome (c : Char) : 0 < (String.utf8EncodeChar c).length := by
  rw [Text.Utf8.encodedOctets]
  dsimp only
  split
  · exact Nat.one_pos
  · split
    · exact Nat.two_pos
    · split <;> simp

theorem octetsNext (c : Char) (cs : List Char) : (Utf8.encode (c :: cs)).length =
    (String.utf8EncodeChar c).length + (Utf8.encode cs).length := by
  rw [Utf8.encode, List.flatMap_cons, List.length_append]
  rfl

theorem octetsShorter {a b : List Char} (part : a.Sublist b) :
    (Utf8.encode a).length ≤ (Utf8.encode b).length := by
  induction part with
  | slnil => exact Nat.le_refl _
  | cons c part ih =>
    rw [octetsNext]
    omega
  | cons_cons c part ih =>
    rw [octetsNext, octetsNext]
    omega

theorem sublistSame {a b : List Char} (part : a.Sublist b)
    (long : (Utf8.encode b).length ≤ (Utf8.encode a).length) : a = b := by
  induction part with
  | slnil => rfl
  | cons c part ih =>
    have some_ := octetsSome c
    have short := octetsShorter part
    rw [octetsNext] at long
    omega
  | cons_cons c part ih =>
    rw [octetsNext, octetsNext] at long
    exact congrArg (c :: ·) (ih (by omega))

theorem dropDotPlain {cs rest : List Char} (unescaped : Text.Percent.Unescaped (Utf8.encode cs))
    (dropped : dropDot cs = some rest) : cs = '.' :: rest := by
  unfold dropDot at dropped
  split at dropped
  · rw [Option.some.inj dropped]
  · rename_i e rest
    split at dropped
    · rename_i dot
      rcases dot with rfl | rfl
      · cases unescaped [] (Utf8.encode ('2' :: 'e' :: rest)) rfl
      · cases unescaped [] (Utf8.encode ('2' :: 'E' :: rest)) rfl
    · cases dropped
  · cases dropped

theorem unescapedBehind {a b : Bytes} (unescaped : Text.Percent.Unescaped (a ++ b)) :
    Text.Percent.Unescaped b :=
  fun before rest same => unescaped (a ++ before) rest (by rw [same, List.append_assoc])

theorem Segment.noDot {cs : List Char} (segment : Segment cs) :
    isDot cs = false ∧ isDoubleDot cs = false := by
  constructor
  · refine decide_eq_false fun dot => segment.undotted.1 (dropDotPlain segment.unescaped dot)
  · refine decide_eq_false fun dots => ?_
    obtain ⟨rest, first, second⟩ := Option.bind_eq_some_iff.mp dots
    have own := dropDotPlain segment.unescaped first
    have unescaped := segment.unescaped
    rw [own] at unescaped
    have later : Text.Percent.Unescaped (Utf8.encode rest) := unescapedBehind unescaped
    rw [dropDotPlain later second] at own
    exact segment.undotted.2 own

theorem Segment.clean {cs : List Char} (segment : Segment cs) : Url.clean cs = cs :=
  List.filter_eq_self.mpr fun c member => by
    simp [((plainChar c).mp (segment.single c member)).2.2]

theorem Segment.split {cs : List Char} (segment : Segment cs) : cs.splitOnP (isSlash true) = [cs] :=
  List.splitOnP_eq_singleton fun c member => ((plainChar c).mp (segment.single c member)).1

theorem Segment.decodes {cs : List Char} (segment : Segment cs) :
    Percent.decode (Utf8.encode (Percent.encodeText pathKeeps cs)) = Utf8.encode cs := by
  rw [Text.Percent.decodeEncoded pathTransparent]
  exact (Text.Percent.decodeSame _).mpr segment.unescaped

theorem enteredWhole {cs part segment : List Char} (inside : part.Sublist cs)
    (inPath : ∀ c ∈ part, isPathChar c = true) (entered : Entered (part.splitOnP (isSlash true)) segment)
    (named : Percent.decode (Utf8.encode segment) = Utf8.encode cs) : part = cs ∧ Segment cs := by
  obtain ⟨piece, member, noDot, noDouble, rfl⟩ := entered
  obtain ⟨smaller, noSlash⟩ := splitPart member
  rw [Text.Percent.decodeEncoded pathTransparent] at named
  have cleaned : (Url.clean piece).Sublist piece := List.filter_sublist
  have long : (Utf8.encode cs).length ≤ (Utf8.encode (Url.clean piece)).length := by
    rw [← named]
    exact Text.Percent.decodeShortens _
  have whole : Url.clean piece = cs := sublistSame (cleaned.trans (smaller.trans inside)) long
  rw [whole] at named noDot noDouble cleaned
  have same : piece = cs := (smaller.trans inside).antisymm cleaned
  subst same
  have all : part = piece := inside.antisymm smaller
  subst all
  refine ⟨rfl, fun c member => ?_, ⟨?_, ?_⟩, (Text.Percent.decodeSame _).mp named⟩
  · have noLine := List.filter_eq_self.mp whole c member
    exact (plainChar c).mpr ⟨noSlash c member, inPath c member, by simpa using noLine⟩
  · rintro rfl
    cases noDot
  · rintro rfl
    cases noDouble

theorem tidyBehind (front more : List Char) :
    tidy (front ++ '/' :: more) = Url.clean front ++ '/' :: tidy more := by
  have turned : (front ++ '/' :: more).reverse = more.reverse ++ '/' :: front.reverse := by simp
  rw [tidy, turned, dropStops rfl, tidy, ← cleanBefore]
  congr 1
  simp

theorem tidyInside (cs : List Char) : (tidy cs).Sublist (cs.rdropWhile isControlOrSpace) :=
  List.filter_sublist

theorem tidySame {cs : List Char} (segment : Segment cs) :
    tidy cs = cs ↔ ∀ c ∈ cs.getLast?, isControlOrSpace c = false := by
  have last : (∀ c ∈ cs.getLast?, isControlOrSpace c = false) ↔ cs.rdropWhile isControlOrSpace = cs := by
    rw [List.rdropWhile_eq_self_iff]
    constructor
    · intro plain some_
      simp [plain _ (List.getLast_mem_getLast? some_)]
    · intro plain c member
      obtain ⟨some_, rfl⟩ := List.mem_getLast?_eq_getLast member
      simpa using plain some_
  rw [last]
  constructor
  · intro same
    have inside := tidyInside cs
    rw [same] at inside
    exact (List.rdropWhile_prefix _ cs).sublist.antisymm inside
  · intro same
    change Url.clean (cs.rdropWhile isControlOrSpace) = cs
    rw [same]
    exact segment.clean

section
variable {t : Trail} {base : Url}

def Names (base : Url) (path after : List (List Char)) (cs : List Char) (u : Url) : Prop :=
  ∃ segment, u = { base with path := .segments (path ++ "tasks".toList :: segment :: after) } ∧
    Percent.decode (Utf8.encode segment) = Utf8.encode cs

def Trail.atTasks (t : Trail) : Trail := t.add "tasks".toList

theorem addWhole {cs : List Char} (segment : Segment cs) (t : Trail) : t.pass false cs = t.add cs := by
  rw [Trail.pass, segment.clean, segment.noDot.1, segment.noDot.2]
  exact (t.enterWeb cs).trans (congrArg t.add segment.clean)

theorem plainChars {cs : List Char}
    (all : (cs.all fun c => !(['/', '\\', '?', '#', '\t', '\n', '\r'].contains c)) = true) :
    ∀ c ∈ cs, c ∉ ['/', '\\', '?', '#', '\t', '\n', '\r'] := fun c member => by
  simpa using List.all_eq_true.mp all c member

theorem plainTasks : Segment "tasks".toList where
  single := plainChars (by decide)
  undotted := by decide
  unescaped := (Text.Percent.decodeSame _).mp (by decide +kernel)

theorem plainCancel : Segment "cancel".toList where
  single := plainChars (by decide)
  undotted := by decide
  unescaped := (Text.Percent.decodeSame _).mp (by decide +kernel)

theorem atTasksDone (t : Trail) : t.atTasks.done = "tasks".toList :: t.done := by
  have same : Percent.encodeText pathKeeps "tasks".toList = "tasks".toList := by decide +kernel
  rw [Trail.atTasks, Trail.add, same]

theorem passTasks (t : Trail) (cs : List Char) :
    t.walk false (("tasks".toList ++ '/' :: cs).splitOnP (isSlash true)) =
      t.atTasks.walk false (cs.splitOnP (isSlash true)) := by
  rw [List.splitOnP_append_cons _ _ rfl, plainTasks.split,
    Trail.walkBehind false t _ (List.splitOnP_ne_nil _ cs), List.foldl_cons, addWhole plainTasks]
  rfl

theorem walkCancel (t : Trail) (cs : List Char) :
    (t.walk false ((cs ++ '/' :: "cancel".toList).splitOnP (isSlash true))).done =
      "cancel".toList :: ((cs.splitOnP (isSlash true)).foldl (Trail.pass false) t).done := by
  have same : Percent.encodeText pathKeeps "cancel".toList = "cancel".toList := by decide +kernel
  have last (t : Trail) : t.walk false ["cancel".toList] = t.add "cancel".toList :=
    t.enterWeb "cancel".toList
  rw [List.splitOnP_append_cons _ _ rfl, plainCancel.split,
    Trail.walkBehind false t _ (List.cons_ne_nil _ _), last, Trail.add, same]

theorem inPathBehind {front more : List Char} (plain : Segment front) :
    (∀ c ∈ front ++ '/' :: more, isPathChar c = true) ↔ ∀ c ∈ more, isPathChar c = true := by
  rw [List.forall_mem_append, List.forall_mem_cons]
  exact ⟨fun h => h.2.2, fun h => ⟨fun c member => ((plainChar c).mp (plain.single c member)).2.1, rfl, h⟩⟩

theorem fetchNames (noQuery : base.query = none) (noFragment : base.fragment = none) (cs : List Char) :
    Names base t.done.reverse [] cs (t.reach base (tidy ("tasks".toList ++ '/' :: cs))) ↔
      Segment cs ∧ ∀ c ∈ cs.getLast?, isControlOrSpace c = false := by
  have reached (segment : List Char) : t.reach base (tidy ("tasks".toList ++ '/' :: cs)) =
      { base with path := .segments (t.done.reverse ++ ["tasks".toList, segment]) } ↔
        (∀ c ∈ tidy cs, isPathChar c = true) ∧
          (t.atTasks.walk false ((tidy cs).splitOnP (isSlash true))).done = segment :: t.atTasks.done := by
    rw [tidyBehind, plainTasks.clean, reachIff noQuery noFragment, inPathBehind plainTasks, passTasks,
      atTasksDone]
    simp
  unfold Names
  simp only [reached]
  constructor
  · rintro ⟨segment, ⟨inPath, walked⟩, named⟩
    rcases Trail.walkOne walked (List.splitOnP_ne_nil _ _) with rfl | entered
    · -- No octets name the empty text only.
      have empty : cs = [] := (sublistSame (List.nil_sublist cs) (by rw [← named]; exact Nat.le_refl _)).symm
      subst empty
      exact ⟨⟨nofun, ⟨nofun, nofun⟩, (Text.Percent.decodeSame _).mp rfl⟩, nofun⟩
    · have inside := (tidyInside cs).trans (List.rdropWhile_prefix _ cs).sublist
      obtain ⟨same, segment⟩ := enteredWhole inside inPath entered named
      exact ⟨segment, (tidySame segment).mp same⟩
  · rintro ⟨segment, last⟩
    rw [(tidySame segment).mpr last]
    refine ⟨_, ⟨fun c member => ((plainChar c).mp (segment.single c member)).2.1, ?_⟩, segment.decodes⟩
    have walked (t : Trail) : t.walk false [cs] = t.add cs := by
      rw [Trail.walk, segment.clean, segment.noDot.1, segment.noDot.2]
      exact (t.enterWeb cs).trans (congrArg t.add segment.clean)
    rw [segment.split, walked, Trail.add]

theorem cancelNames (noQuery : base.query = none) (noFragment : base.fragment = none) (cs : List Char) :
    Names base t.done.reverse ["cancel".toList] cs
        (t.reach base (tidy (("tasks".toList ++ '/' :: cs) ++ '/' :: "cancel".toList))) ↔ Segment cs := by
  have reached (segment : List Char) :
      t.reach base (tidy (("tasks".toList ++ '/' :: cs) ++ '/' :: "cancel".toList)) =
        { base with path := .segments (t.done.reverse ++ ["tasks".toList, segment, "cancel".toList]) } ↔
          (∀ c ∈ Url.clean cs, isPathChar c = true) ∧
            (((Url.clean cs).splitOnP (isSlash true)).foldl (Trail.pass false) t.atTasks).done =
              segment :: t.atTasks.done := by
    have last : tidy "cancel".toList = "cancel".toList := by decide
    rw [tidyBehind, cleanBefore, plainTasks.clean, last, List.append_assoc, List.cons_append,
      reachIff noQuery noFragment, inPathBehind plainTasks, passTasks, walkCancel, atTasksDone]
    have inPath : ∀ c ∈ '/' :: "cancel".toList, isPathChar c = true :=
      List.all_eq_true.mp (by decide)
    have whole : (∀ c ∈ Url.clean cs ++ '/' :: "cancel".toList, isPathChar c = true) ↔
        ∀ c ∈ Url.clean cs, isPathChar c = true := by
      rw [List.forall_mem_append]
      exact and_iff_left inPath
    rw [whole]
    simp
  unfold Names
  simp only [reached]
  constructor
  · rintro ⟨segment, ⟨inPath, walked⟩, named⟩
    exact (enteredWhole List.filter_sublist inPath (Trail.foldOne walked) named).2
  · intro segment
    rw [segment.clean]
    refine ⟨_, ⟨fun c member => ((plainChar c).mp (segment.single c member)).2.1, ?_⟩, segment.decodes⟩
    rw [segment.split, List.foldl_cons, List.foldl_nil, addWhole segment, Trail.add]

end

theorem namesOne {base u : Url} {path after : List (List Char)} {a b : List Char}
    (first : Names base path after a u) (second : Names base path after b u) : a = b := by
  obtain ⟨segment, own, named⟩ := first
  obtain ⟨other, same, alike⟩ := second
  have paths := Path.segments.inj (congrArg Url.path (own.symm.trans same))
  have segments := (List.cons.inj (List.cons.inj (List.append_cancel_left paths)).2).1
  rw [← segments, named] at alike
  have back (cs : List Char) : (Text.Utf8.decode (Utf8.encode cs)).1 = cs := by
    have read := Text.Utf8.decodeEncoded cs []
    rw [List.append_nil] at read
    rw [read, Text.Utf8.decodeStops rfl]
    exact List.append_nil cs
  rw [← back a, ← back b, alike]

end Url

namespace Rest

theorem located {c : Config} {base : Url} (parsed : Url.parse (address c "") = .ok base)
    (web : isHttp base = true) (noQuery : base.query = none) (noFragment : base.fragment = none) :
    ∃ t : Url.Trail, base.path = .segments (t.done.reverse ++ [[]]) ∧
      ∀ path, locate c path = .ok (t.reach (withoutUser base) (Url.tidy path.toList)) := by
  rw [Url.parse, addressChars] at parsed
  obtain ⟨t, ends, parses⟩ := Url.pathBehind parsed web noQuery noFragment
  refine ⟨t, ends, fun path => ?_⟩
  rw [locate, Url.parse, addressChars, parses]
  exact if_pos web

theorem fetchSent {σ : Type} {c : Config} {t : Tasks} {headers : Http.Headers} {taskId : String} {u : Url}
    (authorized : c.authHeaders t.credentials = .ok headers)
    (located : locate c ("tasks/" ++ taskId) = .ok u) (exchange : Exchange σ) (s : σ) :
    (t.fetch (noted exchange) c taskId ([], s)).2.1 = [⟨.get, u, headers, none⟩] := by
  have made : fetchMessage c taskId t.credentials = .ok ⟨.get, u, headers, none⟩ := by
    rw [fetchMessage, authorized, located]
    rfl
  rw [Tasks.fetch, fetch, performNotes, made]
  rfl

theorem cancelSent {σ : Type} {c : Config} {t : Tasks} {headers : Http.Headers} {taskId : String} {u : Url}
    (authorized : c.authHeaders t.credentials = .ok headers)
    (located : locate c ("tasks/" ++ taskId ++ "/cancel") = .ok u) (exchange : Exchange σ) (s : σ) :
    (t.cancel (noted exchange) c taskId ([], s)).2.1 = [⟨.post, u, headers, none⟩] := by
  have made : cancelMessage c taskId t.credentials = .ok ⟨.post, u, headers, none⟩ := by
    rw [cancelMessage, authorized, located]
    rfl
  rw [Tasks.cancel, cancel, performNotes, made]
  rfl

structure Addressable (taskId : String) : Prop where
  segment : Url.Segment taskId.toList
  last : ∀ ch ∈ taskId.toList.getLast?, Url.isControlOrSpace ch = false

theorem tasksAddressed {c : Config} {base : Url} (parsed : Url.parse (address c "") = .ok base)
    (web : isHttp base = true) (noQuery : base.query = none) (noFragment : base.fragment = none) :
    ∃ (path : List (List Char)) (fetched cancelled : String → Url),
      base.path = .segments (path ++ [[]]) ∧
      (∀ {σ : Type} (t : Tasks) (headers : Http.Headers), c.authHeaders t.credentials = .ok headers →
        ∀ (exchange : Exchange σ) (taskId : String) (s : σ),
          (t.fetch (noted exchange) c taskId ([], s)).2.1 = [⟨.get, fetched taskId, headers, none⟩] ∧
          (t.cancel (noted exchange) c taskId ([], s)).2.1 =
            [⟨.post, cancelled taskId, headers, none⟩]) ∧
      (∀ taskId : String, Url.Names (withoutUser base) path [] taskId.toList (fetched taskId) ↔
        Addressable taskId) ∧
      (∀ taskId : String,
        Url.Names (withoutUser base) path ["cancel".toList] taskId.toList (cancelled taskId) ↔
          Url.Segment taskId.toList) ∧
      (∀ a b, Addressable a → Addressable b → fetched a = fetched b → a = b) ∧
      ∀ a b : String, Url.Segment a.toList → Url.Segment b.toList → cancelled a = cancelled b → a = b := by
  obtain ⟨t, ends, locates⟩ := located parsed web noQuery noFragment
  have noQuery : (withoutUser base).query = none := noQuery
  have noFragment : (withoutUser base).fragment = none := noFragment
  have fetches (taskId : String) : Url.Names (withoutUser base) t.done.reverse [] taskId.toList
      (t.reach (withoutUser base) (Url.tidy ("tasks/" ++ taskId).toList)) ↔ Addressable taskId := by
    have spelt : ("tasks/" ++ taskId).toList = "tasks".toList ++ '/' :: taskId.toList := by
      rw [String.toList_append]
      rfl
    rw [spelt]
    exact (Url.fetchNames noQuery noFragment taskId.toList).trans
      ⟨fun ⟨segment, last⟩ => ⟨segment, last⟩, fun ⟨segment, last⟩ => ⟨segment, last⟩⟩
  have cancels (taskId : String) : Url.Names (withoutUser base) t.done.reverse ["cancel".toList] taskId.toList
      (t.reach (withoutUser base) (Url.tidy ("tasks/" ++ taskId ++ "/cancel").toList)) ↔
        Url.Segment taskId.toList := by
    have spelt : ("tasks/" ++ taskId ++ "/cancel").toList =
        ("tasks".toList ++ '/' :: taskId.toList) ++ '/' :: "cancel".toList := by
      rw [String.toList_append, String.toList_append]
      rfl
    rw [spelt]
    exact Url.cancelNames noQuery noFragment taskId.toList
  refine ⟨t.done.reverse, _, _, ends, fun t headers authorized exchange taskId s => ⟨?_, ?_⟩, fetches, cancels,
    fun a b first second same => ?_, fun a b first second same => ?_⟩
  · exact fetchSent authorized (locates _) exchange s
  · exact cancelSent authorized (locates _) exchange s
  · have named := (fetches b).mpr second
    rw [← same] at named
    exact String.toList_inj.mp (Url.namesOne ((fetches a).mpr first) named)
  · have named := (cancels b).mpr second
    rw [← same] at named
    exact String.toList_inj.mp (Url.namesOne ((cancels a).mpr first) named)

theorem oddTaskAddressed : ∃ base path fetched cancelled,
    Url.parse (address localConfig "") = .ok base ∧ isHttp base = true ∧ base.query = none ∧
    base.fragment = none ∧ localConfig.authHeaders Tasks.default.credentials =
      .ok [("authorization", "Bearer sk-config")] ∧
    Addressable "50% é" ∧
    (Tasks.default.fetch (noted silence) localConfig "50% é" ([], 0)).2.1 =
      [⟨.get, fetched, [("authorization", "Bearer sk-config")], none⟩] ∧
    (Tasks.default.cancel (noted silence) localConfig "50% é" ([], 0)).2.1 =
      [⟨.post, cancelled, [("authorization", "Bearer sk-config")], none⟩] ∧
    Url.Names (withoutUser base) path [] "50% é".toList fetched ∧
    Url.Names (withoutUser base) path ["cancel".toList] "50% é".toList cancelled := by
  have read : (Url.parse (address localConfig "")).toOption.any (fun base =>
      isHttp base && base.query.isNone && base.fragment.isNone) = true := by
    decide +kernel
  obtain ⟨base, parsed, held⟩ := readIs read
  simp only [Bool.and_eq_true, Option.isNone_iff_eq_none] at held
  obtain ⟨⟨web, noQuery⟩, noFragment⟩ := held
  have authorized : localConfig.authHeaders Tasks.default.credentials =
      .ok [("authorization", "Bearer sk-config")] := by
    decide +kernel
  have segment : Url.Segment "50% é".toList :=
    ⟨Url.plainChars (by decide), ⟨by decide, by decide⟩, (Text.Percent.decodeSame _).mp (by decide +kernel)⟩
  have last : "50% é".toList.getLast? = some 'é' := by decide
  have odd : Addressable "50% é" := ⟨segment, by
    rw [last]
    rintro ch ⟨⟩
    decide⟩
  obtain ⟨path, fetched, cancelled, _, sent, fetches, cancels, _⟩ :=
    tasksAddressed parsed web noQuery noFragment
  obtain ⟨asked, stopped⟩ := sent Tasks.default _ authorized silence "50% é" 0
  exact ⟨base, path, _, _, parsed, web, noQuery, noFragment, authorized, odd, asked, stopped,
    (fetches _).mpr odd, (cancels _).mpr segment⟩

def askedFor (c : Config) (taskId : String) : List String :=
  (Tasks.default.fetch (noted silence) c taskId ([], 0)).2.1.map Http.Message.target

theorem strayTasksAsked :
    askedFor localConfig "a?b" = ["/api/v1/tasks/a?b"] ∧
    askedFor localConfig "../services" = ["/api/v1/services"] ∧
    askedFor localConfig "%61" = ["/api/v1/tasks/%61"] ∧
    askedFor localConfig "a " = askedFor localConfig "a" ∧
    askedFor { localConfig with httpBase := "http://127.0.0.1/api?v=1" } "a" = ["/api?v=1/tasks/a"] := by
  decide +kernel

end Rest

end ModelServing
