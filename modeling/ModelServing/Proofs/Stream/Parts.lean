import ModelServing.Fold

/-! What comes of many partial replies, as a function of all of them at once. Nothing depends on how the
octets are cut into parts, nor on parts that bring nothing. -/
namespace ModelServing

section
variable {α β : Type} (tell : β → Option α)

def lastTold (xs : List β) : Option α := (xs.filterMap tell).getLast?

theorem lastToldNext (before : List β) (x : β) :
    lastTold tell (before ++ [x]) = (tell x).or (lastTold tell before) := by
  unfold lastTold
  rw [List.filterMap_append, List.getLast?_append]
  cases told : tell x with
  | none => rw [List.filterMap_cons_none told]; rfl
  | some a => rw [List.filterMap_cons_some told]; rfl

theorem lastToldFirst (x : β) (rest : List β) :
    lastTold tell (x :: rest) = (lastTold tell rest).or (tell x) := by
  unfold lastTold
  cases told : tell x with
  | none => rw [List.filterMap_cons_none told, Option.or_none]
  | some a =>
    rw [List.filterMap_cons_some told, List.getLast?_cons]
    cases (rest.filterMap tell).getLast? with
    | none | some later => rfl

theorem lastToldSame {xs : List β} (some_ : xs ≠ []) {told : Option α}
    (same : ∀ x ∈ xs, tell x = told) : lastTold tell xs = told := by
  induction xs with
  | nil => exact absurd rfl some_
  | cons x rest ih =>
    rw [lastToldFirst, same x List.mem_cons_self]
    cases rest with
    | nil => rfl
    | cons y more =>
      rw [ih (List.cons_ne_nil y more) fun z member => same z (List.mem_cons_of_mem x member)]
      exact Option.or_self

end

def Reply.json? (r : Reply) : Option Reply := r.output?.map fun _ => r

def octetsOf (parts : List Reply) : Bytes := (parts.filterMap Reply.bytes?).flatten

theorem octetsFirst (r : Reply) (rest : List Reply) :
    octetsOf (r :: rest) = r.bytes?.getD [] ++ octetsOf rest := by
  unfold octetsOf
  cases told : r.bytes? with
  | none =>
    rw [List.filterMap_cons_none told]
    rfl
  | some bytes =>
    rw [List.filterMap_cons_some told]
    rfl

def joined (parts : List Reply) : Reply :=
  let octets := octetsOf parts
  let last := lastTold Reply.json? parts
  let usage := lastTold Reply.usage parts
  let requestId := lastTold Reply.requestId parts
  if octets = [] then { last.getD (.json .null) with usage, requestId }
  else ⟨requestId, none, last.bind (·.event), none, .binary octets, usage⟩

attribute [ext] Fold

namespace Fold

theorem addOctets (f : Fold) (r : Reply) : (f.add r).audio = f.audio ++ r.bytes?.getD [] := by
  obtain ⟨requestId, sessionId, event, status, payload, usage⟩ := r
  cases payload with
  | binary bytes => rfl
  | json value => exact (List.append_nil _).symm

theorem addLast (f : Fold) (r : Reply) : (f.add r).last = r.json?.or f.last := by
  obtain ⟨requestId, sessionId, event, status, payload, usage⟩ := r
  cases payload with
  | binary bytes | json value => rfl

theorem addUsage (f : Fold) (r : Reply) : (f.add r).usage = r.usage.or f.usage := by
  have same : (f.add r).usage = r.usage.orElse fun _ => f.usage := by
    obtain ⟨requestId, sessionId, event, status, payload, usage⟩ := r
    cases payload with
    | binary bytes | json value => rfl
  rw [same]
  cases r.usage with
  | none | some u => rfl

theorem addRequest (f : Fold) (r : Reply) : (f.add r).requestId = r.requestId.or f.requestId := by
  have same : (f.add r).requestId = r.requestId.orElse fun _ => f.requestId := by
    obtain ⟨requestId, sessionId, event, status, payload, usage⟩ := r
    cases payload with
    | binary bytes | json value => rfl
  rw [same]
  cases r.requestId with
  | none | some id => rfl

theorem addAll (f : Fold) (parts : List Reply) : parts.foldl add f =
    ⟨f.audio ++ octetsOf parts, (lastTold Reply.json? parts).or f.last,
      (lastTold Reply.usage parts).or f.usage, (lastTold Reply.requestId parts).or f.requestId⟩ := by
  induction parts generalizing f with
  | nil => exact Fold.ext (List.append_nil _).symm rfl rfl rfl
  | cons r rest ih =>
    rw [List.foldl_cons, ih, addOctets, addLast, addUsage, addRequest, octetsFirst]
    simp only [lastToldFirst, Option.or_assoc, List.append_assoc]

theorem resultJoined (parts : List Reply) : (parts.foldl add empty).result = joined parts := by
  rw [addAll]
  simp only [empty, List.nil_append, Option.or_none, result, joined, List.isEmpty_iff]
  split <;> rfl

def failure? : Except Error Reply → Option Error
  | .error e => some e
  | .ok _ => none

theorem runSays (f : Fold) (parts : List (Except Error Reply)) : f.run parts =
    match parts.findSome? failure? with
    | some e => .error e
    | none => .ok ((parts.filterMap Except.toOption).foldl add f).result := by
  induction parts generalizing f with
  | nil => rfl
  | cons part rest ih =>
    cases part with
    | error e => rfl
    | ok r => exact ih (f.add r)

theorem runReplies (f : Fold) (replies : List Reply) (rest : List (Except Error Reply)) :
    f.run (replies.map .ok ++ rest) = (replies.foldl add f).run rest := by
  induction replies generalizing f with
  | nil => rfl
  | cons r more ih => exact ih (f.add r)

theorem runBehind {first second : List (Except Error Reply)}
    (alike : ∀ f : Fold, f.run first = f.run second) (before : List (Except Error Reply)) (f : Fold) :
    f.run (before ++ first) = f.run (before ++ second) := by
  induction before generalizing f with
  | nil => exact alike f
  | cons part rest ih =>
    cases part with
    | error e => rfl
    | ok r => exact ih (f.add r)

end Fold

structure CutInto (whole : Reply) (pieces : List Reply) : Prop where
  some_ : pieces ≠ []
  binary : ∀ r ∈ pieces, r.bytes? ≠ none
  octets : whole.bytes? = some (octetsOf pieces)
  usage : ∀ r ∈ pieces, r.usage = whole.usage
  requestId : ∀ r ∈ pieces, r.requestId = whole.requestId

structure Reply.Silent (r : Reply) : Prop where
  octets : r.bytes? = some []
  usage : r.usage = none
  requestId : r.requestId = none

theorem Reply.binaryUnstructured {r : Reply} (binary : r.bytes? ≠ none) : r.json? = none := by
  obtain ⟨requestId, sessionId, event, status, payload, usage⟩ := r
  cases payload with
  | binary bytes => rfl
  | json value => exact absurd rfl binary

theorem CutInto.add {whole : Reply} {pieces : List Reply} (cut : CutInto whole pieces) (f : Fold) :
    pieces.foldl Fold.add f = f.add whole := by
  have structured : whole.json? = none := Reply.binaryUnstructured (by rw [cut.octets]; nofun)
  have last := lastToldSame Reply.json? cut.some_ fun r member =>
    Reply.binaryUnstructured (cut.binary r member)
  have usage := lastToldSame Reply.usage cut.some_ cut.usage
  have requestId := lastToldSame Reply.requestId cut.some_ cut.requestId
  rw [Fold.addAll]
  apply Fold.ext
  · rw [Fold.addOctets, cut.octets]
    rfl
  · rw [Fold.addLast, structured, last]
  · rw [Fold.addUsage, usage]
  · rw [Fold.addRequest, requestId]

theorem Reply.Silent.add {r : Reply} (silent : r.Silent) (f : Fold) : f.add r = f := by
  have structured : r.json? = none := Reply.binaryUnstructured (by rw [silent.octets]; nofun)
  apply Fold.ext
  · rw [Fold.addOctets, silent.octets]
    exact List.append_nil _
  · rw [Fold.addLast, structured, Option.none_or]
  · rw [Fold.addUsage, silent.usage, Option.none_or]
  · rw [Fold.addRequest, silent.requestId, Option.none_or]

theorem silentAll {silent : List Reply} (all : ∀ r ∈ silent, r.Silent) (f : Fold) :
    silent.foldl Fold.add f = f := by
  induction silent generalizing f with
  | nil => rfl
  | cons r rest ih =>
    rw [List.foldl_cons, (all r List.mem_cons_self).add]
    exact ih (fun s member => all s (List.mem_cons_of_mem r member)) f

theorem partsJoined :
    (∀ parts, foldReplies parts =
      match parts.findSome? Fold.failure? with
      | some e => .error e
      | none => .ok (joined (parts.filterMap Except.toOption))) ∧
    (∀ before whole pieces after, CutInto whole pieces →
      foldReplies (before ++ (pieces.map .ok ++ after)) = foldReplies (before ++ .ok whole :: after)) ∧
    ∀ before (silent : List Reply) after, (∀ r ∈ silent, r.Silent) →
      foldReplies (before ++ (silent.map .ok ++ after)) = foldReplies (before ++ after) := by
  refine ⟨fun parts => ?_, fun before whole pieces after cut => ?_, fun before silent after all => ?_⟩
  · rw [foldReplies, Fold.runSays]
    simp only [Fold.resultJoined]
  · refine Fold.runBehind (fun f => ?_) before Fold.empty
    rw [Fold.runReplies, cut.add]
    rfl
  · refine Fold.runBehind (fun f => ?_) before Fold.empty
    rw [Fold.runReplies, silentAll all]

def spokenPart (bytes : Bytes) : Reply :=
  { Reply.binary bytes with usage := some ⟨none, none, none, some 4, none, []⟩, requestId := some "t-1" }

theorem cutSpeechJoined :
    CutInto (spokenPart [1, 2, 3]) [spokenPart [1], spokenPart [], spokenPart [2, 3]] ∧
    (∀ r ∈ [Reply.binary []], r.Silent) ∧
    foldReplies ([.ok (.json (.string "a"))] ++
      ([spokenPart [1], spokenPart [], spokenPart [2, 3]].map .ok ++
        ([Reply.binary []].map .ok ++ [.ok (.json .null)]))) =
      .ok (spokenPart [1, 2, 3]) := by
  have cut : CutInto (spokenPart [1, 2, 3]) [spokenPart [1], spokenPart [], spokenPart [2, 3]] := by
    constructor <;> simp [spokenPart, Reply.binary, Reply.bytes?, octetsOf]
  have silent : ∀ r ∈ [Reply.binary []], r.Silent := List.forall_mem_singleton.mpr ⟨rfl, rfl, rfl⟩
  obtain ⟨told, cutLaw, silentLaw⟩ := partsJoined
  refine ⟨cut, silent, ?_⟩
  rw [cutLaw _ _ _ _ cut, List.append_cons, silentLaw _ _ _ silent, told]
  rfl

end ModelServing
