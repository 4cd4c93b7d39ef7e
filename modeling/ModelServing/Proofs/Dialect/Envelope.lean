import ModelServing.Dialect.Realtime
import ModelServing.Dialect.Task
import ModelServing.Proofs.Json.RoundTrip

/-! What the caller hands in comes out of its envelope again. The envelope of a task takes up two of the
containers that the reader admits within each other; a realtime command goes out as it is. -/
namespace ModelServing

namespace Fields

theorem orderedInsertAll {fields : Fields} (ordered : fields.Ordered) (members : Fields) :
    (fields.insertAll members).Ordered := by
  induction members generalizing fields with
  | nil => exact ordered
  | cons m rest ih => exact ih (ordered_insert m.1 m.2 fields ordered)

theorem memInsertAll {fields members : Fields} {m : String × Json}
    (member : m ∈ fields.insertAll members) : m ∈ fields ∨ m ∈ members := by
  induction members generalizing fields with
  | nil => exact .inl member
  | cons first rest ih =>
    rcases ih member with inside | later
    · rcases mem_insert inside with rfl | old
      · exact .inr List.mem_cons_self
      · exact .inl old
    · exact .inr (List.mem_cons_of_mem _ later)

theorem insertAllAppend (fields first more : Fields) :
    fields.insertAll (first ++ more) = (fields.insertAll first).insertAll more := by
  induction first generalizing fields with
  | nil => rfl
  | cons m rest ih => exact ih (fields.insert m.1 m.2)

theorem insertSomeAll (key : String) (value : Option Json) (fields : Fields) :
    fields.insertAll (value.toList.map fun v => (key, v)) = fields.insertSome key value := by
  cases value <;> rfl

theorem insertPerm {key : String} (value : Json) {fields : Fields}
    (absent : fields.get? key = none) : (fields.insert key value).Perm ((key, value) :: fields) := by
  induction fields with
  | nil => exact .refl _
  | cons m rest ih =>
    rw [get?] at absent
    split at absent
    · contradiction
    · rename_i other
      rw [insert]
      split
      · exact .refl _
      · rw [if_neg (Ne.symm other)]
        exact ((ih absent).cons m).trans (.swap (key, value) m rest)

end Fields

namespace Json

theorem Plain.deeper {depth more : Nat} {v : Json} (plain : Plain depth v) (less : depth ≤ more) :
    Plain more v := by
  induction plain generalizing more with
  | null => exact .null more
  | bool _ b => exact .bool more b
  | natural _ n => exact .natural more n
  | negative _ below => exact .negative more below
  | string _ s => exact .string more s
  | array each ih =>
    obtain ⟨more, rfl⟩ := Nat.exists_eq_add_of_le' (Nat.succ_pos _ |>.trans_le less)
    exact .array fun v member => ih v member (Nat.le_of_succ_le_succ less)
  | object ordered each ih =>
    obtain ⟨more, rfl⟩ := Nat.exists_eq_add_of_le' (Nat.succ_pos _ |>.trans_le less)
    exact .object ordered fun m member => ih m member (Nat.le_of_succ_le_succ less)

theorem Plain.ofMembers {depth : Nat} {members : Fields} (each : ∀ m ∈ members, Plain depth m.2) :
    Plain (depth + 1) (.ofMembers members) := by
  have blank : Fields.Ordered [] := trivial
  refine .object (Fields.orderedInsertAll blank members) fun m member => each m ?_
  exact (Fields.memInsertAll member).resolve_left nofun

theorem Plain.insert {depth : Nat} {fields : Fields} {value : Json} (key : String)
    (plain : Plain (depth + 1) (.object fields)) (inner : Plain depth value) :
    Plain (depth + 1) (.object (fields.insert key value)) := by
  obtain _ | _ | _ | _ | _ | _ | ⟨ordered, each⟩ := plain
  refine .object (Fields.ordered_insert key value fields ordered) fun m member => ?_
  rcases Fields.mem_insert member with rfl | old
  · exact inner
  · exact each m old

end Json

theorem WireFrame.jsonRead {v : Json} (plain : Json.Plain Json.maxDepth v) :
    (ofJson v).json? = some v :=
  Json.printParses plain

namespace Dialect

def envelope (action taskId : String) (payload : Fields) : Json :=
  .ofMembers
    [("header", .ofMembers
        [("action", .string action), ("task_id", .string taskId), ("streaming", .string "duplex")]),
     ("payload", .ofMembers payload)]

theorem envelopeRead (action taskId : String) {payload : Fields}
    (each : ∀ m ∈ payload, Json.Plain 125 m.2) :
    (WireFrame.ofJson (envelope action taskId payload)).json? =
      some (envelope action taskId payload) := by
  have header : ∀ m ∈ [("action", Json.string action), ("task_id", .string taskId),
      ("streaming", .string "duplex")], Json.Plain 125 m.2 := by
    simp [Json.Plain.string]
  have plain : Json.Plain 127 (envelope action taskId payload) :=
    .ofMembers (List.forall_mem_cons.mpr ⟨.ofMembers header,
      List.forall_mem_singleton.mpr (.ofMembers each)⟩)
  exact WireFrame.jsonRead plain

theorem actionEnvelope (action taskId : String) (input : Json) :
    Task.actionFrame action taskId input =
      .ofJson (envelope action taskId [("input", input)]) := by
  simp only [Task.actionFrame, Streaming.word, envelope, Json.ofMembers, Fields.ofList,
    Fields.insertAll, Fields.insert, String.reduceLT, String.reduceEq, ↓reduceIte]

end Dialect

theorem Request.inputFilled (r : Request) :
    r.inputOrEmpty = if r.input = .null then .empty else r.input := by
  unfold inputOrEmpty Json.isNull
  cases r.input <;> rfl

def Request.brings (r : Request) : Fields :=
  [("model", .string r.model), ("task_group", .string r.taskGroup), ("task", .string r.task),
   ("function", .string r.function), ("input", if r.input = .null then .empty else r.input),
   ("parameters", .object r.parameters)] ++ r.resources.toList.map fun value => ("resources", value)

structure Request.Plain (r : Request) : Prop where
  input : Json.Plain 125 r.input
  parameters : Json.Plain 125 (.object r.parameters)
  resources : ∀ value ∈ r.resources, Json.Plain 125 value

theorem Request.Plain.brings {r : Request} (plain : r.Plain) :
    ∀ m ∈ r.brings, Json.Plain 125 m.2 := by
  have filled : Json.Plain 125 (if r.input = .null then .empty else r.input) := by
    split
    · exact .object trivial nofun
    · exact plain.input
  have own : ∀ m ∈ r.resources.toList.map fun value => ("resources", value), Json.Plain 125 m.2 :=
    List.forall_mem_map.mpr fun value member => plain.resources value (Option.mem_toList.mp member)
  simp only [Request.brings, List.forall_mem_append, List.forall_mem_cons]
  exact ⟨⟨.string 125 _, .string 125 _, .string 125 _, .string 125 _, filled, plain.parameters, nofun⟩,
    own⟩

namespace Dialect

theorem runEnvelope (r : Request) (taskId : String) :
    { r with streaming := .duplex }.runTask taskId = envelope "run-task" taskId r.brings := by
  have whole : r.payload = .ofMembers r.brings := by
    rw [Json.ofMembers, Fields.ofList, Request.brings, Fields.insertAllAppend, Fields.insertSomeAll,
      Request.payload, Request.inputFilled]
    simp only [Fields.insertAll, Fields.insert, String.reduceLT, String.reduceEq, ↓reduceIte]
  have same : { r with streaming := .duplex }.payload = r.payload := rfl
  rw [Request.runTask, same, whole]
  simp only [envelope, Json.ofMembers, Fields.ofList, Fields.insertAll, Fields.insert,
    Streaming.word, String.reduceLT, String.reduceEq, ↓reduceIte]

theorem commandRead (taskId : String) {eventId : String} {v out : Json}
    (identified : Realtime.identified v eventId = out) (plain : Json.Plain 125 out) :
    (realtime.shape (.command v) taskId eventId).json? = some out := by
  subst identified
  exact WireFrame.jsonRead (plain.deeper (by decide))

theorem identifiedRead (taskId eventId : String) {fields : Fields}
    (plain : Json.Plain 125 (.object fields)) :
    let sent := (realtime.shape (.command (.object fields)) taskId eventId).json?
    (fields.get? "event_id" ≠ none → sent = some (.object fields)) ∧
    (fields.get? "event_id" = none → ∃ more : Fields, sent = some (.object more) ∧ more.Ordered ∧
      more.Perm (("event_id", .string eventId) :: fields)) := by
  intro sent
  cases own : fields.get? "event_id" with
  | some value =>
    have same : Realtime.identified (.object fields) eventId = .object fields := by
      rw [Realtime.identified, own]
    exact ⟨fun _ => commandRead taskId same plain, nofun⟩
  | none =>
    have added : Realtime.identified (.object fields) eventId =
        .object (fields.insert "event_id" (.string eventId)) := by
      rw [Realtime.identified, own]
    have identified : Json.Plain 125 (.object (fields.insert "event_id" (.string eventId))) :=
      plain.insert "event_id" (.string 124 eventId)
    refine ⟨fun absent => absurd rfl absent,
      fun _ => ⟨_, commandRead taskId added identified, ?_, Fields.insertPerm _ own⟩⟩
    cases identified with
    | object ordered each => exact ordered

end Dialect

theorem callerFramesRead (taskId eventId : String) :
    (∀ v, Json.Plain 125 v → (Dialect.task.shape (.command v) taskId eventId).json? =
      some (Dialect.envelope "continue-task" taskId [("input", v)])) ∧
    (Dialect.task.shape .stop taskId eventId).json? =
      some (Dialect.envelope "finish-task" taskId [("input", .empty)]) ∧
    (∀ r : Request, r.Plain → (Dialect.task.opening r taskId eventId).bind WireFrame.json? =
      some (Dialect.envelope "run-task" taskId r.brings)) ∧
    (∀ fields : Fields, Json.Plain 125 (.object fields) →
      let sent := (Dialect.realtime.shape (.command (.object fields)) taskId eventId).json?
      (fields.get? "event_id" ≠ none → sent = some (.object fields)) ∧
      (fields.get? "event_id" = none → ∃ more : Fields, sent = some (.object more) ∧ more.Ordered ∧
        more.Perm (("event_id", .string eventId) :: fields))) ∧
    (∀ v, Json.Plain 125 v → v.fields? = none →
      (Dialect.realtime.shape (.command v) taskId eventId).json? = some v) ∧
    ∀ bytes, Dialect.task.shape (.binary bytes) taskId eventId = .binary bytes ∧
      Dialect.realtime.shape (.binary bytes) taskId eventId = .binary bytes := by
  have acted (action : String) {v : Json} (plain : Json.Plain 125 v) :
      (Dialect.Task.actionFrame action taskId v).json? =
        some (Dialect.envelope action taskId [("input", v)]) := by
    rw [Dialect.actionEnvelope]
    exact Dialect.envelopeRead action taskId (List.forall_mem_singleton.mpr plain)
  refine ⟨fun v plain => acted "continue-task" plain, acted "finish-task" (.object trivial nofun),
    fun r plain => ?_, fun fields plain => Dialect.identifiedRead taskId eventId plain,
    fun v plain other => ?_, fun bytes => ⟨rfl, rfl⟩⟩
  · have opened : Dialect.task.opening r taskId eventId =
        some (.ofJson (Dialect.envelope "run-task" taskId r.brings)) :=
      congrArg (fun v => some (WireFrame.ofJson v)) (Dialect.runEnvelope r taskId)
    rw [opened, Option.bind_some]
    exact Dialect.envelopeRead "run-task" taskId plain.brings
  · have same : Dialect.Realtime.identified v eventId = v := by
      cases v with
      | object fields => cases other
      | null | bool b | number n | string s | array items => rfl
    exact Dialect.commandRead taskId same plain

def awkwardFields : Fields :=
  [("text", .string "\"\\\n\u0001é"), ("top", .natural 18446744073709551615)]

def awkwardRequest : Request :=
  { (Request.new "qwen").withEndpoint "audio" "asr" "recognition" with
    parameters := awkwardFields, resources := some .null, streaming := .out }

theorem awkwardFramesRead :
    Json.Plain 125 (.object awkwardFields) ∧ awkwardRequest.Plain ∧
    Json.Plain 125 (.object [("event_id", .null)]) ∧ Json.Plain 125 (.string "\n") ∧
    (Dialect.task.shape (.command (.object awkwardFields)) "t-1" "e-1").json? =
      some (Dialect.envelope "continue-task" "t-1" [("input", .object awkwardFields)]) ∧
    (Dialect.task.opening awkwardRequest "t-1" "e-1").bind WireFrame.json? =
      some (Dialect.envelope "run-task" "t-1" awkwardRequest.brings) ∧
    (∃ more : Fields,
      (Dialect.realtime.shape (.command (.object awkwardFields)) "t-1" "e-1").json? =
        some (.object more) ∧ more.Ordered ∧ more.Perm (("event_id", .string "e-1") :: awkwardFields)) ∧
    (Dialect.realtime.shape (.command (.object [("event_id", .null)])) "t-1" "e-1").json? =
      some (.object [("event_id", .null)]) ∧
    (Dialect.realtime.shape (.command (.string "\n")) "t-1" "e-1").json? = some (.string "\n") := by
  have plain : Json.Plain 125 (.object awkwardFields) :=
    .object ⟨List.forall_mem_singleton.mpr (show "text" < "top" by decide), nofun, trivial⟩
      (List.forall_mem_cons.mpr ⟨.string 124 _, List.forall_mem_singleton.mpr (.natural 124 _)⟩)
  have request : awkwardRequest.Plain :=
    ⟨.null 125, plain, fun value member => Option.some.inj member ▸ .null 125⟩
  have named : Json.Plain 125 (.object [("event_id", .null)]) :=
    .object ⟨nofun, trivial⟩ (List.forall_mem_singleton.mpr (.null 124))
  obtain ⟨commands, _, opens, objects, others, _⟩ := callerFramesRead "t-1" "e-1"
  exact ⟨plain, request, named, .string 125 _, commands _ plain, opens _ request,
    (objects _ plain).2 (by decide), (objects _ named).1 (by decide), others _ (.string 125 _) rfl⟩

end ModelServing
