import ModelServing.Proofs.Json.Record
import ModelServing.Proofs.Reach

/-! What is learned from a response that is none of success: all that its body states, if the body is an error
record throughout, and otherwise the body as it is, whatever it states. -/
namespace ModelServing

namespace Fields
variable {fields : Fields} {key : String} {α : Type} {read : Json → Option α}

theorem optionalRead : (∃ x, fields.optional key read = some x) ↔
    ∀ v, fields.get? key = some v → v = .null ∨ ∃ a, read v = some a := by
  unfold optional
  cases fields.get? key with
  | none => simp
  | some v => cases v <;> simp

theorem optionalText {x : Option String} (taken : fields.optional key Json.text? = some x)
    (s : String) : x = some s ↔ fields.get? key = some (.string s) := by
  unfold optional at taken
  generalize fields.get? key = stated at taken ⊢
  cases stated with
  | none =>
    cases taken
    simp
  | some v =>
    cases v with
    | null =>
      cases taken
      simp
    | string own =>
      cases taken
      simp
    | _ => cases taken

theorem orElseRead {fallback : α} : (∃ x, fields.orElse key read fallback = some x) ↔
    ∀ v, fields.get? key = some v → ∃ a, read v = some a := by
  unfold orElse
  cases fields.get? key <;> simp

theorem orElseText {x : String} (taken : fields.orElse key Json.text? "" = some x) (s : String) :
    x = s ↔ fields.get? key = some (.string s) ∨ s = "" ∧ ∀ v, fields.get? key ≠ some v := by
  unfold orElse at taken
  generalize fields.get? key = stated at taken ⊢
  cases stated with
  | none =>
    cases taken
    simp [eq_comm]
  | some v =>
    cases v with
    | string own =>
      cases taken
      simp
    | _ => cases taken

end Fields

theorem Json.textRead (v : Json) : (∃ s, v.text? = some s) ↔ ∃ s, v = .string s := by
  cases v <;> simp [Json.text?]

theorem Json.natural16Read (v : Json) :
    (∃ n, v.natural16? = some n) ↔ ∃ n, v = .natural n ∧ n.toNat < UInt16.size := by
  constructor
  · rintro ⟨n, read⟩
    obtain ⟨m, natural, read⟩ := Option.bind_eq_some_iff.mp read
    split at read
    · rename_i small
      cases v with
      | number x =>
        cases x with
        | natural k =>
          cases natural
          exact ⟨_, rfl, small⟩
        | negative _ | double _ => cases natural
      | _ => cases natural
    · cases read
  · rintro ⟨n, rfl, small⟩
    exact ⟨n.toUInt16, if_pos small⟩

namespace ApiError

structure Fits (states : String → Json → Prop) : Prop where
  status : ∀ v, states "status_code" v → v = .null ∨ ∃ n, v = .natural n ∧ n.toNat < UInt16.size
  code : ∀ v, states "code" v → v = .null ∨ ∃ s, v = .string s
  message : ∀ v, states "message" v → ∃ s, v = .string s
  requestId : ∀ v, states "request_id" v → v = .null ∨ ∃ s, v = .string s

structure Tells (states : String → Json → Prop) (e : ApiError) : Prop where
  code : ∀ s, e.code = some s ↔ states "code" (.string s)
  requestId : ∀ s, e.requestId = some s ↔ states "request_id" (.string s)
  message : ∀ s, e.message = s ↔
    states "message" (.string s) ∨ s = "" ∧ ∀ v, ¬states "message" v

section
variable {fields : Fields} {states : String → Json → Prop}
  (stated : ∀ name ∈ fieldNames, ∀ v, fields.get? name = some v ↔ states name v)
include stated

theorem fieldsRead : (∃ e, ofFields? fields = some e) ↔ Fits states := by
  have whole : (∃ e, ofFields? fields = some e) ↔
      (∃ x, fields.optional "status_code" Json.natural16? = some x) ∧
      (∃ x, fields.optional "code" Json.text? = some x) ∧
      (∃ x, fields.orElse "message" Json.text? "" = some x) ∧
      ∃ x, fields.optional "request_id" Json.text? = some x := by
    simp only [ofFields?, Option.bind_eq_bind, Option.bind_eq_some_iff]
    constructor
    · rintro ⟨_, status, a, code, b, message, c, requestId, d, _⟩
      exact ⟨⟨status, a⟩, ⟨code, b⟩, ⟨message, c⟩, ⟨requestId, d⟩⟩
    · rintro ⟨⟨status, a⟩, ⟨code, b⟩, ⟨message, c⟩, ⟨requestId, d⟩⟩
      exact ⟨_, status, a, code, b, message, c, requestId, d, rfl⟩
  rw [whole, Fields.optionalRead, Fields.optionalRead, Fields.orElseRead, Fields.optionalRead]
  simp only [stated _ (by decide : "status_code" ∈ fieldNames), stated _ (by decide : "code" ∈ fieldNames),
    stated _ (by decide : "message" ∈ fieldNames), stated _ (by decide : "request_id" ∈ fieldNames),
    Json.textRead, Json.natural16Read]
  exact ⟨fun ⟨a, b, c, d⟩ => ⟨a, b, c, d⟩, fun ⟨a, b, c, d⟩ => ⟨a, b, c, d⟩⟩

theorem fieldsTold {e : ApiError} (read : ofFields? fields = some e) : e.Tells states := by
  simp only [ofFields?, Option.bind_eq_bind, Option.bind_eq_some_iff] at read
  obtain ⟨status, _, code, ofCode, message, ofMessage, requestId, ofRequest, same⟩ := read
  cases same
  refine ⟨fun s => ?_, fun s => ?_, fun s => ?_⟩
  · exact (Fields.optionalText ofCode s).trans (stated "code" (by decide) _)
  · exact (Fields.optionalText ofRequest s).trans (stated "request_id" (by decide) _)
  · simp only [← stated "message" (by decide)]
    exact Fields.orElseText ofMessage s

end

def stated (t : Json.Tree) : String → Json → Prop := t.States fieldNames (Json.maxDepth - 1)

structure Legible (t : Json.Tree) : Prop where
  record : t.IsRecord fieldNames (Json.maxDepth - 1)
  fits : Fits (stated t)

theorem recordLegible {t : Json.Tree} :
    (∃ e, (t.record? fieldNames (Json.maxDepth - 1)).bind ofFields? = some e) ↔ Legible t := by
  simp only [Option.bind_eq_some_iff]
  constructor
  · rintro ⟨e, fields, record, read⟩
    have same := fun name (known : name ∈ fieldNames) => Json.recordStates (by decide) record known
    exact ⟨(Json.recordRead t).mp ⟨fields, record⟩, (fieldsRead same).mp ⟨e, read⟩⟩
  · rintro ⟨record, fits⟩
    obtain ⟨fields, record⟩ := (Json.recordRead t).mpr record
    have same := fun name (known : name ∈ fieldNames) => Json.recordStates (by decide) record known
    obtain ⟨e, read⟩ := (fieldsRead same).mpr fits
    exact ⟨e, fields, record, read⟩

theorem recordTold {t : Json.Tree} {e : ApiError}
    (read : (t.record? fieldNames (Json.maxDepth - 1)).bind ofFields? = some e) :
    e.Tells (stated t) := by
  obtain ⟨fields, record, read⟩ := Option.bind_eq_some_iff.mp read
  exact fieldsTold (fun name known => Json.recordStates (by decide) record known) read

theorem textRead {text : String} {t : Json.Tree} (parsed : Json.Tree.ofChars? text.toList = some t) :
    ofText? text = (t.record? fieldNames (Json.maxDepth - 1)).bind ofFields? := by
  rw [ofText?, Json.recordOfText?, parsed]
  rfl

end ApiError

namespace Rest

structure Told (text reason : String) (e : ApiError) : Prop where
  legible : ∀ t, Json.Tree.ofChars? text.toList = some t → ApiError.Legible t → e.Tells (ApiError.stated t)
  illegible : (∀ t, Json.Tree.ofChars? text.toList = some t → ¬ApiError.Legible t) →
    e.code = none ∧ e.requestId = none ∧ e.message = if text = "" then reason else text

theorem refusalTells (response : Http.Response) :
    Told response.text ((Http.reason? response.status).getD "request failed") (refusal response) := by
  rw [refusal]
  generalize response.text = text
  constructor
  · intro t parsed legible
    obtain ⟨e, read⟩ := ApiError.recordLegible.mpr legible
    obtain ⟨code, requestId, message⟩ := ApiError.recordTold read
    rw [ApiError.textRead parsed, read]
    exact ⟨code, requestId, message⟩
  · intro illegible
    have unread : ApiError.ofText? text = none := by
      cases parsed : Json.Tree.ofChars? text.toList with
      | none => rw [ApiError.ofText?, Json.recordOfText?, parsed]; rfl
      | some t =>
        rw [ApiError.textRead parsed, Option.eq_none_iff_forall_ne_some]
        exact fun e read => illegible t parsed (ApiError.recordLegible.mp ⟨e, read⟩)
    rw [unread]
    refine ⟨rfl, rfl, ?_⟩
    by_cases empty : text = ""
    · rw [if_pos empty, empty]
      rfl
    · rw [if_neg empty]
      exact if_neg (by simpa using empty)

section
variable {σ : Type} {exchange : Exchange σ} {response : Http.Response} {s s' : σ}

def Answered (exchange : Exchange σ) (response : Http.Response) (s s' : σ)
    (message : Except Error Http.Message) : Prop :=
  ∃ m, message = .ok m ∧ exchange m s = (some response, s')

theorem performAnswered {α : Type} {message : Except Error Http.Message}
    (answered : Answered exchange response s s' message) (read : Http.Response → Except Error α) :
    perform exchange message read s = (read response, s') := by
  obtain ⟨m, made, answer⟩ := answered
  subst made
  simp only [perform, answer]

theorem checkRefuses (failed : Http.isSuccess response.status = false) :
    check response = .error (.api (refusal response)) := by
  rw [check, failed]
  rfl

end

theorem refusalTold (response : Http.Response) (failed : Http.isSuccess response.status = false) :
    ∃ e : ApiError, e.status = some response.status ∧
      Told response.text ((Http.reason? response.status).getD "request failed") e ∧
      ∀ {σ : Type} (exchange : Exchange σ) (c : Config) (s s' : σ),
        (∀ r, Answered exchange response s s' (serviceMessage c r) →
          call exchange c r s = (.error (.api e), s')) ∧
        (∀ r, Answered exchange response s s' (streamMessage c r) →
          stream exchange c r s = (.error (.api e), s')) ∧
        (∀ r, Answered exchange response s s' (serviceMessage c { r with isAsync := true }) →
          submit exchange c r s = (.error (.api e), s')) ∧
        (∀ taskId as, Answered exchange response s s' (fetchMessage c taskId as) →
          fetch exchange c taskId as s = (.error (.api e), s')) ∧
        (∀ taskId as, Answered exchange response s s' (cancelMessage c taskId as) →
          cancel exchange c taskId as s = (.error (.api e), s')) ∧
        ∀ q as, Answered exchange response s s' (listMessage c q as) →
          list exchange c q as s = (.error (.api e), s') := by
  have checked := checkRefuses failed
  have reply : readReply response = .error (.api (refusal response)) := by
    rw [readReply, checked]
    rfl
  have page : readPage response = .error (.api (refusal response)) := by
    rw [readPage, checked]
    rfl
  have streamed : readStream response = .error (.api (refusal response)) := by
    rw [readStream, checked]
    rfl
  refine ⟨refusal response, rfl, refusalTells response, fun exchange c s s' => ?_⟩
  have replies {message : Except Error Http.Message}
      (answered : Answered exchange response s s' message) :
      perform exchange message readReply s = (.error (.api (refusal response)), s') := by
    rw [performAnswered answered, reply]
  refine ⟨fun r => replies, fun r answered => ?_, fun r => replies, fun _ _ => replies,
    fun _ _ => replies, fun q as answered => ?_⟩
  · rw [stream, performAnswered answered, streamed]
  · rw [list, performAnswered answered, page]

def refused (body : String) : Http.Response := ⟨401, [Text.Utf8.ofString body]⟩

def always (response : Http.Response) : Exchange Nat := fun _ asked => (some response, asked + 1)

def unknownKey : Http.Response := refused <|
  "\x7b\"trace\":[1e999],\"code\":\"InvalidApiKey\",\"status_code\":null,\"message\":\"no key\"," ++
    "\"request_id\":\"r-1\"\x7d"

theorem unknownKeyTold :
    Http.isSuccess unknownKey.status = false ∧
    call (always unknownKey) localConfig textRequest 0 =
      (.error (.api ⟨some 401, some "InvalidApiKey", "no key", some "r-1"⟩), 1) := by
  have failed : Http.isSuccess unknownKey.status = false := by decide
  obtain ⟨m, made, _⟩ : ∃ m, serviceMessage localConfig textRequest = .ok m ∧ true = true :=
    readIs (p := fun _ => true) (by decide +kernel)
  have parsed : ((Json.Tree.ofChars? unknownKey.text.toList).any fun t => decide
      ((t.record? ApiError.fieldNames (Json.maxDepth - 1)).bind ApiError.ofFields? =
        some ⟨none, some "InvalidApiKey", "no key", some "r-1"⟩)) = true := by
    decide +kernel
  obtain ⟨t, parsed, read⟩ := (Option.any_eq_true _ _).mp parsed
  have read := of_decide_eq_true read
  have stated := ApiError.recordTold read
  obtain ⟨e, status, told, answers⟩ := refusalTold unknownKey failed
  have tells := told.legible t parsed (ApiError.recordLegible.mp ⟨_, read⟩)
  have code := (tells.code _).mpr ((stated.code _).mp rfl)
  have requestId := (tells.requestId _).mpr ((stated.requestId _).mp rfl)
  have message := (tells.message _).mpr ((stated.message _).mp rfl)
  refine ⟨failed, ((answers (always unknownKey) localConfig 0 1).1 textRequest ⟨m, made, rfl⟩).trans ?_⟩
  obtain ⟨ownStatus, ownCode, ownMessage, ownRequest⟩ := e
  change ownStatus = some 401 at status
  dsimp only at code requestId message
  rw [status, code, requestId, message]

def nullMessage : String :=
  "\x7b\"code\":\"InvalidApiKey\",\"message\":null,\"request_id\":\"r-1\"\x7d"

theorem nullMessageLoses :
    Json.parse? nullMessage = some (.object [("code", .string "InvalidApiKey"), ("message", .null),
      ("request_id", .string "r-1")]) ∧
    call (always (refused nullMessage)) localConfig textRequest 0 =
      (.error (.api ⟨some 401, none, nullMessage, none⟩), 1) := by
  decide +kernel

end Rest

end ModelServing
