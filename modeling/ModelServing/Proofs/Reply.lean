import ModelServing.Proofs.Usage
import ModelServing.Reply

/-! Which values are envelopes of a reply. An envelope gives its three fields by name, or by position with the
last ones left out; a value of which a field cannot be read is kept whole. -/
namespace ModelServing.Reply

def IsText (v : Json) (s : String) : Prop := v = .string s

def IsUsage (v : Json) (u : Usage) : Prop := ∃ fields : Fields, v = .object fields ∧ u.Reports fields

inductive Envelope : Json → Option String → Json → Option Usage → Prop where
  | object {fields : Fields} {requestId : Option String} {usage : Option Usage}
      (answers : Stated IsText (fields.get? "request_id") requestId)
      (costs : Stated IsUsage (fields.get? "usage") usage) :
      Envelope (.object fields) requestId ((fields.get? "output").getD .null) usage
  | array {items : List Json} {requestId : Option String} {usage : Option Usage}
      (few : items.length ≤ 3) (answers : Stated IsText items[0]? requestId)
      (costs : Stated IsUsage items[2]? usage) :
      Envelope (.array items) requestId (items[1]?.getD .null) usage

theorem Envelope.unique {v output result : Json} {requestId own : Option String}
    {usage spent : Option Usage} (one : Envelope v requestId output usage)
    (other : Envelope v own result spent) : requestId = own ∧ output = result ∧ usage = spent := by
  have texts (v : Json) (s t : String) (read : IsText v s) (also : IsText v t) : s = t := by
    cases read.symm.trans also
    rfl
  have usages (v : Json) (u w : Usage) : IsUsage v u → IsUsage v w → u = w := by
    rintro ⟨fields, rfl, reports⟩ ⟨_, same, also⟩
    cases same
    exact reports.unique also
  have text (s : String) : ¬IsText .null s := nofun
  have cost (u : Usage) : ¬IsUsage .null u := nofun
  cases one with
  | object answers costs =>
    cases other with
    | object others spends =>
      exact ⟨answers.unique others texts text, rfl, costs.unique spends usages cost⟩
  | array few answers costs =>
    cases other with
    | array _ others spends =>
      exact ⟨answers.unique others texts text, rfl, costs.unique spends usages cost⟩

theorem fieldsEnvelope (fields : Fields) (status : Option UInt16) :
    (∃ requestId usage, Stated IsText (fields.get? "request_id") requestId ∧
      Stated IsUsage (fields.get? "usage") usage ∧ ofEnvelopeFields? fields status =
        some ⟨requestId, none, none, status, .json ((fields.get? "output").getD .null), usage⟩) ∨
    ((∀ requestId usage, Stated IsText (fields.get? "request_id") requestId →
      ¬Stated IsUsage (fields.get? "usage") usage) ∧ ofEnvelopeFields? fields status = none) := by
  have text (v : Json) (s : String) : v.text? = some s ↔ IsText v s := by
    cases v <;> simp [Json.text?, IsText]
  have cost (v : Json) (u : Usage) (read : Usage.ofJson? v = some u) : IsUsage v u := by
    cases v with
    | object fields => exact ⟨fields, rfl, Usage.reported read⟩
    | _ => cases read
  have reports (v : Json) (u : Usage) : IsUsage v u → ∃ w, Usage.ofJson? v = some w := by
    rintro ⟨fields, rfl, reports⟩
    exact reports.read
  unfold ofEnvelopeFields?
  cases answered : fields.optional "request_id" Json.text? with
  | none =>
    refine .inr ⟨fun requestId usage answers _ => ?_, rfl⟩
    obtain ⟨own, taken⟩ := Fields.optionalTaken (fun v s is => ⟨s, (text v s).mpr is⟩) answers
    cases answered.symm.trans taken
  | some requestId =>
    have answers := Fields.optionalStates (fun v s => (text v s).mp) answered
    cases spent : fields.optional "usage" Usage.ofJson? with
    | none =>
      refine .inr ⟨fun requestId usage _ costs => ?_, rfl⟩
      obtain ⟨own, taken⟩ := Fields.optionalTaken reports costs
      cases spent.symm.trans taken
    | some usage => exact .inl ⟨requestId, usage, answers, Fields.optionalStates cost spent, rfl⟩

theorem positionsNamed {items : List Json} (few : items.length ≤ 3) :
    let fields : Fields := envelopeNames.zip items
    fields.get? "request_id" = items[0]? ∧ fields.get? "output" = items[1]? ∧
      fields.get? "usage" = items[2]? := by
  match items, few with
  | [], _ | [_], _ | [_, _], _ | [_, _, _], _ => exact ⟨rfl, rfl, rfl⟩

theorem recordNamed (fields : Fields) {name : String} (known : name ∈ envelopeNames) :
    Fields.get? name (fields.filter fun m => envelopeNames.contains m.1) = fields.get? name := by
  rw [Fields.getFilter (fun key => envelopeNames.contains key), if_pos (by simpa using known)]

def kept (v : Json) (status : Option UInt16) : Reply := ⟨none, none, none, status, .json v, none⟩

theorem ofRecord {v : Json} {fields : Fields} (record : v.record? envelopeNames = some fields)
    (status : Option UInt16) :
    ofEnvelope v status = (ofEnvelopeFields? fields status).getD (kept v status) := by
  rw [ofEnvelope, record]
  rfl

theorem ofOther {v : Json} (record : v.record? envelopeNames = none) (status : Option UInt16) :
    ofEnvelope v status = kept v status := by
  rw [ofEnvelope, record]
  rfl

theorem envelopeOrKept (v : Json) (status : Option UInt16) :
    (∃ requestId output usage, Envelope v requestId output usage ∧
      ofEnvelope v status = ⟨requestId, none, none, status, .json output, usage⟩) ∨
    ((∀ requestId output usage, ¬Envelope v requestId output usage) ∧
      ofEnvelope v status = kept v status) := by
  cases v with
  | object fields =>
    have record : (Json.object fields).record? envelopeNames =
      some (fields.filter fun m => envelopeNames.contains m.1) := rfl
    have whole := fieldsEnvelope (fields.filter fun m => envelopeNames.contains m.1) status
    rw [recordNamed fields (by decide), recordNamed fields (by decide),
      recordNamed fields (by decide)] at whole
    rw [ofRecord record]
    rcases whole with ⟨requestId, usage, answers, costs, made⟩ | ⟨unread, made⟩
    · exact .inl ⟨requestId, _, usage, .object answers costs, by rw [made]; rfl⟩
    · refine .inr ⟨?_, by rw [made]; rfl⟩
      rintro requestId output usage ⟨answers, costs⟩
      exact unread _ _ answers costs
  | array items =>
    by_cases few : items.length ≤ 3
    · have record : (Json.array items).record? envelopeNames = some (envelopeNames.zip items) := if_pos few
      obtain ⟨first, second, third⟩ := positionsNamed few
      have whole := fieldsEnvelope (envelopeNames.zip items) status
      rw [first, second, third] at whole
      rw [ofRecord record]
      rcases whole with ⟨requestId, usage, answers, costs, made⟩ | ⟨unread, made⟩
      · exact .inl ⟨requestId, _, usage, .array few answers costs, by rw [made]; rfl⟩
      · refine .inr ⟨?_, by rw [made]; rfl⟩
        rintro requestId output usage (_ | ⟨_, answers, costs⟩)
        exact unread _ _ answers costs
    · have record : (Json.array items).record? envelopeNames = none := if_neg few
      refine .inr ⟨?_, ofOther record status⟩
      rintro requestId output usage (_ | ⟨short, _, _⟩)
      exact few short
  | null | bool b | number n | string s => exact .inr ⟨nofun, rfl⟩

theorem envelopesRead (v : Json) (status : Option UInt16) :
    (∀ requestId output usage, Envelope v requestId output usage →
      ofEnvelope v status = ⟨requestId, none, none, status, .json output, usage⟩) ∧
    ((∀ requestId output usage, ¬Envelope v requestId output usage) →
      ofEnvelope v status = ⟨none, none, none, status, .json v, none⟩) := by
  rcases envelopeOrKept v status with ⟨_, _, _, envelope, made⟩ | ⟨other, made⟩
  · refine ⟨fun requestId output usage also => ?_, fun other => absurd envelope (other _ _ _)⟩
    obtain ⟨rfl, rfl, rfl⟩ := envelope.unique also
    exact made
  · exact ⟨fun requestId output usage envelope => absurd envelope (other _ _ _), fun _ => made⟩

theorem shortAndSpoiledRead :
    let short := Json.array [.string "r-1"]
    let spoiled := Json.object [("output", .null), ("usage", .object [("characters", .string "1")])]
    Envelope short (some "r-1") .null none ∧
    ofEnvelope short (some 200) = ⟨some "r-1", none, none, some 200, .json .null, none⟩ ∧
    (∀ requestId output usage, ¬Envelope spoiled requestId output usage) ∧
    ofEnvelope spoiled none = ⟨none, none, none, none, .json spoiled, none⟩ := by
  intro short spoiled
  have envelope : Envelope short (some "r-1") .null none := .array (by decide) (.value rfl) .absent
  have other : ∀ requestId output usage, ¬Envelope spoiled requestId output usage := by
    intro requestId output usage (envelope : Envelope (.object _) _ _ _)
    cases envelope with
    | object _ costs =>
      have costs : Stated IsUsage (some (.object [("characters", .string "1")])) usage := costs
      obtain _ | _ | ⟨_, same, reports⟩ := costs
      cases same
      have counter : ∃ n, Stated Usage.Counts (some (.string "1")) n := ⟨_, reports.characters⟩
      obtain ⟨_, _ | _ | counts⟩ := counter
      cases counts
  exact ⟨envelope, (envelopesRead short (some 200)).1 _ _ _ envelope, other,
    (envelopesRead spoiled none).2 other⟩

end ModelServing.Reply
