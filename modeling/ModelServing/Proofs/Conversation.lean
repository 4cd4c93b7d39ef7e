import ModelServing.Conversation
import ModelServing.Proofs.Dialect.Envelope
import ModelServing.Proofs.Session.Informed
import ModelServing.Proofs.Text.Base64

/-! Media in a conversation. As long as the session takes frames, each command that brings octets puts one
message in, behind all before it, and whoever reads the message finds the octets that were given. -/
namespace ModelServing.Conversation

open Session (Setup Trace Sound)

inductive Medium where
  | audio
  | image
  deriving DecidableEq

namespace Medium

def kind : Medium → String
  | audio => "input_audio_buffer.append"
  | image => "input_image_buffer.append"

def field : Medium → String
  | audio => "audio"
  | image => "image"

def message (m : Medium) (eventId : String) (bytes : Bytes) : Json :=
  Dialect.Realtime.command m.kind eventId (some (m.field, Command.media bytes))

def octets? (m : Medium) (message : Json) : Option Bytes :=
  if message.textAt? "type" = some m.kind then
    (message.textAt? m.field).bind fun text => Text.Base64.decode text.toList
  else none

structure Conveys (setup : Setup) (m : Medium) (eventId : String) (bytes : Bytes) (message : Json) :
    Prop where
  named : message.textAt? "event_id" = some eventId
  octets : m.octets? message = some bytes
  only : ∀ key, key ∉ ["event_id", "type", m.field] → message.get? key = none
  sent : ∀ generation used, (setup.shaped generation used (.command message)).json? = some message

end Medium

inductive Deed where
  | give (command : Command)
  | act (action : Session.Action)

namespace Deed

def media? : Deed → Option (Medium × Bytes)
  | .give (.appendAudio audio) => some (.audio, audio)
  | .give (.appendVideo image) => some (.image, image)
  | _ => none

def octets? (m : Medium) (d : Deed) : Option Bytes :=
  d.media?.bind fun given => if given.1 = m then some given.2 else none

def isFilled (d : Deed) : Bool := d.media?.any fun given => given.2 ≠ []

end Deed

def isWelcoming (c : Conversation) : Bool :=
  !c.session.core.run.refuses && c.session.core.run.hasRoom

def perform (c : Conversation) (setup : Setup) : Deed → Answer
  | .give command => c.give setup command
  | .act action =>
    let step := c.session.act setup action
    ⟨{ c with session := step.session }, step.result, step.trace⟩

def accepts (c : Conversation) (setup : Setup) : Deed → Option Frame
  | .give command =>
    (command.frame? (setup.ids.command c.commands)).bind fun f => c.session.accepts setup (.send f)
  | .act action => c.session.accepts setup action

structure Entry where
  before : Conversation
  deed : Deed
  answer : Answer
  accepted : Option Frame

namespace Entry

def log (e : Entry) : List (Nat × Frame) :=
  e.accepted.toList.map (e.before.session.core.generation, ·)

def decoded? (m : Medium) (e : Entry) : Option Bytes :=
  match e.deed.octets? m, e.accepted with
  | some _, some (.command message) => m.octets? message
  | _, _ => none

end Entry

def enter (c : Conversation) (setup : Setup) (d : Deed) : Entry :=
  ⟨c, d, c.perform setup d, c.accepts setup d⟩

def ledger (c : Conversation) (setup : Setup) : List Deed → List Entry
  | [] => []
  | d :: rest => c.enter setup d :: (c.perform setup d).conversation.ledger setup rest

def after (c : Conversation) (setup : Setup) : List Deed → Conversation
  | [] => c
  | d :: rest => (c.perform setup d).conversation.after setup rest

section
variable {setup : Setup} {c : Conversation}

theorem messageGet (m : Medium) (eventId : String) (bytes : Bytes) (key : String) :
    (m.message eventId bytes).get? key =
      if m.field = key then some (Command.media bytes)
      else if "event_id" = key then some (.string eventId)
      else if "type" = key then some (.string m.kind) else none := by
  rw [Medium.message, Dialect.Realtime.command, Json.get?, Fields.get?_insert]
  rfl

theorem messagePlain (m : Medium) (eventId : String) (bytes : Bytes) :
    Json.Plain 125 (m.message eventId bytes) := by
  have named : Json.Plain 125 (.object [("event_id", .string eventId), ("type", .string m.kind)]) :=
    .object ⟨List.forall_mem_singleton.mpr (show "event_id" < "type" by decide), nofun, trivial⟩
      (List.forall_mem_cons.mpr ⟨.string 124 _, List.forall_mem_singleton.mpr (.string 124 _)⟩)
  exact named.insert m.field (.string 124 _)

theorem messageOctets (m : Medium) (eventId : String) (bytes : Bytes) :
    m.octets? (m.message eventId bytes) = some bytes := by
  have other : m.field ≠ "type" := by cases m <;> decide
  have typed : (m.message eventId bytes).textAt? "type" = some m.kind := by
    rw [Json.textAt?, messageGet, if_neg other]
    rfl
  have written : (m.message eventId bytes).textAt? m.field =
      some (String.ofList (Text.Base64.encode bytes)) := by
    rw [Json.textAt?, messageGet, if_pos rfl]
    rfl
  rw [Medium.octets?, if_pos typed, written, Option.bind_some, String.toList_ofList]
  exact Text.Base64.decodeEncoded bytes

-- It has an identifier of its own, so it gets no other on its way out.
theorem messageSent (m : Medium) (eventId : String) (bytes : Bytes) (taskId spareId : String) :
    (Dialect.realtime.shape (.command (m.message eventId bytes)) taskId spareId).json? =
      some (m.message eventId bytes) := by
  have other : m.field ≠ "event_id" := by cases m <;> decide
  have named := messageGet m eventId bytes "event_id"
  rw [if_neg other, if_pos rfl] at named
  refine (Dialect.identifiedRead taskId spareId (messagePlain m eventId bytes)).1 fun absent => ?_
  exact nomatch named.symm.trans absent

theorem messageConveys (realtime : setup.dialect = .realtime) (m : Medium) (eventId : String)
    (bytes : Bytes) : m.Conveys setup eventId bytes (m.message eventId bytes) where
  named := by
    have other : m.field ≠ "event_id" := by cases m <;> decide
    rw [Json.textAt?, messageGet, if_neg other, if_pos rfl]
    rfl
  octets := messageOctets m eventId bytes
  only key absent := by
    simp only [List.mem_cons, List.not_mem_nil, or_false, not_or] at absent
    obtain ⟨event, kind, field⟩ := absent
    rw [messageGet, if_neg (Ne.symm field), if_neg (Ne.symm event), if_neg (Ne.symm kind)]
  sent generation used := by
    rw [Session.Setup.shaped, realtime]
    exact messageSent m eventId bytes _ _

theorem blankSilent {command : Command} {m : Medium}
    (given : (Deed.give command).media? = some (m, [])) (eventId : String) :
    command.frame? eventId = none := by
  cases command <;> cases given <;> rfl

theorem filledFramed {command : Command} {m : Medium} {bytes : Bytes}
    (given : (Deed.give command).media? = some (m, bytes)) (some_ : bytes ≠ []) (eventId : String) :
    command.frame? eventId = some (.command (m.message eventId bytes)) := by
  cases bytes with
  | nil => contradiction
  | cons b rest => cases command <;> cases given <;> rfl

theorem performSound {trace : Trace} {log : List (Nat × Frame)}
    (sound : Sound setup c.session trace log) (d : Deed) :
    Sound setup (c.perform setup d).conversation.session (trace ++ (c.perform setup d).trace)
      (log ++ (c.enter setup d).log) := by
  cases d with
  | give command =>
    simp only [perform, give, Entry.log, enter, accepts]
    cases command.frame? (setup.ids.command c.commands) with
    | none =>
      simp only [Option.bind_none, Option.toList_none, List.map_nil, List.append_nil]
      exact sound
    | some f => exact sound.act (.send f)
  | act action => exact sound.act action

theorem welcomeTakes (c : Conversation) (f : Frame) :
    c.isWelcoming = true ↔ ∃ launch, (c.session.core.run.enqueue f).2 = .ok launch := by
  rw [isWelcoming, Bool.and_eq_true, Bool.not_eq_true']
  exact ⟨fun ⟨willing, room⟩ => Session.Run.roomTakes willing room f,
    fun ⟨_, taken⟩ => Session.Run.takenRoom taken⟩

theorem sendTold (setup : Setup) (c : Conversation) (f : Frame) :
    let result := (c.session.act setup (.send f)).result
    let accepted := c.session.accepts setup (.send f)
    if c.isWelcoming then result = .ok () ∧ accepted = some f
    else (∃ e, result = .error e) ∧ accepted = none := by
  intro result accepted
  have welcome := c.welcomeTakes f
  have admitted : accepted = Session.admitted f (c.session.core.run.enqueue f).2 :=
    Session.acceptsSend c.session setup f
  have attempted : result = (c.session.attempt setup (c.session.core.send f)).result := rfl
  simp only [Session.Core.send] at attempted
  cases told : (c.session.core.run.enqueue f).2 with
  | ok launch =>
    rw [told] at welcome admitted attempted
    rw [if_pos (welcome.mpr ⟨launch, rfl⟩)]
    exact ⟨attempted, admitted⟩
  | error e =>
    rw [told] at welcome admitted attempted
    have unwelcome : ¬ c.isWelcoming = true := by
      intro taken
      obtain ⟨launch, same⟩ := welcome.mp taken
      cases same
    rw [if_neg unwelcome]
    exact ⟨⟨e, attempted⟩, admitted⟩

theorem blankGiven {d : Deed} {m : Medium} (given : d.media? = some (m, [])) :
    c.perform setup d = ⟨c, .ok (), []⟩ ∧ c.accepts setup d = none := by
  cases d with
  | act action => cases given
  | give command =>
    have silent := blankSilent given (setup.ids.command c.commands)
    simp only [perform, give, accepts, silent, Option.bind_none, and_self]

theorem filledGiven (realtime : setup.dialect = .realtime) {d : Deed} {m : Medium} {bytes : Bytes}
    (given : d.media? = some (m, bytes)) (some_ : bytes ≠ []) :
    if c.isWelcoming then
      (c.perform setup d).result = .ok () ∧ ∃ message, c.accepts setup d = some (.command message) ∧
        m.Conveys setup (setup.ids.command c.commands) bytes message
    else (∃ e, (c.perform setup d).result = .error e) ∧ c.accepts setup d = none := by
  cases d with
  | act action => cases given
  | give command =>
    have framed := filledFramed given some_ (setup.ids.command c.commands)
    have told := sendTold setup c (.command (m.message (setup.ids.command c.commands) bytes))
    simp only [perform, give, accepts, framed, Option.bind_some]
    split
    · rename_i welcome
      rw [if_pos welcome] at told
      exact ⟨told.1, _, told.2, messageConveys realtime m _ bytes⟩
    · rename_i unwelcome
      rw [if_neg unwelcome] at told
      exact told

theorem enterDecoded (realtime : setup.dialect = .realtime) {d : Deed}
    (welcome : d.isFilled = true → c.isWelcoming = true) (m : Medium) :
    (c.enter setup d).decoded? m = (d.octets? m).filter (· ≠ []) := by
  cases given : d.media? with
  | none => simp [enter, Entry.decoded?, Deed.octets?, given]
  | some medium =>
    obtain ⟨own, bytes⟩ := medium
    by_cases same : own = m
    · subst same
      have brought : d.octets? own = some bytes := by simp [Deed.octets?, given]
      by_cases blank : bytes = []
      · subst blank
        have nothing : c.accepts setup d = none := (blankGiven given).2
        simp [enter, Entry.decoded?, brought, nothing, Option.filter]
      · have filled : d.isFilled = true := by simp [Deed.isFilled, given, blank]
        have told := filledGiven (c := c) realtime given blank
        rw [if_pos (welcome filled)] at told
        obtain ⟨_, message, accepted, conveys⟩ := told
        simp [enter, Entry.decoded?, brought, accepted, conveys.octets, Option.filter, blank]
    · simp [enter, Entry.decoded?, Deed.octets?, given, same]

theorem afterSound {trace : Trace} {log : List (Nat × Frame)}
    (sound : Sound setup c.session trace log) (deeds : List Deed) :
    Sound setup (c.after setup deeds).session
      (trace ++ (c.ledger setup deeds).flatMap (·.answer.trace))
      (log ++ (c.ledger setup deeds).flatMap Entry.log) := by
  induction deeds generalizing c trace log with
  | nil =>
    rw [ledger, List.flatMap_nil, List.flatMap_nil, List.append_nil, List.append_nil]
    exact sound
  | cons d rest ih =>
    have whole := ih (performSound sound d)
    rwa [List.append_assoc, List.append_assoc] at whole

theorem ledgerDeeds (deeds : List Deed) : (c.ledger setup deeds).map Entry.deed = deeds := by
  induction deeds generalizing c with
  | nil => rfl
  | cons d rest ih => exact congrArg (d :: ·) ih

theorem ledgerEntered {deeds : List Deed} {e : Entry} (member : e ∈ c.ledger setup deeds) :
    e = e.before.enter setup e.deed := by
  induction deeds generalizing c with
  | nil => contradiction
  | cons d rest ih =>
    rcases List.mem_cons.mp member with rfl | later
    · rfl
    · exact ih later

theorem ledgerDecoded (realtime : setup.dialect = .realtime) {deeds : List Deed}
    (welcome : ∀ e ∈ c.ledger setup deeds, e.deed.isFilled = true → e.before.isWelcoming = true)
    (m : Medium) : (c.ledger setup deeds).filterMap (Entry.decoded? m) =
      (deeds.filterMap (Deed.octets? m)).filter (· ≠ []) := by
  rw [List.filter_filterMap]
  induction deeds generalizing c with
  | nil => rfl
  | cons d rest ih =>
    have first := enterDecoded (c := c) realtime (d := d) (welcome _ List.mem_cons_self) m
    have others := ih fun e member => welcome e (List.mem_cons_of_mem _ member)
    rw [ledger, List.filterMap_cons, List.filterMap_cons, first, others]

end

/-- Blanks never reach the session, whatever its state. Other media are refused by a session that takes no
frames at all, and by no other. -/
theorem mediaArrive (setup : Setup) (realtime : setup.dialect = .realtime) (deeds : List Deed) :
    let ledger := new.ledger setup deeds
    let s := (new.after setup deeds).session
    let accepted := ledger.flatMap Entry.log
    let trace : Trace := ledger.flatMap (·.answer.trace)
    ledger.map Entry.deed = deeds ∧
    (∀ e ∈ ledger, ∀ m, e.deed.media? = some (m, []) →
      e.answer = ⟨e.before, .ok (), []⟩ ∧ e.accepted = none) ∧
    (∀ e ∈ ledger, ∀ m bytes, e.deed.media? = some (m, bytes) → bytes ≠ [] →
      if e.before.isWelcoming then
        e.answer.result = .ok () ∧ ∃ message, e.accepted = some (.command message) ∧
          m.Conveys setup (setup.ids.command e.before.commands) bytes message
      else (∃ error, e.answer.result = .error error) ∧ e.accepted = none) ∧
    ((∀ e ∈ ledger, e.deed.isFilled = true → e.before.isWelcoming = true) → ∀ m,
      let decoded := ledger.filterMap (Entry.decoded? m)
      let given := deeds.filterMap (Deed.octets? m)
      decoded = given.filter (· ≠ []) ∧ decoded.flatten = given.flatten) ∧
    ∀ n c, s.couriers[n]? = some c →
      setup.Carried c.generation (entriesOf accepted c.generation) (trace.sends n) ∧
      (s.core.isLive c.generation = true → s.core.run.sink ≠ .absent → c.isAtRest s.core = true →
        trace.sends n = setup.wire c.generation (entriesOf accepted c.generation)) := by
  intro ledger s accepted trace
  have sound : Sound setup s trace accepted := by
    have whole := afterSound (c := new) (Session.soundNew setup) deeds
    rwa [List.nil_append, List.nil_append] at whole
  have entered {e : Entry} (member : e ∈ ledger) : e = e.before.enter setup e.deed :=
    ledgerEntered member
  refine ⟨ledgerDeeds deeds, fun e member m given => ?_, fun e member m bytes given some_ => ?_,
    fun welcome m => ?_, fun n c found => ?_⟩
  · rw [entered member]
    exact blankGiven given
  · rw [entered member]
    exact filledGiven realtime given some_
  · have decoded := ledgerDecoded realtime welcome m
    refine ⟨decoded, ?_⟩
    rw [decoded, List.flatten_filter_ne_nil]
  · have serves := sound.serves n c found
    exact ⟨serves.carried, fun live sink rest => serves.complete live sink rest⟩

def loungeSetup : Setup :=
  ⟨.realtime, .conversation "qwen-omni-turbo-realtime" [], "", [],
    ⟨fun _ => "", fun _ _ => "", fun _ => "", fun _ => ""⟩⟩

def restlessDeeds : List Deed :=
  [.give (.appendAudio []), .give (.appendAudio [0x00]), .act (.wake 0 .connected),
    .act (.wake 0 .onward), .give (.appendVideo [0xFF, 0xD8]), .act (.wake 0 .outbound),
    .give (.raw (.object [("audio", .string "?"), ("type", .string "input_audio_buffer.append")])),
    .give (.appendAudio [0x01, 0x02, 0x03, 0x04]), .act .stop, .give .commit, .give (.appendAudio [])]

theorem restlessMediaArrive :
    let ledger := new.ledger loungeSetup restlessDeeds
    loungeSetup.dialect = .realtime ∧
    (∀ e ∈ ledger, e.deed.isFilled = true → e.before.isWelcoming = true) ∧
    ledger.filterMap (Entry.decoded? .audio) = [[0x00], [0x01, 0x02, 0x03, 0x04]] ∧
    ledger.filterMap (Entry.decoded? .image) = [[0xFF, 0xD8]] := by
  have welcome : ∀ e ∈ new.ledger loungeSetup restlessDeeds,
      e.deed.isFilled = true → e.before.isWelcoming = true := by
    decide
  obtain ⟨_, _, _, decoded, _⟩ := mediaArrive loungeSetup rfl restlessDeeds
  exact ⟨rfl, welcome, (decoded welcome .audio).1.trans (by decide),
    (decoded welcome .image).1.trans (by decide)⟩

end ModelServing.Conversation
