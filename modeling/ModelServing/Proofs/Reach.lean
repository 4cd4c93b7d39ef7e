import ModelServing.Dialect.Realtime
import ModelServing.Proofs.Task.Account
import ModelServing.Proofs.Url.Base
import ModelServing.Route
import ModelServing.Session.Courier

/-! Which requests reach the service. Each way in asks for the fields it needs, for a key and for headers
that can be written, and refuses a request that lacks one before anything is asked of a transport or
sent; a request that lacks none is sent, or connected for. -/
namespace ModelServing

def Request.taskFields (r : Request) : List (String × String) :=
  [("model", r.model), ("task_group", r.taskGroup), ("task", r.task), ("function", r.function)]

def firstBlank (fields : List (String × String)) : Option String :=
  (fields.find? fun field => Text.isBlank field.2).map (·.1)

def demandFields (fields : List (String × String)) : Except Error Unit :=
  match firstBlank fields with
  | some name => .error (.inputRequired (name ++ " is required"))
  | none => .ok ()

theorem demandNext (name value : String) (rest : List (String × String)) :
    demandFields ((name, value) :: rest) =
      (Request.require name value >>= fun _ => demandFields rest) := by
  unfold demandFields firstBlank Request.require
  rw [List.find?_cons]
  cases Text.isBlank value <;> rfl

theorem modelDemanded (r : Request) : r.validate = demandFields [("model", r.model)] := by
  rw [demandNext, Request.validate]
  cases Request.require "model" r.model <;> rfl

theorem taskDemanded (r : Request) : r.validateEndpoint = demandFields r.taskFields := by
  unfold Request.validateEndpoint Request.taskFields Request.validate
  rw [demandNext, demandNext, demandNext, demandNext]
  cases Request.require "model" r.model with
  | error e => rfl
  | ok _ =>
    cases Request.require "task_group" r.taskGroup with
    | error e => rfl
    | ok _ =>
      cases Request.require "task" r.task with
      | error e => rfl
      | ok _ => cases Request.require "function" r.function <;> rfl

namespace Config
variable {c : Config} {r : Request}

def keyFor (c : Config) (r : Request) : Option String :=
  (nonEmpty r.apiKey).orElse fun _ => nonEmpty c.apiKey

def workspaceFor (c : Config) (r : Request) : Option String :=
  r.workspace.orElse fun _ => c.workspace

def Malformed (c : Config) (r : Request) (key : String) : Prop :=
  Http.isValue key = false ∨
  (∃ workspace, c.workspaceFor r = some workspace ∧ Http.isValue workspace = false) ∨
  ∃ h ∈ r.headers, Http.isName h.1 = false ∨ Http.isValue h.2 = false

theorem bearerFits (key : String) : Http.isValue ("Bearer " ++ key) = Http.isValue key := by
  rw [Http.isValue, String.toList_append, List.all_append]
  rfl

theorem keyResolved : c.resolveKey r.apiKey = match c.keyFor r with
    | some key => .ok key
    | none => .error .noApiKey := by
  unfold resolveKey keyFor
  cases nonEmpty r.apiKey with
  | some key => rfl
  | none => cases nonEmpty c.apiKey <;> rfl

theorem keyless (none_ : c.keyFor r = none) : c.headersFor r = .error .noApiKey := by
  have resolved := @keyResolved c r
  rw [none_] at resolved
  rw [headersFor, authHeaders]
  change (c.resolveKey r.apiKey >>= _) >>= _ = _
  rw [resolved]
  rfl

theorem insertRefused {given : List (String × String)}
    (unfit : ∃ h ∈ given, Http.isName h.1 = false ∨ Http.isValue h.2 = false)
    (headers : Http.Headers) :
    insertAll headers given = .error .headerName ∨ insertAll headers given = .error .headerValue := by
  induction given generalizing headers with
  | nil => obtain ⟨_, absent, _⟩ := unfit; cases absent
  | cons h rest ih =>
    obtain ⟨name, value⟩ := h
    unfold insertAll headerName headerValue
    cases named : Http.isName name with
    | false => exact .inl rfl
    | true =>
      cases valued : Http.isValue value with
      | false => exact .inr rfl
      | true =>
        obtain ⟨h, member, unfit⟩ := unfit
        rcases List.mem_cons.mp member with rfl | later
        · simp [named, valued] at unfit
        · exact ih ⟨h, later, unfit⟩ _

theorem insertPasses {given : List (String × String)}
    (fit : ∀ h ∈ given, Http.isName h.1 = true ∧ Http.isValue h.2 = true) (headers : Http.Headers) :
    ∃ more, insertAll headers given = .ok more := by
  induction given generalizing headers with
  | nil => exact ⟨headers, rfl⟩
  | cons h rest ih =>
    obtain ⟨⟨named, valued⟩, others⟩ := List.forall_mem_cons.mp fit
    unfold insertAll headerName headerValue
    rw [if_pos named, if_pos valued]
    exact ih others _

theorem authSteps {key : String} (own : c.keyFor r = some key) :
    c.authHeaders (.ofRequest r) = (headerValue ("Bearer " ++ key) >>= fun bearer =>
      match c.workspaceFor r with
      | none => .ok (Http.Headers.insert "authorization" bearer [])
      | some workspace => headerValue workspace >>= fun value =>
        .ok ((Http.Headers.insert "authorization" bearer []).insert "x-dashscope-workspace" value)) := by
  have resolved := @keyResolved c r
  rw [own] at resolved
  rw [authHeaders]
  change (c.resolveKey r.apiKey >>= _) = _
  rw [resolved]
  rfl

theorem authRefused {key : String} (own : c.keyFor r = some key)
    (unfit : Http.isValue key = false ∨
      ∃ workspace, c.workspaceFor r = some workspace ∧ Http.isValue workspace = false) :
    c.authHeaders (.ofRequest r) = .error .headerValue := by
  rw [authSteps own, headerValue, bearerFits]
  cases valued : Http.isValue key with
  | false => rfl
  | true =>
    obtain unfit | ⟨workspace, given, unfit⟩ := unfit
    · rw [valued] at unfit
      cases unfit
    · have checked : headerValue workspace = .error .headerValue := if_neg (by simp [unfit])
      simp only [given, checked]
      rfl

theorem authPasses {key : String} (own : c.keyFor r = some key) (valued : Http.isValue key = true)
    (fits : ∀ workspace, c.workspaceFor r = some workspace → Http.isValue workspace = true) :
    ∃ headers, c.authHeaders (.ofRequest r) = .ok headers := by
  rw [authSteps own, headerValue, bearerFits, valued]
  cases given : c.workspaceFor r with
  | none => exact ⟨_, rfl⟩
  | some workspace =>
    have checked : headerValue workspace = .ok workspace := if_pos (fits workspace given)
    simp only [checked]
    exact ⟨_, rfl⟩

theorem malformedRefused {key : String} (own : c.keyFor r = some key) (malformed : c.Malformed r key) :
    c.headersFor r = .error .headerName ∨ c.headersFor r = .error .headerValue := by
  by_cases account : Http.isValue key = false ∨
      ∃ workspace, c.workspaceFor r = some workspace ∧ Http.isValue workspace = false
  · have refused := authRefused own account
    rw [headersFor, refused]
    exact .inr rfl
  · have valued : Http.isValue key = true := by simpa using fun unfit => account (.inl unfit)
    have fits (workspace : String) (given : c.workspaceFor r = some workspace) :
        Http.isValue workspace = true := by
      simpa using fun unfit => account (.inr ⟨workspace, given, unfit⟩)
    obtain ⟨headers, made⟩ := authPasses own valued fits
    obtain unfit | unfit | unfit := malformed
    · exact absurd (.inl unfit) account
    · exact absurd (.inr unfit) account
    · rw [headersFor, made]
      exact insertRefused unfit headers

theorem wellFormedPasses {key : String} (own : c.keyFor r = some key)
    (wellFormed : ¬c.Malformed r key) : ∃ headers, c.headersFor r = .ok headers := by
  have valued : Http.isValue key = true := by simpa using fun unfit => wellFormed (.inl unfit)
  have fits (workspace : String) (given : c.workspaceFor r = some workspace) :
      Http.isValue workspace = true := by
    simpa using fun unfit => wellFormed (.inr (.inl ⟨workspace, given, unfit⟩))
  have fit (h : String × String) (member : h ∈ r.headers) :
      Http.isName h.1 = true ∧ Http.isValue h.2 = true := by
    constructor
    · simpa using fun unfit => wellFormed (.inr (.inr ⟨h, member, .inl unfit⟩))
    · simpa using fun unfit => wellFormed (.inr (.inr ⟨h, member, .inr unfit⟩))
  obtain ⟨headers, made⟩ := authPasses own valued fits
  rw [headersFor, made]
  exact insertPasses fit headers

end Config

/-- The law of a way in: which requests it refuses and with what, and that it takes on all others.
Whether there is a server in its base is asked only of requests that have the required fields. -/
structure Admits (required : List (String × String)) (c : Config) (r : Request) (addressed : Prop)
    (refused : Error → Prop) (taken : Prop) : Prop where
  blank : ∀ name, firstBlank required = some name →
    refused (.inputRequired (name ++ " is required"))
  keyless : firstBlank required = none → addressed → c.keyFor r = none → refused .noApiKey
  malformed : ∀ key, firstBlank required = none → addressed → c.keyFor r = some key →
    c.Malformed r key → refused .headerName ∨ refused .headerValue
  wellFormed : ∀ key, firstBlank required = none → addressed → c.keyFor r = some key →
    ¬c.Malformed r key → taken

theorem admitsBySteps {required : List (String × String)} {c : Config} {r : Request} {addressed : Prop}
    {refused : Error → Prop} {taken : Prop}
    (undemanded : ∀ e, demandFields required = .error e → refused e)
    (unheaded : ∀ e, demandFields required = .ok () → addressed → c.headersFor r = .error e →
      refused e)
    (made : ∀ headers, demandFields required = .ok () → addressed → c.headersFor r = .ok headers →
      taken) : Admits required c r addressed refused taken := by
  have passed (none_ : firstBlank required = none) : demandFields required = .ok () := by
    rw [demandFields, none_]
  refine ⟨fun name missing => ?_, fun none_ at_ absent => ?_, fun key none_ at_ own bad => ?_,
    fun key none_ at_ own good => ?_⟩
  · exact undemanded _ (by rw [demandFields, missing])
  · exact unheaded _ (passed none_) at_ (Config.keyless absent)
  · exact (Config.malformedRefused own bad).imp (unheaded _ (passed none_) at_)
      (unheaded _ (passed none_) at_)
  · obtain ⟨headers, all⟩ := Config.wellFormedPasses own good
    exact made headers (passed none_) at_ all

theorem Admits.imp {required : List (String × String)} {c : Config} {r : Request} {addressed : Prop}
    {refused more : Error → Prop} {taken done : Prop}
    (admits : Admits required c r addressed refused taken) (refuses : ∀ e, refused e → more e)
    (takes : taken → done) : Admits required c r addressed more done :=
  ⟨fun name missing => refuses _ (admits.blank name missing),
    fun none_ at_ absent => refuses _ (admits.keyless none_ at_ absent),
    fun key none_ at_ own bad => (admits.malformed key none_ at_ own bad).imp (refuses _) (refuses _),
    fun key none_ at_ own good => takes (admits.wellFormed key none_ at_ own good)⟩

theorem parsedUrl {base : String} {u : Url} (parsed : Url.parse base = .ok u) :
    Dialect.parseUrl base = .ok u := by
  rw [Dialect.parseUrl, parsed]

def Session.Setup.Reaches (required : List (String × String)) (base : String) (c : Config)
    (r : Request) (made : Except Error Session.Setup) : Prop :=
  Admits required c r (∃ u, Url.parse base = .ok u) (fun e => made = .error e)
    (∃ setup, made = .ok setup)

theorem sessionReaches {d : Dialect} {c : Config} {r : Request} {required : List (String × String)}
    {base : String} (locate : Url → String)
    (asks : d.endpoint c r =
      (demandFields required >>= fun _ => (Dialect.parseUrl base).map locate)) (ids : Ids) :
    Session.Setup.Reaches required base c r (Session.Setup.of c d r ids) := by
  refine admitsBySteps (fun e missing => ?_) (fun e full at_ unheaded => ?_)
    fun headers full at_ made => ?_
  · rw [Session.Setup.of, asks, missing]
    rfl
  · obtain ⟨u, parsed⟩ := at_
    rw [Session.Setup.of, asks, full, parsedUrl parsed, unheaded]
    rfl
  · obtain ⟨u, parsed⟩ := at_
    rw [Session.Setup.of, asks, full, parsedUrl parsed, made]
    exact ⟨_, rfl⟩

theorem taskSessionReaches (c : Config) (r : Request) (ids : Ids) :
    Session.Setup.Reaches r.taskFields c.socketBase c r (Session.Setup.of c .task r ids) := by
  refine sessionReaches Url.text ?_ ids
  change (r.validateEndpoint >>= _) = _
  rw [taskDemanded]
  cases Dialect.parseUrl c.socketBase <;> rfl

theorem realtimeSessionReaches (c : Config) (r : Request) (ids : Ids) :
    Session.Setup.Reaches [("model", r.model)] c.realtimeBase c r
      (Session.Setup.of c .realtime r ids) := by
  refine sessionReaches (fun u => (u.appendQuery "model" r.model).text) ?_ ids
  change (r.validate >>= _) = _
  rw [modelDemanded]
  cases Dialect.parseUrl c.realtimeBase <;> rfl

def firstDemands : Except Error Route → List Demand
  | .ok (.task setup) => (TaskStream.Call.begin setup).2
  | _ => []

def Route.Reaches (c : Config) (r : Request) (route : Except Error Route) : Prop :=
  Admits r.taskFields c r (∃ u, Url.parse c.socketBase = .ok u)
    (fun e => route = .error e ∧ firstDemands route = [])
    (∃ url headers, firstDemands route = [.connect url headers])

theorem socketCallReaches (c : Config) (r : Request) (consumption : Consumption) (taskId : String) :
    Route.Reaches c r (Route.of c { r with carrier := .webSocket } consumption taskId) := by
  generalize made : Route.of c { r with carrier := .webSocket } consumption taskId = route
  obtain ⟨streaming, same⟩ : ∃ streaming,
      route = (TaskStream.Setup.of c { r with carrier := .webSocket } streaming taskId).map .task := by
    cases consumption with
    | folded | streamed => exact ⟨_, made.symm⟩
  have refused {e : Error}
      (fails : TaskStream.Setup.of c { r with carrier := .webSocket } streaming taskId = .error e) :
      route = .error e ∧ firstDemands route = [] := by
    rw [same, fails]
    exact ⟨rfl, rfl⟩
  have checked : Request.validateEndpoint { r with carrier := .webSocket } = demandFields r.taskFields :=
    taskDemanded _
  refine admitsBySteps (fun e missing => refused ?_) (fun e full _ unheaded => refused ?_)
    fun headers full at_ made => ?_
  · rw [TaskStream.Setup.of, checked, missing]
    rfl
  · change Config.headersFor c { r with carrier := .webSocket } = _ at unheaded
    rw [TaskStream.Setup.of, checked, full, unheaded]
    rfl
  · obtain ⟨u, parsed⟩ := at_
    change Config.headersFor c { r with carrier := .webSocket } = _ at made
    rw [same, TaskStream.Setup.of, checked, full, made, parsedUrl parsed]
    exact ⟨_, _, rfl⟩

namespace Rest

def Served (c : Config) : Prop := ∃ u, Url.parse (address c "") = .ok u ∧ isHttp u = true

theorem addressChars (c : Config) (path : String) :
    (address c path).toList = c.httpBase.toList.rdropWhile (· = '/') ++ '/' :: path.toList := by
  rw [address, String.toList_append, String.toList_append, String.toList_ofList, List.append_assoc]
  rfl

theorem servedAnywhere {c : Config} (served : Served c) (path : String) :
    ∃ u, locate c path = .ok u := by
  unfold Served at served
  rw [Url.parse, addressChars] at served
  obtain ⟨u, parsed, web⟩ := Url.anyPathServed served path.toList
  rw [← addressChars] at parsed
  refine ⟨withoutUser u, ?_⟩
  rw [locate, Url.parse, parsed]
  exact if_pos web

theorem plainBaseServes {c : Config} {u : Url} (parsed : Url.parse c.httpBase = .ok u)
    (http : isHttp u = true)
    (plain : ∀ ch ∈ c.httpBase.toList.getLast?, Url.isControlOrSpace ch = false) : Served c := by
  have whole : c.httpBase.toList.rdropWhile (· = '/') ++ c.httpBase.toList.rtakeWhile (· = '/') =
      c.httpBase.toList := List.rdropWhile_append_rtakeWhile ..
  have slashes : ∀ ch ∈ c.httpBase.toList.rtakeWhile (· = '/'), ch = '/' := fun ch member => by
    simpa using List.mem_rtakeWhile_imp member
  rw [Url.parse] at parsed
  rw [← whole] at parsed plain
  unfold Served
  rw [Url.parse, addressChars]
  exact Url.slashServed slashes plain ⟨u, parsed, http⟩

theorem serviceAdmits (c : Config) (r : Request) :
    Admits r.taskFields c r (Served c) (fun e => serviceMessage c r = .error e)
      (∃ m, serviceMessage c r = .ok m) := by
  refine admitsBySteps (fun e missing => ?_) (fun e full _ unheaded => ?_)
    fun headers full at_ made => ?_
  · rw [serviceMessage, taskDemanded, missing]
    rfl
  · rw [serviceMessage, taskDemanded, full, unheaded]
    rfl
  · obtain ⟨u, located⟩ := servedAnywhere at_ r.servicePath
    rw [serviceMessage, taskDemanded, full, made, located]
    exact ⟨_, rfl⟩

theorem createAdmits (c : Config) (r : Request) :
    Admits r.taskFields c r (Served c) (fun e => serviceMessage c { r with isAsync := true } = .error e)
      (∃ m, serviceMessage c { r with isAsync := true } = .ok m) :=
  have same := serviceAdmits c { r with isAsync := true }
  ⟨same.blank, same.keyless, same.malformed, same.wellFormed⟩

theorem streamAdmits (c : Config) (r : Request) :
    Admits r.taskFields c r (Served c) (fun e => streamMessage c r = .error e)
      (∃ m, streamMessage c r = .ok m) := by
  refine (serviceAdmits c r).imp (fun e refused => ?_) fun ⟨m, made⟩ => ?_
  · rw [streamMessage, refused]
    rfl
  · rw [streamMessage, made]
    exact ⟨_, rfl⟩

section
variable {σ : Type} {c : Config} {r : Request}

def Reaches {α : Type} (c : Config) (r : Request) (done : Except Error α × List Http.Message × σ) :
    Prop :=
  Admits r.taskFields c r (Served c) (fun e => done.1 = .error e ∧ done.2.1 = [])
    (∃ m, done.2.1 = [m])

theorem performReaches {α : Type} {message : Except Error Http.Message}
    (admits : Admits r.taskFields c r (Served c) (fun e => message = .error e)
      (∃ m, message = .ok m))
    (exchange : Exchange σ) (read : Http.Response → Except Error α) (s : σ) :
    Reaches c r (perform (noted exchange) message read ([], s)) := by
  have notes := performNotes exchange message read [] s
  refine admits.imp (fun e refused => ?_) fun ⟨m, made⟩ => ?_
  · subst refused
    exact ⟨rfl, rfl⟩
  · subst made
    exact ⟨m, congrArg (·.2.1) notes⟩

end

end Rest

def Tasks.Reaches {α σ : Type} (c : Config) (r : Request)
    (done : Option (Except Error α) × List Http.Message × σ) : Prop :=
  Admits r.taskFields c r (Rest.Served c) (fun e => done.1 = some (.error e) ∧ done.2.1 = [])
    (∃ m polls, done.2.1 = m :: polls)

theorem Tasks.callReaches {σ : Type} (t : Tasks) (exchange : Rest.Exchange σ) (c : Config)
    (fetches : Nat) (r : Request) (s : σ) :
    Tasks.Reaches c r (t.call (Rest.noted exchange) c fetches r ([], s)) := by
  refine (Rest.createAdmits c r).imp (fun e refused => ?_) fun ⟨m, made⟩ => ?_
  · have answer : (Rest.backend (Rest.noted exchange) c).submit r 0 ([], s) = (0, .error e, [], s) := by
      change (0, Rest.call (Rest.noted exchange) c { r with isAsync := true } ([], s)) = _
      rw [Rest.call, refused]
      rfl
    have ended : t.call (Rest.noted exchange) c fetches r ([], s) = (some (.error e), [], s) := by
      simp only [call, callSteps answer]
      rfl
    exact ⟨congrArg Prod.fst ended, congrArg (·.2.1) ended⟩
  · obtain ⟨polls, sent, _⟩ := callSends exchange c t fetches r s
    rw [made] at sent
    exact ⟨m, polls, sent⟩

theorem requestsReach {σ : Type} (c : Config) (r : Request) (ids : Ids) (consumption : Consumption)
    (taskId : String) (t : Tasks) (fetches : Nat) (exchange : Rest.Exchange σ) (s : σ) :
    Session.Setup.Reaches r.taskFields c.socketBase c r (Session.Setup.of c .task r ids) ∧
    Session.Setup.Reaches [("model", r.model)] c.realtimeBase c r
      (Session.Setup.of c .realtime r ids) ∧
    Route.Reaches c r (Route.of c { r with carrier := .webSocket } consumption taskId) ∧
    Rest.Reaches c r (Rest.call (Rest.noted exchange) c r ([], s)) ∧
    Rest.Reaches c r (Rest.stream (Rest.noted exchange) c r ([], s)) ∧
    Rest.Reaches c r (Rest.submit (Rest.noted exchange) c r ([], s)) ∧
    Tasks.Reaches c r (t.call (Rest.noted exchange) c fetches r ([], s)) ∧
    ∀ u, Url.parse c.httpBase = .ok u → Rest.isHttp u = true →
      (∀ ch ∈ c.httpBase.toList.getLast?, Url.isControlOrSpace ch = false) → Rest.Served c :=
  ⟨taskSessionReaches c r ids, realtimeSessionReaches c r ids,
    socketCallReaches c r consumption taskId,
    Rest.performReaches (Rest.serviceAdmits c r) exchange Rest.readReply s,
    Rest.performReaches (Rest.streamAdmits c r) exchange Rest.readStream s,
    Rest.performReaches (Rest.createAdmits c r) exchange Rest.readReply s,
    t.callReaches exchange c fetches r s, fun _ => Rest.plainBaseServes⟩

def localConfig : Config :=
  { Config.default with
    apiKey := some "sk-config", httpBase := "http://127.0.0.1/api/v1",
    socketBase := "ws://127.0.0.1/api-ws/v1/inference" }

def textRequest : Request := (Request.new "qwen-turbo").withEndpoint "aigc" "text-generation" "generation"

def localIds : Ids := ⟨fun _ => "t-1", fun _ _ => "e-1", fun _ => "c-1", fun _ => "m-1"⟩

theorem readIs {ε α : Type} {read : Except ε α} {p : α → Bool} (held : read.toOption.any p = true) :
    ∃ a, read = .ok a ∧ p a = true := by
  cases read with
  | error e => cases held
  | ok a => exact ⟨a, rfl, held⟩

theorem localSocket : ∃ u, Url.parse localConfig.socketBase = .ok u := by
  have parsed : (Url.parse localConfig.socketBase).toOption.any (fun _ => true) = true := by
    decide +kernel
  obtain ⟨u, read, _⟩ := readIs parsed
  exact ⟨u, read⟩

theorem localServed : Rest.Served localConfig :=
  readIs (by decide +kernel)

theorem textWellFormed : ¬localConfig.Malformed textRequest "sk-config" := by
  rintro (bad | ⟨_, given, _⟩ | ⟨_, absent, _⟩)
  · exact absurd bad (by decide)
  · cases given
  · cases absent

def silence : Rest.Exchange Nat := fun _ asked => (none, asked + 1)

theorem textReaches :
    (∃ setup, Session.Setup.of localConfig .task textRequest localIds = .ok setup) ∧
    (∃ url headers, firstDemands (Route.of localConfig { textRequest with carrier := .webSocket }
      .streamed "t-1") = [.connect url headers]) ∧
    (∃ m, (Rest.call (Rest.noted silence) localConfig textRequest ([], 0)).2.1 = [m]) ∧
    (Rest.submit (Rest.noted silence) localConfig { textRequest with task := " \t" } ([], 0)).2.1 =
      [] ∧
    Session.Setup.of { localConfig with apiKey := some "" } .task textRequest localIds =
      .error .noApiKey ∧
    (Tasks.default.call (Rest.noted silence) localConfig 3
      { textRequest with headers := [("x-trace", "a\nb")] } ([], 0)).2.1 = [] := by
  have full : firstBlank textRequest.taskFields = none := by decide
  have own : localConfig.keyFor textRequest = some "sk-config" := rfl
  obtain ⟨session, _, route, call, _⟩ := requestsReach localConfig textRequest localIds .streamed "t-1"
    Tasks.default 3 silence 0
  obtain ⟨_, _, _, _, _, blank, _⟩ := requestsReach localConfig { textRequest with task := " \t" }
    localIds .folded "t-1" Tasks.default 3 silence 0
  obtain ⟨keyless, _⟩ := requestsReach { localConfig with apiKey := some "" } textRequest localIds
    .folded "t-1" Tasks.default 3 silence 0
  obtain ⟨_, _, _, _, _, _, seen, _⟩ := requestsReach localConfig
    { textRequest with headers := [("x-trace", "a\nb")] } localIds .folded "t-1" Tasks.default 3
    silence 0
  have broken := seen.malformed "sk-config" full localServed own
    (.inr (.inr ⟨("x-trace", "a\nb"), List.mem_cons_self, .inr (by decide)⟩))
  refine ⟨session.wellFormed "sk-config" full localSocket own textWellFormed,
    route.wellFormed "sk-config" full localSocket own textWellFormed,
    call.wellFormed "sk-config" full localServed own textWellFormed,
    (blank.blank "task" (by decide)).2, keyless.keyless full localSocket rfl, ?_⟩
  exact broken.elim And.right And.right

end ModelServing
