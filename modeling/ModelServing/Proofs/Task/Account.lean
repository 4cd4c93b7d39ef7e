import ModelServing.Proofs.Headers
import ModelServing.Proofs.Task.Schedule
import ModelServing.Rest.Tasks

/-! On whose account a task is created and polled when both are done in one call. The create call goes
by the request and the configuration; the polls go by the request, then by the credentials that all
tasks are polled with, and know nothing of the headers that the request gives. -/
namespace ModelServing

namespace Rest

section
variable {σ : Type}

def noted (exchange : Exchange σ) : Exchange (List Http.Message × σ) := fun m (sent, s) =>
  let (response, s) := exchange m s
  (response, sent ++ [m], s)

theorem messageSent {message : Except Error Http.Message} {m : Http.Message}
    (sent : m ∈ message.toOption.toList) : message = .ok m := by
  cases message with
  | error e => contradiction
  | ok own =>
    cases List.mem_singleton.mp sent
    rfl

theorem performNotes {α : Type} (exchange : Exchange σ) (message : Except Error Http.Message)
    (read : Http.Response → Except Error α) (sent : List Http.Message) (s : σ) :
    perform (noted exchange) message read (sent, s) =
      ((perform exchange message read s).1, sent ++ message.toOption.toList,
        (perform exchange message read s).2) := by
  cases message with
  | error e =>
    rw [perform, Except.toOption, Option.toList_none, List.append_nil]
    rfl
  | ok m =>
    simp only [perform, noted]
    cases exchange m s with
    | mk response s' =>
      cases response with
      | none | some response => rfl

end

theorem serviceHeaders {c : Config} {r : Request} {m : Http.Message}
    (made : serviceMessage c r = .ok m) : ∃ headers, c.headersFor r = .ok headers ∧
      m.headers = if r.isAsync then headers.insert "x-dashscope-async" "enable" else headers := by
  obtain ⟨_, _, made⟩ := passedBind made
  obtain ⟨headers, assembled, made⟩ := passedBind made
  obtain ⟨url, _, made⟩ := passedBind made
  cases made
  exact ⟨headers, assembled, rfl⟩

theorem createSays {c : Config} {r : Request} {m : Http.Message}
    (made : serviceMessage c r = .ok m) :
    m.headers.get? "authorization" = (givenFor "authorization" r.headers).orElse (fun _ =>
      c.authorization r.apiKey) ∧
    m.headers.get? "x-dashscope-workspace" = (givenFor "x-dashscope-workspace" r.headers).orElse
      (fun _ => r.workspace.orElse fun _ => c.workspace) := by
  obtain ⟨headers, assembled, same⟩ := serviceHeaders made
  obtain ⟨key, workspace⟩ := Config.headersSay assembled
  have async {name : String} (other : "x-dashscope-async" ≠ name) :
      m.headers.get? name = headers.get? name := by
    rw [same]
    split
    · rw [Http.Headers.get?_insert, if_neg other]
    · rfl
  exact ⟨(async (by decide)).trans key, (async (by decide)).trans workspace⟩

theorem fetchSays {c : Config} {taskId : String} {as : Credentials} {m : Http.Message}
    (made : fetchMessage c taskId as = .ok m) :
    m.headers.get? "authorization" = c.authorization as.apiKey ∧
    m.headers.get? "x-dashscope-workspace" = as.workspace.orElse fun _ => c.workspace := by
  obtain ⟨headers, authorized, made⟩ := passedBind made
  obtain ⟨url, _, made⟩ := passedBind made
  cases made
  exact Config.authHeadersSay authorized

end Rest

namespace Tasks

section
variable {σ : Type} {exchange : Rest.Exchange σ} {c : Config} {t : Tasks}

theorem pollsNoted (exchange : Rest.Exchange σ) (c : Config) (taskId : String) (as : Credentials)
    (limit : Option Nat) (fetches now : Nat) (b : Backoff) (sent : List Http.Message) (s : σ) :
    let backend := Rest.backend (Rest.noted exchange) c
    ∃ polls, (Poll.watch (backend.fetch taskId as) backend.pause limit fetches now b
        (sent, s)).2.1 = sent ++ polls ∧ ∀ poll ∈ polls, Rest.fetchMessage c taskId as = .ok poll := by
  intro backend
  refine Poll.watchKeeps (fun state : List Http.Message × σ => ∃ polls, state.1 = sent ++ polls ∧
    ∀ poll ∈ polls, Rest.fetchMessage c taskId as = .ok poll) ?_ ?_ limit fetches now b ?_
  · rintro _ ⟨_, s'⟩ ⟨polls, rfl, own⟩
    refine ⟨polls ++ (Rest.fetchMessage c taskId as).toOption.toList, ?_, fun poll member => ?_⟩
    · simp only [backend, Rest.backend, Rest.fetch, Rest.performNotes, List.append_assoc]
    · rcases List.mem_append.mp member with old | new
      · exact own poll old
      · exact Rest.messageSent new
  · exact fun _ _ _ holds => holds
  · exact ⟨[], (List.append_nil _).symm, fun _ absent => nomatch absent⟩

theorem callSteps {b : Backend σ} {fetches : Nat} {r : Request} {timeout : Option Duration}
    {now taken : Nat} {submitted : Except Error Reply} {s s' : σ}
    (answer : b.submit r now s = (taken, submitted, s')) :
    t.callOn b none fetches r timeout now s =
      match submitted.bind created with
      | .ok taskId => t.waitAs b none fetches taskId (t.credentialsFor r) timeout (now + taken) s'
      | .error e => (.done (now + taken) (.error e), s') := by
  simp only [callOn, Poll.once, answer, Poll.late, Option.filter_none]
  cases submitted with
  | error e => rfl
  | ok reply =>
    cases made : created reply with
    | ok taskId | error e => simp only [Except.bind, made]

theorem callSends (exchange : Rest.Exchange σ) (c : Config) (t : Tasks) (fetches : Nat) (r : Request)
    (s : σ) : ∃ polls, (t.call (Rest.noted exchange) c fetches r ([], s)).2.1 =
        (Rest.serviceMessage c { r with isAsync := true }).toOption.toList ++ polls ∧
      ∀ poll ∈ polls, ∃ taskId, (Rest.submit exchange c r s).1.bind created = .ok taskId ∧
        Rest.fetchMessage c taskId (t.credentialsFor r) = .ok poll := by
  have answer : (Rest.backend (Rest.noted exchange) c).submit r 0 ([], s) =
      (0, (Rest.submit exchange c r s).1,
        (Rest.serviceMessage c { r with isAsync := true }).toOption.toList,
        (Rest.submit exchange c r s).2) := by
    simp only [Rest.backend, Rest.submit, Rest.call, Rest.performNotes, List.nil_append]
  simp only [call, callSteps answer]
  cases made : (Rest.submit exchange c r s).1.bind created with
  | error e => exact ⟨[], (List.append_nil _).symm, fun _ absent => nomatch absent⟩
  | ok taskId =>
    obtain ⟨polls, sent, own⟩ := pollsNoted exchange c taskId (t.credentialsFor r) none fetches 0
      t.pollBackoff (Rest.serviceMessage c { r with isAsync := true }).toOption.toList
      (Rest.submit exchange c r s).2
    refine ⟨polls, ?_, fun poll member => ⟨taskId, rfl, own poll member⟩⟩
    dsimp only
    rw [untimedPolls]
    exact sent

end

/-- Whether the polls carry the authorization of the create call. Headers that the request gives go
with the create call only, and the credentials of all tasks go with the polls only. -/
def SharesKey (t : Tasks) (c : Config) (r : Request) : Prop :=
  match givenFor "authorization" r.headers with
  | some value => c.authorization (t.credentialsFor r).apiKey = some value
  | none =>
    r.apiKey ≠ none ∨ Config.nonEmpty t.credentials.apiKey = none ∨
      Config.nonEmpty t.credentials.apiKey = Config.nonEmpty c.apiKey

def SharesWorkspace (t : Tasks) (c : Config) (r : Request) : Prop :=
  match givenFor "x-dashscope-workspace" r.headers with
  | some value => ((t.credentialsFor r).workspace.orElse fun _ => c.workspace) = some value
  | none =>
    r.workspace ≠ none ∨ t.credentials.workspace = none ∨ t.credentials.workspace = c.workspace

theorem orElseSame {α : Type} (a b : Option α) : (a.orElse fun _ => b) = b ↔ a = none ∨ a = b := by
  cases a with
  | none => simp
  | some value => simp

section
variable {t : Tasks} {c : Config} {r : Request}

theorem sharesKey : c.authorization (t.credentialsFor r).apiKey =
      ((givenFor "authorization" r.headers).orElse fun _ => c.authorization r.apiKey) ↔
    t.SharesKey c r := by
  unfold SharesKey
  cases givenFor "authorization" r.headers with
  | some value => exact .rfl
  | none =>
    have injective : Function.Injective (Option.map fun key => "Bearer " ++ key) :=
      Option.map_injective fun _ _ same => (String.append_right_inj _).mp same
    cases own : r.apiKey with
    | some key => simp [credentialsFor, Credentials.ofRequest, Credentials.or, own]
    | none =>
      change Option.map _ _ = Option.map _ _ ↔ _
      rw [injective.eq_iff]
      simp only [credentialsFor, Credentials.ofRequest, Credentials.or, own]
      exact (orElseSame _ _).trans (by simp)

theorem sharesWorkspace : ((t.credentialsFor r).workspace.orElse fun _ => c.workspace) =
      ((givenFor "x-dashscope-workspace" r.headers).orElse fun _ =>
        r.workspace.orElse fun _ => c.workspace) ↔ t.SharesWorkspace c r := by
  unfold SharesWorkspace
  cases givenFor "x-dashscope-workspace" r.headers with
  | some value => exact .rfl
  | none =>
    cases own : r.workspace with
    | some workspace => simp [credentialsFor, Credentials.ofRequest, Credentials.or, own]
    | none =>
      simp only [credentialsFor, Credentials.ofRequest, Credentials.or, own]
      exact (orElseSame _ _).trans (by simp)

end

theorem callAccounts {σ : Type} (t : Tasks) (exchange : Rest.Exchange σ) (c : Config) (fetches : Nat)
    (r : Request) (s : σ) {create : Http.Message}
    (made : Rest.serviceMessage c { r with isAsync := true } = .ok create) :
    ∃ polls, (t.call (Rest.noted exchange) c fetches r ([], s)).2.1 = create :: polls ∧
      ∀ poll ∈ polls,
        (∃ taskId, (Rest.submit exchange c r s).1.bind created = .ok taskId ∧
          Rest.fetchMessage c taskId (t.credentialsFor r) = .ok poll) ∧
        (poll.headers.get? "authorization" = create.headers.get? "authorization" ↔
          t.SharesKey c r) ∧
        (poll.headers.get? "x-dashscope-workspace" = create.headers.get? "x-dashscope-workspace" ↔
          t.SharesWorkspace c r) := by
  obtain ⟨polls, sent, own⟩ := callSends exchange c t fetches r s
  rw [made] at sent
  refine ⟨polls, sent, fun poll member => ?_⟩
  obtain ⟨taskId, named, asked⟩ := own poll member
  obtain ⟨createdKey, createdWorkspace⟩ := Rest.createSays made
  obtain ⟨polledKey, polledWorkspace⟩ := Rest.fetchSays asked
  refine ⟨⟨taskId, named, asked⟩, ?_, ?_⟩
  · rw [createdKey, polledKey]
    exact sharesKey
  · rw [createdWorkspace, polledWorkspace]
    exact sharesWorkspace

def imageServer : Rest.Exchange Nat := fun _ asked =>
  let status := if asked < 2 then "RUNNING" else "SUCCEEDED"
  let task : Json := .object [("task_id", .string "t-1"), ("task_status", .string status)]
  (some ⟨200, [(Json.object [("output", task)]).print.toUTF8.toList]⟩, asked + 1)

def imageConfig : Config :=
  { Config.default with apiKey := some "sk-config", httpBase := "http://127.0.0.1/api/v1" }

def imageTasks : Tasks := ⟨.default, ⟨some "sk-default", some "ws-default"⟩⟩

def imageRequest : Request :=
  (Request.new "wanx-v1").withEndpoint "aigc" "text2image" "image-synthesis"

def ownRequest : Request :=
  { imageRequest with apiKey := some "sk-own", workspace := some "ws-own" }

def ownMessage : Http.Message :=
  ⟨.post, ⟨"http".toList, some ⟨[], [], .ipv4 0x7F000001, none⟩,
      .segments (["api", "v1", "services", "aigc", "text2image", "image-synthesis"].map String.toList),
      none, none⟩,
    [("authorization", "Bearer sk-own"), ("x-dashscope-async", "enable"),
      ("x-dashscope-workspace", "ws-own")], some ownRequest.httpBody⟩

theorem ownAccountShared :
    Rest.serviceMessage imageConfig { ownRequest with isAsync := true } = .ok ownMessage ∧
    ∃ polls, (imageTasks.call (Rest.noted imageServer) imageConfig 5 ownRequest ([], 0)).2.1 =
        ownMessage :: polls ∧ polls.length = 2 ∧
      ∀ poll ∈ polls, poll.headers.get? "authorization" = some "Bearer sk-own" ∧
        poll.headers.get? "x-dashscope-workspace" = some "ws-own" := by
  have made : Rest.serviceMessage imageConfig { ownRequest with isAsync := true } = .ok ownMessage :=
    Rest.messageSent (by decide +kernel)
  obtain ⟨polls, sent, shared⟩ := callAccounts imageTasks imageServer imageConfig 5 ownRequest 0 made
  refine ⟨made, polls, sent, ?_, fun poll member => ?_⟩
  · have all : (imageTasks.call (Rest.noted imageServer) imageConfig 5 ownRequest ([], 0)).2.1.length =
        3 := by
      decide +kernel
    rw [sent] at all
    exact Nat.succ.inj all
  · obtain ⟨_, key, workspace⟩ := shared poll member
    exact ⟨key.mpr (.inl nofun), workspace.mpr (.inl nofun)⟩

theorem defaultAccountPolls :
    ((Rest.submit imageServer imageConfig imageRequest 0).1.bind created).toOption = some "t-1" ∧
    (imageTasks.call (Rest.noted imageServer) imageConfig 5 imageRequest ([], 0)).2.1.map (fun m =>
        (m.headers.get? "authorization", m.headers.get? "x-dashscope-workspace")) =
      [(some "Bearer sk-config", none), (some "Bearer sk-default", some "ws-default"),
        (some "Bearer sk-default", some "ws-default")] := by
  decide +kernel

end Tasks

end ModelServing
