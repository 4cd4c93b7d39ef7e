import ModelServing.Proofs.Ascending
import ModelServing.Proofs.Reach

/-! The headers of a call as a whole. They are given one after the other, the account first: all of them can
be written and the last one of each name counts, or the first one that cannot be written is what is
reported. -/
namespace ModelServing

namespace Config

def given (c : Config) (r : Request) (key : String) : List (String × String) :=
  ("authorization", "Bearer " ++ key) ::
    ((c.workspaceFor r).toList.map fun workspace => ("x-dashscope-workspace", workspace)) ++ r.headers

def Writable (h : String × String) : Prop := Http.isName h.1 = true ∧ Http.isValue h.2 = true

structure Assembled (given : List (String × String)) (headers : Http.Headers) : Prop where
  writable : ∀ h ∈ given, Writable h
  ascends : Ascends headers
  last : ∀ name value, (name, value) ∈ headers ↔ givenFor name given = some value

inductive Refused (given : List (String × String)) : Error → Prop where
  | name {before behind : List (String × String)} {h : String × String}
      (stands : given = before ++ h :: behind) (writable : ∀ g ∈ before, Writable g)
      (unnamed : Http.isName h.1 = false) : Refused given .headerName
  | value {before behind : List (String × String)} {h : String × String}
      (stands : given = before ++ h :: behind) (writable : ∀ g ∈ before, Writable g)
      (named : Http.isName h.1 = true) (unvalued : Http.isValue h.2 = false) : Refused given .headerValue

variable {c : Config} {r : Request} {headers more : Http.Headers} {sent : List (String × String)}

theorem insertSteps (h : String × String) (rest : List (String × String)) (headers : Http.Headers) :
    insertAll headers (h :: rest) = (headerName h.1 >>= fun name => headerValue h.2 >>= fun value =>
      insertAll (headers.insert name value) rest) := by
  rw [insertAll]

theorem accountNamed : headerName "authorization" = .ok "authorization" ∧
    headerName "x-dashscope-workspace" = .ok "x-dashscope-workspace" := by
  decide

theorem headersGiven {key : String} (own : c.keyFor r = some key) :
    c.headersFor r = insertAll [] (c.given r key) := by
  obtain ⟨authorization, workspace⟩ := accountNamed
  rw [headersFor, authSteps own, given, List.cons_append, insertSteps, authorization]
  cases headerValue ("Bearer " ++ key) with
  | error e => rfl
  | ok bearer =>
    cases c.workspaceFor r with
    | none => rfl
    | some own =>
      rw [Option.toList_some, List.map_singleton, List.singleton_append]
      simp only [insertSteps, workspace]
      cases headerValue own <;> rfl

theorem Refused.later {h : String × String} {e : Error} (writable : Writable h)
    (refused : Refused sent e) : Refused (h :: sent) e := by
  cases refused with
  | name stands earlier unnamed =>
    exact .name (congrArg (h :: ·) stands) (List.forall_mem_cons.mpr ⟨writable, earlier⟩) unnamed
  | value stands earlier named unvalued =>
    exact .value (congrArg (h :: ·) stands) (List.forall_mem_cons.mpr ⟨writable, earlier⟩) named unvalued

theorem insertNext (h : String × String) (rest : List (String × String)) (headers : Http.Headers) :
    (Writable h ∧
      insertAll headers (h :: rest) = insertAll (headers.insert (Http.lowerName h.1) h.2) rest) ∨
    ∃ e, insertAll headers (h :: rest) = .error e ∧ Refused (h :: rest) e := by
  have first : h :: rest = [] ++ h :: rest := rfl
  have nothing := List.forall_mem_nil Writable
  rw [insertSteps, headerName, headerValue]
  cases named : Http.isName h.1 with
  | false => exact .inr ⟨.headerName, rfl, .name first nothing named⟩
  | true =>
    cases valued : Http.isValue h.2 with
    | false => exact .inr ⟨.headerValue, rfl, .value first nothing named valued⟩
    | true => exact .inl ⟨⟨named, valued⟩, rfl⟩

theorem insertedAscend (made : insertAll headers sent = .ok more) (ascends : Ascends headers) :
    Ascends more := by
  induction sent generalizing headers with
  | nil =>
    cases made
    exact ascends
  | cons h rest ih =>
    rcases insertNext h rest headers with ⟨_, steps⟩ | ⟨e, refused, _⟩
    · exact ih (steps ▸ made) (Http.Headers.insertAscends _ _ ascends)
    · cases refused.symm.trans made

theorem insertedWhole (sent : List (String × String)) (headers : Http.Headers) :
    (∃ more, insertAll headers sent = .ok more ∧ ∀ h ∈ sent, Writable h) ∨
    ∃ e, insertAll headers sent = .error e ∧ Refused sent e := by
  induction sent generalizing headers with
  | nil => exact .inl ⟨headers, rfl, nofun⟩
  | cons h rest ih =>
    rcases insertNext h rest headers with ⟨writable, steps⟩ | first
    · rw [steps]
      rcases ih (headers.insert (Http.lowerName h.1) h.2) with ⟨more, made, all⟩ | ⟨e, failed, refused⟩
      · exact .inl ⟨more, made, List.forall_mem_cons.mpr ⟨writable, all⟩⟩
      · exact .inr ⟨e, failed, refused.later writable⟩
    · exact .inr first

theorem assembled (made : insertAll [] sent = .ok headers) (writable : ∀ h ∈ sent, Writable h) :
    Assembled sent headers := by
  have ascends : Ascends headers := insertedAscend made .nil
  refine ⟨writable, ascends, fun name value => ?_⟩
  rw [← ascends.lookupIff, ← Http.Headers.getLookup, insertedSay made]
  cases givenFor name sent <;> rfl

theorem Assembled.same {others : List (String × String)} (one : Assembled sent headers)
    (other : Assembled others more) (alike : ∀ name, givenFor name others = givenFor name sent) :
    more = headers := by
  refine other.ascends.ext one.ascends fun name => ?_
  refine Option.ext fun value => ?_
  rw [one.ascends.lookupIff, other.ascends.lookupIff, one.last, other.last, alike]

theorem givenSays (c : Config) (r : Request) (key name : String) :
    givenFor name (c.given r key) = (givenFor name r.headers).orElse fun _ =>
      if name = "authorization" then some ("Bearer " ++ key)
      else if name = "x-dashscope-workspace" then c.workspaceFor r else none := by
  have lower : Http.lowerName "authorization" = "authorization" ∧
      Http.lowerName "x-dashscope-workspace" = "x-dashscope-workspace" := by decide
  rw [given, List.cons_append, givenForNext, lower.1]
  cases own : c.workspaceFor r with
  | none =>
    rw [Option.toList_none, List.map_nil, List.nil_append]
    cases givenFor name r.headers <;> simp [eq_comm]
  | some workspace =>
    rw [Option.toList_some, List.map_singleton, List.singleton_append, givenForNext, lower.2]
    cases givenFor name r.headers with
    | some later => rfl
    | none => by_cases first : name = "authorization" <;> simp [first, eq_comm]

theorem headersWhole (c : Config) (r : Request) :
    (c.keyFor r = none ∧ c.headersFor r = .error .noApiKey) ∨
    ∃ key, c.keyFor r = some key ∧
      ((∃ headers, c.headersFor r = .ok headers ∧ Assembled (c.given r key) headers) ∨
        ∃ e, c.headersFor r = .error e ∧ Refused (c.given r key) e) := by
  cases own : c.keyFor r with
  | none => exact .inl ⟨rfl, keyless own⟩
  | some key =>
    refine .inr ⟨key, rfl, ?_⟩
    rw [headersGiven own]
    rcases insertedWhole (c.given r key) [] with ⟨headers, made, writable⟩ | refused
    · exact .inl ⟨headers, made, assembled made writable⟩
    · exact .inr refused

theorem headersMade (made : c.headersFor r = .ok headers) :
    ∃ key, c.keyFor r = some key ∧ Assembled (c.given r key) headers := by
  rcases headersWhole c r with ⟨_, refused⟩ | ⟨key, own, ⟨whole, same, assembled⟩ | ⟨e, refused, _⟩⟩
  · cases refused.symm.trans made
  · cases same.symm.trans made
    exact ⟨key, own, assembled⟩
  · cases refused.symm.trans made

end Config

def Request.OverridesKey (r : Request) : Prop :=
  Config.nonEmpty r.apiKey ≠ none ∨ givenFor "authorization" r.headers ≠ none

def Request.OverridesWorkspace (r : Request) : Prop :=
  r.workspace ≠ none ∨ givenFor "x-dashscope-workspace" r.headers ≠ none

namespace Config
variable {c other : Config} {r : Request}

theorem sameKey (same : nonEmpty r.apiKey ≠ none ∨ other.apiKey = c.apiKey) :
    other.keyFor r = c.keyFor r := by
  unfold keyFor
  rcases same with own | same
  · obtain ⟨key, own⟩ := Option.ne_none_iff_exists'.mp own
    rw [own]
    rfl
  · rw [same]

theorem sameWorkspace (same : r.workspace ≠ none ∨ other.workspace = c.workspace) :
    other.workspaceFor r = c.workspaceFor r := by
  unfold workspaceFor
  rcases same with own | same
  · obtain ⟨workspace, own⟩ := Option.ne_none_iff_exists'.mp own
    rw [own]
    rfl
  · rw [same]

theorem sameOutcome (key : other.keyFor r = c.keyFor r)
    (workspace : other.workspaceFor r = c.workspaceFor r) : other.headersFor r = c.headersFor r := by
  cases own : c.keyFor r with
  | none => rw [keyless own, keyless (key.trans own)]
  | some k => rw [headersGiven own, headersGiven (key.trans own), given, given, workspace]

theorem overriddenUnseen {headers more : Http.Headers} (made : c.headersFor r = .ok headers)
    (remade : other.headersFor r = .ok more) (key : r.OverridesKey ∨ other.apiKey = c.apiKey)
    (workspace : r.OverridesWorkspace ∨ other.workspace = c.workspace) : more = headers := by
  obtain ⟨k, own, assembled⟩ := headersMade made
  obtain ⟨l, others, reassembled⟩ := headersMade remade
  refine assembled.same reassembled fun name => ?_
  rw [givenSays, givenSays]
  cases written : givenFor name r.headers with
  | some value => rfl
  | none =>
    by_cases first : name = "authorization"
    · subst first
      have unwritten : nonEmpty r.apiKey ≠ none ∨ other.apiKey = c.apiKey :=
        key.imp_left fun overrides => overrides.resolve_right (absurd written)
      have same : some l = some k := by rw [← own, ← others, sameKey unwritten]
      cases same
      rfl
    · by_cases second : name = "x-dashscope-workspace"
      · subst second
        have unwritten : r.workspace ≠ none ∨ other.workspace = c.workspace :=
          workspace.imp_left fun overrides => overrides.resolve_right (absurd written)
        simp [sameWorkspace unwritten]
      · simp [first, second]

/-- What the request overrides does not show: with another configured key or workspace in its place, the
headers are the same. -/
theorem headersAssembled (c : Config) (r : Request) :
    ((c.keyFor r = none ∧ c.headersFor r = .error .noApiKey) ∨
      ∃ key, c.keyFor r = some key ∧
        ((∃ headers, c.headersFor r = .ok headers ∧ Assembled (c.given r key) headers) ∨
          ∃ e, c.headersFor r = .error e ∧ Refused (c.given r key) e)) ∧
    (∀ other : Config, (nonEmpty r.apiKey ≠ none ∨ other.apiKey = c.apiKey) →
      (r.workspace ≠ none ∨ other.workspace = c.workspace) → other.headersFor r = c.headersFor r) ∧
    ∀ (other : Config) (headers more : Http.Headers), c.headersFor r = .ok headers →
      other.headersFor r = .ok more → (r.OverridesKey ∨ other.apiKey = c.apiKey) →
      (r.OverridesWorkspace ∨ other.workspace = c.workspace) → more = headers :=
  ⟨headersWhole c r, fun _ key workspace => sameOutcome (sameKey key) (sameWorkspace workspace),
    fun _ _ _ made remade key workspace => overriddenUnseen made remade key workspace⟩

def shared : Config := { default with apiKey := some "sk-shared", workspace := some "ws-shared" }

def insistent : Request :=
  { Request.new "qwen-turbo" with
    apiKey := some "sk-own"
    headers := [("X-Trace", "1"), ("Authorization", "Token t"), ("x-trace", "2")] }

def insistentHeaders : Http.Headers :=
  [("authorization", "Token t"), ("x-dashscope-workspace", "ws-shared"), ("x-trace", "2")]

theorem insistentAssembled :
    shared.keyFor insistent = some "sk-own" ∧
    shared.headersFor insistent = .ok insistentHeaders ∧
    Assembled (shared.given insistent "sk-own") insistentHeaders ∧
    { shared with apiKey := none }.headersFor insistent = shared.headersFor insistent := by
  obtain ⟨outcome, same, _⟩ := headersAssembled shared insistent
  have made : shared.headersFor insistent = .ok insistentHeaders := by decide +kernel
  have own : shared.keyFor insistent = some "sk-own" := rfl
  refine ⟨own, made, ?_, same _ (.inl nofun) (.inr rfl)⟩
  rcases outcome with ⟨keyless, _⟩ | ⟨key, resolved, ⟨headers, remade, assembled⟩ | ⟨e, failed, _⟩⟩
  · cases keyless.symm.trans own
  · cases resolved.symm.trans own
    cases remade.symm.trans made
    exact assembled
  · cases failed.symm.trans made

end Config

end ModelServing
