import ModelServing.Config

/-! What the headers of a call say of its account: the key, the workspace, and what the request gives
itself, of which the last word counts. -/
namespace ModelServing

theorem passedBind {ε α β : Type} {x : Except ε α} {f : α → Except ε β} {b : β}
    (passed : (x >>= f) = .ok b) : ∃ a, x = .ok a ∧ f a = .ok b := by
  cases x with
  | error e => contradiction
  | ok a => exact ⟨a, rfl, passed⟩

def givenFor (name : String) (given : List (String × String)) : Option String :=
  (given.reverse.find? fun h => Http.lowerName h.1 = name).map (·.2)

theorem givenForNext (name : String) (head : String × String) (rest : List (String × String)) :
    givenFor name (head :: rest) =
      (givenFor name rest).orElse fun _ =>
        if Http.lowerName head.1 = name then some head.2 else none := by
  rw [givenFor, givenFor, List.reverse_cons, List.find?_append]
  cases rest.reverse.find? fun h => Http.lowerName h.1 = name with
  | some h => rfl
  | none =>
    by_cases own : Http.lowerName head.1 = name
    · simp [own]
    · simp [own]

namespace Config
variable {c : Config}

def authorization (c : Config) (preferred : Option String) : Option String :=
  ((nonEmpty preferred).orElse fun _ => nonEmpty c.apiKey).map ("Bearer " ++ ·)

theorem resolvedKey {preferred : Option String} {key : String}
    (resolved : c.resolveKey preferred = .ok key) :
    c.authorization preferred = some ("Bearer " ++ key) := by
  unfold resolveKey at resolved
  split at resolved
  · rename_i own
    cases resolved
    simp [authorization, own]
  · rename_i own configured
    cases resolved
    simp [authorization, own, configured]
  · contradiction

theorem headerValueIs {value checked : String} (passed : headerValue value = .ok checked) :
    checked = value := by
  unfold headerValue at passed
  split at passed
  · exact (Except.ok.inj passed).symm
  · contradiction

theorem headerNameIs {name lower : String} (passed : headerName name = .ok lower) :
    lower = Http.lowerName name := by
  unfold headerName at passed
  split at passed
  · exact (Except.ok.inj passed).symm
  · contradiction

theorem authHeadersSay {as : Credentials} {headers : Http.Headers}
    (made : c.authHeaders as = .ok headers) :
    headers.get? "authorization" = c.authorization as.apiKey ∧
    headers.get? "x-dashscope-workspace" = as.workspace.orElse fun _ => c.workspace := by
  obtain ⟨key, resolved, made⟩ := passedBind made
  obtain ⟨bearer, checked, made⟩ := passedBind made
  have own := headerValueIs checked
  subst own
  rw [resolvedKey resolved]
  split at made
  · rename_i absent
    cases made
    rw [absent]
    exact ⟨Http.Headers.get?_insert .., Http.Headers.get?_insert ..⟩
  · rename_i workspace own
    obtain ⟨value, checked, made⟩ := passedBind made
    cases headerValueIs checked
    cases made
    rw [own]
    exact ⟨by simp [Http.Headers.get?_insert], by simp [Http.Headers.get?_insert]⟩

theorem insertedSay {given : List (String × String)} {headers more : Http.Headers}
    (made : insertAll headers given = .ok more) (name : String) :
    more.get? name = (givenFor name given).orElse fun _ => headers.get? name := by
  induction given generalizing headers with
  | nil =>
    cases made
    rfl
  | cons head rest ih =>
    obtain ⟨lower, named, made⟩ := passedBind made
    obtain ⟨value, checked, made⟩ := passedBind made
    cases headerValueIs checked
    cases headerNameIs named
    rw [ih made, givenForNext, Http.Headers.get?_insert]
    cases givenFor name rest with
    | some later => rfl
    | none =>
      dsimp only [Option.orElse]
      split <;> rfl

theorem headersSay {r : Request} {headers : Http.Headers} (made : c.headersFor r = .ok headers) :
    headers.get? "authorization" = (givenFor "authorization" r.headers).orElse (fun _ =>
      c.authorization r.apiKey) ∧
    headers.get? "x-dashscope-workspace" = (givenFor "x-dashscope-workspace" r.headers).orElse
      (fun _ => r.workspace.orElse fun _ => c.workspace) := by
  obtain ⟨auth, authorized, made⟩ := passedBind made
  obtain ⟨key, workspace⟩ := authHeadersSay authorized
  exact ⟨by rw [insertedSay made, key]; rfl, by rw [insertedSay made, workspace]; rfl⟩

end Config

end ModelServing
