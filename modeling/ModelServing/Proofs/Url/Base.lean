import ModelServing.Url.Parser
import Mathlib.Data.List.DropRight
import Mathlib.Data.List.TakeWhile

/-! What makes a text the base of addresses: whether there is a server in it depends on the scheme and on
the text up to the first slash behind the host, so any path may be put behind it. -/
namespace ModelServing.Url

section
variable {p : Char → Bool} {stop : Char}

theorem takeStops (stops : p stop = false) (cs more : List Char) :
    (cs ++ stop :: more).takeWhile p = cs.takeWhile p := by
  rw [List.takeWhile_append, List.takeWhile_cons_of_neg (by simp [stops]), List.append_nil]
  split
  · rename_i long
    have split := congrArg List.length (List.takeWhile_append_dropWhile (p := p) (l := cs))
    rw [List.length_append] at split
    have none : cs.dropWhile p = [] := List.eq_nil_of_length_eq_zero (by omega)
    exact (List.takeWhile_eq_self_iff.mpr (List.dropWhile_eq_nil_iff.mp none)).symm
  · rfl

theorem dropStops (stops : p stop = false) (cs more : List Char) :
    (cs ++ stop :: more).dropWhile p = cs.dropWhile p ++ stop :: more := by
  rw [List.dropWhile_append, List.dropWhile_cons_of_neg (by simp [stops])]
  split
  · rename_i none
    rw [List.isEmpty_iff.mp none]
    rfl
  · rfl

end

theorem schemeBefore (cs more : List Char) :
    scheme? (cs ++ '/' :: more) =
      (scheme? cs).map fun (scheme, rest) => (scheme, rest ++ '/' :: more) := by
  rw [scheme?, takeStops rfl, dropStops rfl, scheme?]
  cases cs.takeWhile isSchemeChar with
  | nil => rfl
  | cons c name =>
    cases cs.dropWhile isSchemeChar with
    | nil => rfl
    | cons d rest =>
      by_cases colon : d = ':'
      · subst colon
        change (if isLetter c then some (_, rest ++ '/' :: more) else none) =
          (if isLetter c then some ((c :: name).map Char.toLower, rest) else none).map _
        split <;> rfl
      · simp [colon]

def hostText (rest : List Char) : List Char :=
  (rest.dropWhile (isSlash true)).takeWhile (!endsAuthority true ·)

section
variable {α β : Type} {h : β → β}

theorem mapBind {x : Except Fault α} {f g : α → Except Fault β} (each : ∀ a, f a = (g a).map h) :
    (x >>= f) = (x >>= g).map h := by
  cases x with
  | error e => rfl
  | ok a => exact each a

theorem mapIte {c : Prop} [Decidable c] {a b a' b' : Except Fault β} (yes : a = b.map h)
    (no : a' = b'.map h) : (if c then a else a') = (if c then b else b').map h := by
  split
  · exact yes
  · exact no

end

theorem authorityAlone {scheme : List Char} (special : isSpecial scheme = true) (cs : List Char) :
    parseAuthority scheme cs =
      (parseAuthority scheme (cs.takeWhile (!endsAuthority true ·))).map fun (a, rest) =>
        (a, rest ++ cs.dropWhile (!endsAuthority true ·)) := by
  have inside : ∀ c ∈ cs.takeWhile (!endsAuthority true ·), (!endsAuthority true c) = true :=
    fun _ => List.mem_takeWhile_imp
  have own := List.takeWhile_eq_self_iff.mpr inside
  have none := List.dropWhile_eq_nil_iff.mpr inside
  simp only [parseAuthority, special, own, none]
  generalize cs.takeWhile (!endsAuthority true ·) = written
  generalize cs.dropWhile (!endsAuthority true ·) = after
  have noMore : ¬(lastAt? written = some ([], []) ∧ ([] : List Char) ≠ []) := fun h => h.2 rfl
  rw [if_neg noMore]
  by_cases lone : lastAt? written = some ([], []) ∧ after ≠ []
  · -- An authority that is only an at sign has no host.
    have empty : (spanHost false ((lastAt? written).getD ([], written)).2).1.isEmpty = true ∧ True := by
      rw [lone.1]
      exact ⟨rfl, trivial⟩
    rw [if_pos lone, if_pos empty, if_pos empty]
    rfl
  · rw [if_neg lone]
    refine mapIte rfl (mapBind fun host => mapIte rfl (mapBind fun port => mapIte rfl ?_))
    rw [List.append_nil]
    rfl

theorem fileScheme {scheme cs : List Char} {u : Url} (parsed : parseFile scheme cs = .ok u) :
    u.scheme = scheme := by
  unfold parseFile at parsed
  simp only at parsed
  split at parsed
  · cases parsed
    rfl
  split at parsed
  · cases parsed
    rfl
  split at parsed
  · cases parsed
    rfl
  cases host : parseHost true (((clean cs).drop 2).takeWhile (!endsAuthority true ·)) with
  | error e =>
    rw [host] at parsed
    cases parsed
  | ok host' =>
    rw [host] at parsed
    change (if isLocal host' then _ else _) = _ at parsed
    split at parsed
    · cases parsed
      rfl
    · cases parsed
      rfl

theorem hierarchyScheme {scheme cs : List Char} {u : Url} (parsed : parseHierarchy scheme cs = .ok u) :
    u.scheme = scheme ∧ (parseAuthority scheme cs).isOk = true := by
  unfold parseHierarchy at parsed
  cases authority : parseAuthority scheme cs with
  | error e =>
    rw [authority] at parsed
    cases parsed
  | ok read =>
    obtain ⟨a, rest⟩ := read
    rw [authority] at parsed
    refine ⟨?_, rfl⟩
    cases rest with
    | nil =>
      cases parsed
      split <;> rfl
    | cons c path =>
      change (if isSlash (isSpecial scheme) c then _ else _) = _ at parsed
      split at parsed
      · cases parsed
        rfl
      · split at parsed
        all_goals cases parsed; rfl

theorem hierarchyParses {scheme cs : List Char} (special : isSpecial scheme = true)
    (authority : (parseAuthority scheme cs).isOk = true) : ∃ u, parseHierarchy scheme cs = .ok u := by
  unfold parseHierarchy
  cases read : parseAuthority scheme cs with
  | error e =>
    rw [read] at authority
    cases authority
  | ok parts =>
    obtain ⟨a, rest⟩ := parts
    cases rest with
    | nil => exact ⟨_, rfl⟩
    | cons c path =>
      change ∃ u, (if isSlash (isSpecial scheme) c then _ else _) = _
      split
      · exact ⟨_, rfl⟩
      · rw [if_pos (.inl special)]
        exact ⟨_, rfl⟩

theorem parsedScheme {written : List Char} {u : Url} (parsed : parseChars written = .ok u) :
    ∃ rest, scheme? (clean (trim written)) = some (u.scheme, rest) := by
  unfold parseChars at parsed
  simp only at parsed
  cases found : scheme? (clean (trim written)) with
  | none =>
    rw [found] at parsed
    cases parsed
  | some read =>
    obtain ⟨scheme, rest⟩ := read
    rw [found] at parsed
    have same : u.scheme = scheme := by
      simp only at parsed
      split at parsed
      · exact fileScheme parsed
      · split at parsed
        · exact (hierarchyScheme parsed).1
        · split at parsed
          · exact (hierarchyScheme parsed).1
          · cases parsed
            rfl
          · cases parsed
            rfl
    exact ⟨rest, by rw [same]⟩

def isWeb (scheme : List Char) : Bool := scheme = "http".toList || scheme = "https".toList

theorem webSpecial {scheme : List Char} (web : isWeb scheme = true) :
    isSpecial scheme = true ∧ scheme ≠ "file".toList := by
  simp only [isWeb, Bool.or_eq_true, decide_eq_true_eq] at web
  rcases web with rfl | rfl
  · exact ⟨by decide, by decide⟩
  · exact ⟨by decide, by decide⟩

def HasServer (cs : List Char) : Prop :=
  ∃ scheme rest, scheme? cs = some (scheme, rest) ∧ isWeb scheme = true ∧
    (parseAuthority scheme (hostText rest)).isOk = true

theorem authorityOk {scheme : List Char} (special : isSpecial scheme = true) (rest : List Char) :
    (parseAuthority scheme (rest.dropWhile (isSlash true))).isOk =
      (parseAuthority scheme (hostText rest)).isOk := by
  rw [authorityAlone special (rest.dropWhile (isSlash true)), hostText]
  cases parseAuthority scheme ((rest.dropWhile (isSlash true)).takeWhile (!endsAuthority true ·)) <;> rfl

theorem webParses (written : List Char) :
    (∃ u, parseChars written = .ok u ∧ isWeb u.scheme = true) ↔ HasServer (clean (trim written)) := by
  constructor
  · rintro ⟨u, parsed, web⟩
    obtain ⟨rest, found⟩ := parsedScheme parsed
    obtain ⟨special, noFile⟩ := webSpecial web
    refine ⟨u.scheme, rest, found, web, ?_⟩
    unfold parseChars at parsed
    simp only [found, if_neg noFile, if_pos special] at parsed
    exact (authorityOk special rest).symm.trans (hierarchyScheme parsed).2
  · rintro ⟨scheme, rest, found, web, authority⟩
    obtain ⟨special, noFile⟩ := webSpecial web
    obtain ⟨u, parsed⟩ := hierarchyParses special ((authorityOk special rest).trans authority)
    have same := (hierarchyScheme parsed).1
    refine ⟨u, ?_, by rwa [same]⟩
    unfold parseChars
    simp only [found, if_neg noFile, if_pos special]
    exact parsed

theorem noAuthority {scheme : List Char} (special : isSpecial scheme = true) :
    (parseAuthority scheme []).isOk = false := by
  unfold parseAuthority
  rw [special]
  rfl

theorem hostTextBefore {rest : List Char} (some_ : rest.dropWhile (isSlash true) ≠ [])
    (more : List Char) : hostText (rest ++ '/' :: more) = hostText rest := by
  rw [hostText, List.dropWhile_append, if_neg (by rwa [List.isEmpty_iff]), takeStops rfl]
  rfl

theorem hostTextSlashes (rest : List Char) {slashes : List Char} (all : ∀ c ∈ slashes, c = '/') :
    hostText (rest ++ slashes) = hostText rest := by
  cases slashes with
  | nil => rw [List.append_nil]
  | cons c more =>
    cases all c List.mem_cons_self
    by_cases none : rest.dropWhile (isSlash true) = []
    · have passed : ('/' :: more).dropWhile (isSlash true) = [] := by
        refine List.dropWhile_eq_nil_iff.mpr fun d member => ?_
        rw [all d member]
        rfl
      rw [hostText, List.dropWhile_append, if_pos (by rwa [List.isEmpty_iff]), passed, hostText, none]
    · exact hostTextBefore none more

theorem serverBefore {cs : List Char} (server : HasServer cs) (more : List Char) :
    HasServer (cs ++ '/' :: more) := by
  obtain ⟨scheme, rest, found, web, authority⟩ := server
  have some_ : rest.dropWhile (isSlash true) ≠ [] := by
    intro none
    rw [hostText, none, List.takeWhile_nil, noAuthority (webSpecial web).1] at authority
    cases authority
  refine ⟨scheme, rest ++ '/' :: more, ?_, web, ?_⟩
  · rw [schemeBefore, found]
    rfl
  · rwa [hostTextBefore some_]

theorem serverSlashes {cs slashes : List Char} (all : ∀ c ∈ slashes, c = '/')
    (server : HasServer (cs ++ slashes)) : HasServer cs := by
  obtain ⟨scheme, rest, found, web, authority⟩ := server
  cases slashes with
  | nil => exact ⟨scheme, rest, by rwa [List.append_nil] at found, web, authority⟩
  | cons c more =>
    cases all c List.mem_cons_self
    rw [schemeBefore, Option.map_eq_some_iff] at found
    obtain ⟨⟨_, before⟩, found, same⟩ := found
    cases same
    exact ⟨scheme, before, found, web, by rwa [hostTextSlashes before all] at authority⟩

theorem trimBefore (cs more : List Char) :
    trim (cs ++ '/' :: more) =
      cs.dropWhile isControlOrSpace ++ '/' :: (more.reverse.dropWhile isControlOrSpace).reverse := by
  have turned (front : List Char) :
      (front ++ '/' :: more).reverse = more.reverse ++ '/' :: front.reverse := by simp
  simp only [trim]
  rw [dropStops rfl, turned, dropStops rfl]
  simp

theorem trimPlain {cs : List Char} (plain : ∀ c ∈ cs.getLast?, isControlOrSpace c = false) :
    trim cs = cs.dropWhile isControlOrSpace := by
  cases cs using List.reverseRecOn with
  | nil => rfl
  | append_singleton front c =>
    have stops : isControlOrSpace c = false := plain c (by simp)
    simp only [trim]
    rw [dropStops stops, List.reverse_append, List.reverse_singleton, List.singleton_append,
      List.dropWhile_cons_of_neg (by simp [stops])]
    simp

theorem cleanBefore (cs more : List Char) : clean (cs ++ '/' :: more) = clean cs ++ '/' :: clean more := by
  rw [clean, List.filter_append]
  rfl

theorem anyPathServed {cs : List Char}
    (served : ∃ u, parseChars (cs ++ ['/']) = .ok u ∧ isWeb u.scheme = true) (path : List Char) :
    ∃ u, parseChars (cs ++ '/' :: path) = .ok u ∧ isWeb u.scheme = true := by
  rw [webParses, trimBefore, cleanBefore] at served ⊢
  have server := serverSlashes (by simp [clean]) served
  exact serverBefore server _

theorem slashServed {cs slashes : List Char} (all : ∀ c ∈ slashes, c = '/')
    (plain : ∀ c ∈ (cs ++ slashes).getLast?, isControlOrSpace c = false)
    (served : ∃ u, parseChars (cs ++ slashes) = .ok u ∧ isWeb u.scheme = true) :
    ∃ u, parseChars (cs ++ ['/']) = .ok u ∧ isWeb u.scheme = true := by
  rw [webParses] at served ⊢
  rw [trimPlain plain] at served
  rw [trimBefore, cleanBefore]
  refine serverBefore ?_ _
  cases slashes with
  | nil => rwa [List.append_nil] at served
  | cons c more =>
    cases all c List.mem_cons_self
    rw [dropStops rfl, cleanBefore] at served
    have kept : ∀ d ∈ '/' :: clean more, d = '/' := List.forall_mem_cons.mpr
      ⟨rfl, fun d member => all d (List.mem_cons_of_mem _ (List.mem_of_mem_filter member))⟩
    exact serverSlashes kept served

end ModelServing.Url
