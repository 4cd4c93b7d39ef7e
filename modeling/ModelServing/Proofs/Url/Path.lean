import ModelServing.Proofs.Url.Base

/-! What is put behind a base becomes the end of its path. The segments of the base are walked first,
whatever comes behind them. -/
namespace ModelServing.Url

namespace Trail

def pass (file : Bool) (t : Trail) (segment : List Char) : Trail :=
  if isDoubleDot (clean segment) then t.leave
  else if isDot (clean segment) then t
  else t.enter file segment

theorem walkBehind (file : Bool) (t : Trail) (earlier : List (List Char)) {later : List (List Char)}
    (some_ : later ≠ []) :
    t.walk file (earlier ++ later) = (earlier.foldl (pass file) t).walk file later := by
  induction earlier generalizing t with
  | nil => rfl
  | cons segment rest ih =>
    rw [List.foldl_cons, ← ih, List.cons_append]
    have more : rest ++ later ≠ [] := List.append_ne_nil_of_right_ne_nil rest some_
    generalize rest ++ later = behind at more
    cases behind with
    | nil => exact absurd rfl more
    | cons next behind =>
      rw [walk, pass]
      · split
        · rfl
        · split <;> rfl
      · exact more

theorem enterWeb (t : Trail) (segment : List Char) : t.enter false segment = t.add (clean segment) :=
  if_neg fun h => nomatch h.1

theorem leaveOff (t : Trail) : t.leave.onDrive = t.onDrive := by
  unfold leave
  split
  · rfl
  · split <;> rfl

theorem walkOff (t : Trail) (segments : List (List Char)) :
    (t.walk false segments).onDrive = t.onDrive := by
  fun_induction walk false t segments with
  | case1 t => rfl
  | case2 t last up => exact leaveOff t
  | case3 t last _ dot => rfl
  | case4 t last => rw [enterWeb]; rfl
  | case5 t segment rest _ up ih => rw [ih, leaveOff]
  | case6 t segment rest _ _ dot ih => exact ih
  | case7 t segment rest _ _ _ ih => rw [ih, enterWeb]; rfl

end Trail

theorem finishWeb {scheme : List Char} (special : isSpecial scheme = true) (noFile : scheme ≠ "file".toList)
    (authority : Option Authority) (cs : List Char) :
    finish scheme authority cs =
      let parts := (Trail.start.walk false ((cs.takeWhile isPathChar).splitOnP (isSlash true))).done.reverse
      let behind := queryAndFragment true (clean (cs.dropWhile isPathChar))
      ⟨scheme, authority, .segments parts, behind.1, behind.2⟩ := by
  have off := Trail.walkOff Trail.start ((cs.takeWhile isPathChar).splitOnP (isSlash true))
  have web : decide (scheme = "file".toList) = false := decide_eq_false noFile
  simp only [finish, special, web, off, if_neg noFile]
  rfl

def tidy (more : List Char) : List Char := clean (more.reverse.dropWhile isControlOrSpace).reverse

theorem hierarchyFinishes {scheme cs path : List Char} {authority : Authority} {c : Char}
    (special : isSpecial scheme = true) (read : parseAuthority scheme cs = .ok (authority, c :: path)) :
    parseHierarchy scheme cs =
      .ok (finish scheme (some authority) (if isSlash true c then path else c :: path)) := by
  rw [parseHierarchy, read, special]
  change (if isSlash true c then _ else if _ ∨ _ then _ else _) = _
  by_cases slash : isSlash true c = true
  · rw [if_pos slash, if_pos slash]
    rfl
  · rw [if_neg slash, if_neg slash, if_pos (.inl rfl)]
    rfl

theorem parsedBehind {cs : List Char} {u : Url} (parsed : parseChars (cs ++ ['/']) = .ok u)
    (web : isWeb u.scheme = true) :
    ∃ front authority, (front = [] ∨ ∃ f, front = f ++ ['/']) ∧
      ∀ more, parseChars (cs ++ '/' :: more) = .ok (finish u.scheme (some authority) (front ++ tidy more)) := by
  obtain ⟨special, noFile⟩ := webSpecial web
  obtain ⟨whole, found⟩ := parsedScheme parsed
  have served := (webParses _).mp ⟨u, parsed, web⟩
  rw [trimBefore, cleanBefore] at found served
  obtain ⟨scheme, rest, own, _, authority⟩ := serverSlashes (by simp [clean]) served
  have same : scheme = u.scheme := by
    rw [schemeBefore, own] at found
    exact congrArg Prod.fst (Option.some.inj found)
  subst same
  have some_ : rest.dropWhile (isSlash true) ≠ [] := by
    intro none
    rw [hostText, none, List.takeWhile_nil, noAuthority special] at authority
    cases authority
  cases read : parseAuthority u.scheme (hostText rest) with
  | error e =>
    rw [read] at authority
    cases authority
  | ok server =>
    obtain ⟨a, after⟩ := server
    have hierarchy (more : List Char) : parseChars (cs ++ '/' :: more) =
        parseHierarchy u.scheme (rest.dropWhile (isSlash true) ++ '/' :: tidy more) := by
      have scheme : scheme? (clean (trim (cs ++ '/' :: more))) =
          some (u.scheme, rest ++ '/' :: tidy more) := by
        rw [trimBefore, cleanBefore, schemeBefore, own]
        rfl
      have slashes : (rest ++ '/' :: tidy more).dropWhile (isSlash true) =
          rest.dropWhile (isSlash true) ++ '/' :: tidy more := by
        rw [List.dropWhile_append, if_neg (by rwa [List.isEmpty_iff])]
      simp only [parseChars, scheme, if_neg noFile, if_pos special, slashes]
    have behind (more : List Char) :
        parseAuthority u.scheme (rest.dropWhile (isSlash true) ++ '/' :: tidy more) =
          .ok (a, (after ++ (rest.dropWhile (isSlash true)).dropWhile (!endsAuthority true ·)) ++
            '/' :: tidy more) := by
      rw [authorityAlone special, takeStops rfl, dropStops rfl]
      change (parseAuthority u.scheme (hostText rest)).map _ = _
      rw [read, List.append_assoc]
      rfl
    -- A slash ends the authority, the one in front of what is put behind if there is none before.
    cases tail : after ++ (rest.dropWhile (isSlash true)).dropWhile (!endsAuthority true ·) with
    | nil =>
      refine ⟨[], a, .inl rfl, fun more => ?_⟩
      have read := behind more
      rw [tail, List.nil_append] at read
      rw [hierarchy, hierarchyFinishes special read]
      rfl
    | cons c path =>
      refine ⟨if isSlash true c then path ++ ['/'] else c :: path ++ ['/'], a, ?_, fun more => ?_⟩
      · split
        · exact .inr ⟨path, rfl⟩
        · exact .inr ⟨c :: path, rfl⟩
      · have read := behind more
        rw [tail, List.cons_append] at read
        rw [hierarchy, hierarchyFinishes special read]
        split
        · rw [List.append_assoc]
          rfl
        · rw [List.append_assoc]
          rfl

theorem undivided {cs : List Char}
    (alone : queryAndFragment true (clean (cs.dropWhile isPathChar)) = (none, none)) :
    ∀ c ∈ cs, isPathChar c = true := by
  induction cs with
  | nil => exact nofun
  | cons c rest ih =>
    by_cases inPath : isPathChar c = true
    · rw [List.dropWhile_cons_of_pos inPath] at alone
      exact List.forall_mem_cons.mpr ⟨inPath, ih alone⟩
    · rw [List.dropWhile_cons_of_neg inPath] at alone
      have ends : c = '?' ∨ c = '#' := by
        simp only [isPathChar, Bool.and_eq_true, decide_eq_true_eq] at inPath
        by_cases query : c = '?'
        · exact .inl query
        · exact .inr (by_contra fun other => inPath ⟨query, other⟩)
      rcases ends with rfl | rfl
      · cases congrArg Prod.fst alone
      · cases congrArg Prod.snd alone

theorem splitBehind {front : List Char} (ends : front = [] ∨ ∃ f, front = f ++ ['/']) :
    ∃ earlier, ∀ cs, (front ++ cs).splitOnP (isSlash true) = earlier ++ cs.splitOnP (isSlash true) := by
  rcases ends with rfl | ⟨f, rfl⟩
  · exact ⟨[], fun _ => rfl⟩
  · refine ⟨f.splitOnP (isSlash true), fun cs => ?_⟩
    rw [List.append_assoc]
    exact List.splitOnP_append_cons f cs rfl

def Trail.reach (t : Trail) (base : Url) (more : List Char) : Url :=
  let behind := queryAndFragment true (clean (more.dropWhile isPathChar))
  { base with
    path := .segments (t.walk false ((more.takeWhile isPathChar).splitOnP (isSlash true))).done.reverse
    query := behind.1
    fragment := behind.2 }

theorem pathBehind {cs : List Char} {u : Url} (parsed : parseChars (cs ++ ['/']) = .ok u)
    (web : isWeb u.scheme = true) (noQuery : u.query = none) (noFragment : u.fragment = none) :
    ∃ t : Trail, u.path = .segments (t.done.reverse ++ [[]]) ∧
      ∀ more, parseChars (cs ++ '/' :: more) = .ok (t.reach u (tidy more)) := by
  obtain ⟨special, noFile⟩ := webSpecial web
  obtain ⟨front, authority, ends, parses⟩ := parsedBehind parsed web
  simp only [finishWeb special noFile] at parses
  obtain ⟨earlier, splits⟩ := splitBehind ends
  have own := parses []
  rw [parsed] at own
  have none_ : tidy [] = [] := rfl
  have own := Except.ok.inj own
  rw [none_, List.append_nil] at own
  have inPath : ∀ c ∈ front, isPathChar c = true := by
    refine undivided (Prod.ext ?_ ?_)
    · rw [own] at noQuery
      exact noQuery
    · rw [own] at noFragment
      exact noFragment
  have taken (more : List Char) : (front ++ more).takeWhile isPathChar = front ++ more.takeWhile isPathChar :=
    List.takeWhile_append_of_pos inPath
  have dropped (more : List Char) : (front ++ more).dropWhile isPathChar = more.dropWhile isPathChar :=
    List.dropWhile_append_of_pos inPath
  have walks (more : List Char) := Trail.walkBehind false Trail.start earlier
    (List.splitOnP_ne_nil (isSlash true) (more.takeWhile isPathChar))
  simp only [taken, dropped, splits, walks] at parses
  refine ⟨earlier.foldl (Trail.pass false) Trail.start, ?_, fun more => ?_⟩
  · have own := parses []
    rw [parsed] at own
    rw [Except.ok.inj own]
    have last (t : Trail) : t.walk false [[]] = t.add [] := t.enterWeb []
    change Path.segments (Trail.walk false _ [[]]).done.reverse = _
    rw [last, Trail.add, List.reverse_cons]
    rfl
  · rw [parses, Trail.reach, own]

section
variable {t : Trail} {base : Url} {parts : List (List Char)} {more : List Char}

theorem reachIff (noQuery : base.query = none) (noFragment : base.fragment = none) :
    t.reach base more = { base with path := .segments parts } ↔
      (∀ c ∈ more, isPathChar c = true) ∧
        (t.walk false (more.splitOnP (isSlash true))).done = parts.reverse := by
  have whole (inPath : ∀ c ∈ more, isPathChar c = true) : t.reach base more =
      { base with path := .segments (t.walk false (more.splitOnP (isSlash true))).done.reverse } := by
    have dropped := List.dropWhile_eq_nil_iff.mpr inPath
    rw [Trail.reach, List.takeWhile_eq_self_iff.mpr inPath, dropped]
    obtain ⟨scheme, authority, path, query, fragment⟩ := base
    subst noQuery noFragment
    rfl
  constructor
  · intro reached
    have inPath : ∀ c ∈ more, isPathChar c = true :=
      undivided (Prod.ext ((congrArg Url.query reached).trans noQuery)
        ((congrArg Url.fragment reached).trans noFragment))
    rw [whole inPath] at reached
    refine ⟨inPath, ?_⟩
    rw [← Path.segments.inj (congrArg Url.path reached), List.reverse_reverse]
  · rintro ⟨inPath, walked⟩
    rw [whole inPath, walked, List.reverse_reverse]

end

def Entered (pieces : List (List Char)) (segment : List Char) : Prop :=
  ∃ piece ∈ pieces, isDot (clean piece) = false ∧ isDoubleDot (clean piece) = false ∧
    segment = Text.Percent.encodeText pathKeeps (clean piece)

namespace Trail

theorem passEnters (t : Trail) (piece : List Char) : (t.pass false piece).done <:+ t.done ∨
    ∃ segment, Entered [piece] segment ∧ (t.pass false piece).done = segment :: t.done := by
  unfold pass
  split
  · left
    unfold leave
    split
    · exact List.suffix_refl _
    · rename_i d rest same
      split
      · exact List.suffix_refl _
      · rw [same]
        exact List.suffix_cons d rest
  · rename_i noDouble
    split
    · exact .inl (List.suffix_refl _)
    · rename_i noDot
      refine .inr ⟨_, ⟨piece, List.mem_singleton_self piece, by simpa using noDot, by simpa using noDouble, rfl⟩, ?_⟩
      rw [enterWeb, add]

theorem foldEnters (t : Trail) (pieces : List (List Char)) :
    ∃ added kept, (pieces.foldl (pass false) t).done = added ++ kept ∧ kept <:+ t.done ∧
      ∀ segment ∈ added, Entered pieces segment := by
  induction pieces generalizing t with
  | nil => exact ⟨[], t.done, rfl, List.suffix_refl _, nofun⟩
  | cons piece rest ih =>
    obtain ⟨added, kept, done, suffix, entered⟩ := ih (t.pass false piece)
    have later {segment : List Char} : Entered rest segment → Entered (piece :: rest) segment :=
      fun ⟨own, member, told⟩ => ⟨own, List.mem_cons_of_mem _ member, told⟩
    rcases t.passEnters piece with shorter | ⟨segment, ⟨_, own, told⟩, longer⟩
    · exact ⟨added, kept, done, suffix.trans shorter, fun s member => later (entered s member)⟩
    · rw [longer] at suffix
      rcases List.suffix_cons_iff.mp suffix with rfl | suffix
      · refine ⟨added ++ [segment], t.done, ?_, List.suffix_refl _, fun s member => ?_⟩
        · rw [List.foldl_cons, done, List.append_assoc]
          rfl
        · rcases List.mem_append.mp member with member | member
          · exact later (entered s member)
          · cases List.mem_singleton.mp member
            cases List.mem_singleton.mp own
            exact ⟨piece, List.mem_cons_self, told⟩
      · exact ⟨added, kept, done, suffix, fun s member => later (entered s member)⟩

theorem foldOne {t : Trail} {pieces : List (List Char)} {segment : List Char}
    (one : (pieces.foldl (pass false) t).done = segment :: t.done) : Entered pieces segment := by
  obtain ⟨added, kept, done, suffix, entered⟩ := t.foldEnters pieces
  rw [one] at done
  cases added with
  | nil =>
    have lengths := congrArg List.length done
    have short := suffix.length_le
    rw [List.nil_append, List.length_cons] at lengths
    omega
  | cons first added =>
    rw [(List.cons.inj done).1]
    exact entered first List.mem_cons_self

theorem walkOne {t : Trail} {pieces done : List (List Char)} {segment : List Char}
    (one : (t.walk false pieces).done = segment :: done) (some_ : pieces ≠ []) :
    segment = [] ∨ Entered pieces segment := by
  have last := List.getLast_mem some_
  rw [← List.dropLast_concat_getLast some_, walkBehind _ _ _ (List.cons_ne_nil _ _)] at one
  generalize pieces.getLast some_ = piece at one last
  rw [walk] at one
  split at one
  · exact .inl (List.cons.inj one).1.symm
  · rename_i noDouble
    split at one
    · exact .inl (List.cons.inj one).1.symm
    · rename_i noDot
      rw [enterWeb] at one
      exact .inr ⟨piece, last, by simpa using noDot, by simpa using noDouble, (List.cons.inj one).1.symm⟩

end Trail

theorem splitPart {p : Char → Bool} {cs piece : List Char} (member : piece ∈ cs.splitOnP p) :
    piece.Sublist cs ∧ ∀ c ∈ piece, p c = false := by
  induction cs generalizing piece with
  | nil =>
    rw [List.splitOnP_nil] at member
    cases List.mem_singleton.mp member
    exact ⟨List.Sublist.refl [], nofun⟩
  | cons c rest ih =>
    rw [List.splitOnP_cons_eq_if_modifyHead] at member
    split at member
    · rcases List.mem_cons.mp member with rfl | member
      · exact ⟨List.nil_sublist _, nofun⟩
      · obtain ⟨part, clear⟩ := ih member
        exact ⟨part.cons c, clear⟩
    · rename_i noEnd
      cases split : rest.splitOnP p with
      | nil => exact absurd split (List.splitOnP_ne_nil p rest)
      | cons first others =>
        rw [split, List.modifyHead_cons] at member
        rw [split] at ih
        rcases List.mem_cons.mp member with rfl | member
        · obtain ⟨part, clear⟩ := ih List.mem_cons_self
          exact ⟨part.cons_cons c, List.forall_mem_cons.mpr ⟨by simpa using noEnd, clear⟩⟩
        · obtain ⟨part, clear⟩ := ih (List.mem_cons_of_mem _ member)
          exact ⟨part.cons c, clear⟩

end ModelServing.Url
