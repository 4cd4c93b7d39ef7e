import ModelServing.Proofs.Session.Reading

/-! What a consumer of events may rely on: what is left to read of a run after a cancel or a reset,
and what those are told who ask for results one by one. -/
namespace ModelServing.Session

namespace Listener

theorem heardGrows (l : Listener) (a : Act) :
    ∃ e : Option Event, (l.act a).heard = l.note e ∧ ∀ x ∈ e, l.core.letsThrough x = true := by
  rcases actSteps l a with ⟨_, _, _, heard, _⟩ | ⟨e, read, heard, _⟩ | ⟨_, heard, _⟩
  · exact ⟨none, by simp [heard, note], by simp⟩
  · refine ⟨e, heard, ?_⟩
    generalize (l.act a).core = c at read
    cases read with
    | nothing passed => simp
    | event queue passed through => simpa using through
  · exact ⟨none, by simp [heard, note], by simp⟩

theorem generationAct (l : Listener) (a : Act) :
    l.core.generation ≤ (l.act a).core.generation ∧
    ((l.act a).core.generation = l.core.generation →
      l.core.run.cancelled = true → (l.act a).core.run.cancelled = true) := by
  rcases actSteps l a with ⟨_, _, turn, _, _⟩ | ⟨e, read, _, _⟩ | ⟨core, _, _⟩
  · generalize (l.act a).core = c at turn
    cases turn with
    | current turn =>
      refine ⟨Nat.le_refl _, fun _ cancelled => ?_⟩
      cases turn with
      | goesOn results quiet heard => exact quiet.cancelled.trans cancelled
      | closes results wasOpen closed told gate flag =>
        rw [Core.become, flag, cancelled, Bool.true_or]
    | past quiet => exact ⟨by simp [Core.generation], fun _ cancelled => cancelled⟩
    | reset =>
      have next := l.core.resetGeneration
      exact ⟨by omega, fun same => absurd same (by omega)⟩
  · generalize (l.act a).core = c at read
    cases read with
    | nothing passed => exact ⟨Nat.le_refl _, fun _ cancelled => cancelled⟩
    | event queue passed through => exact ⟨Nat.le_refl _, fun _ cancelled => cancelled⟩
  · rw [core]
    exact ⟨Nat.le_refl _, fun _ cancelled => cancelled⟩

def Muted (generation : Nat) (base : List (Nat × Event)) (l : Listener) : Prop :=
  ∃ since, l.heard = base ++ since ∧ (∀ e ∈ entriesOf since generation, e = .cancelled) ∧
    generation ≤ l.core.generation ∧
    (l.core.generation = generation → l.core.run.cancelled = true)

theorem mutedAct {generation : Nat} {base} {l : Listener} (muted : Muted generation base l) (a : Act) :
    Muted generation base (l.act a) := by
  obtain ⟨since, heard, only, bound, cancelled⟩ := muted
  obtain ⟨e, grown, through⟩ := heardGrows l a
  obtain ⟨later, kept⟩ := generationAct l a
  refine ⟨since ++ e.toList.map (l.core.generation, ·), ?_, ?_, Nat.le_trans bound later, ?_⟩
  · rw [grown, note, heard, List.append_assoc]
  · intro x member
    rw [entriesOfAppend] at member
    rcases List.mem_append.mp member with before | new
    · exact only x before
    · by_cases same : l.core.generation = generation
      · rw [same, entriesOfOwn, Option.mem_toList] at new
        have passes := through x new
        simpa [Core.letsThrough, cancelled same] using passes
      · rw [entriesOfOther same] at new
        contradiction
  · intro same
    have before : l.core.generation = generation := by omega
    exact kept (same.trans before.symm) (cancelled before)

theorem mutedFollow {generation : Nat} {base} {l : Listener} (muted : Muted generation base l)
    (acts : List Act) : Muted generation base (l.follow acts) := by
  unfold follow
  apply List.foldlRecOn (motive := Muted generation base)
  · exact muted
  · exact fun l muted a _ => mutedAct muted a

theorem mutedCancel {l : Listener} (wasOpen : l.core.run.phase ≠ .closed)
    (uncancelled : l.core.run.cancelled = false) :
    Muted l.core.generation l.heard (l.act (.operation .cancel)) := by
  refine ⟨[], by simp [act], by simp [entriesOf], Nat.le_refl _, fun _ => ?_⟩
  change l.core.run.cancel.1.cancelled = true
  have phase : ¬ (l.core.run.cancelled || l.core.run.phase == .closed) = true := by
    simp [uncancelled, wasOpen]
  unfold Run.cancel
  rw [if_neg phase, Run.closeOpen (r := { l.core.run with cancelled := true }) wasOpen]

theorem heardLater (l : Listener) (acts : List Act) :
    ∃ since, (l.follow acts).heard = l.heard ++ since ∧ ∀ e ∈ since, l.core.generation ≤ e.1 := by
  induction acts generalizing l with
  | nil => exact ⟨[], by simp [follow], by simp⟩
  | cons a acts ih =>
    obtain ⟨since, heard, later⟩ := ih (l.act a)
    obtain ⟨e, grown, _⟩ := heardGrows l a
    refine ⟨e.toList.map (l.core.generation, ·) ++ since, ?_, ?_⟩
    · change ((l.act a).follow acts).heard = _
      rw [heard, grown, note, List.append_assoc]
    · intro x member
      rcases List.mem_append.mp member with new | rest
      · obtain ⟨event, _, rfl⟩ := List.mem_map.mp new
        exact Nat.le_refl _
      · exact Nat.le_trans (generationAct l a).1 (later x rest)

theorem cancelledOnce {told : List Event} (once : EndsOnce told) : told.count .cancelled ≤ 1 := by
  obtain ⟨results, last, rfl, _⟩ := once
  have none_ : (results.map Event.result).count .cancelled = 0 := by
    simp [List.count_eq_zero]
  rw [List.count_append, none_, Nat.zero_add]
  exact Nat.le_trans List.count_le_length (by cases last <;> simp)

theorem heardSinceEq {l m : Listener} {since} (heard : m.heard = l.heard ++ since) :
    m.heardSince l = since := by
  rw [heardSince, heard, List.drop_left]

theorem openUntold {l : Listener} (h : l.core.Heard l.queued l.heard)
    (wasOpen : l.core.run.phase ≠ .closed) :
    l.core.run.cancelled = false ∧ .cancelled ∉ entriesOf l.heard l.core.generation := by
  obtain ⟨uncancelled, results, told⟩ := h.accounts.current.resultsOnly wasOpen
  refine ⟨uncancelled, fun member => ?_⟩
  have queued := (entriesOfSublist h.sublist l.core.generation).subset member
  rw [told] at queued
  simp at queued

theorem letsCancelOnly {c : Core} (cancelled : c.run.cancelled = true) (e : Event) :
    c.letsThrough e = decide (e = .cancelled) := by
  simp only [Core.letsThrough, cancelled, Bool.not_true, Bool.false_or]
  rfl

theorem mutedOnce {l : Listener} (h : l.core.Heard l.queued l.heard) {generation : Nat}
    {base since : List (Nat × Event)} (heard : l.heard = base ++ since)
    (only : ∀ e ∈ entriesOf since generation, e = .cancelled) :
    entriesOf since generation <+: [.cancelled] := by
  have copies := List.eq_replicate_of_mem only
  have sub := (entriesOfSublist h.sublist generation).count_le .cancelled
  have once := cancelledOnce (h.accounts.endsOnce generation)
  rw [heard, entriesOfAppend, List.count_append, copies, List.count_replicate_self] at sub
  rw [copies]
  have bound : (entriesOf since generation).length ≤ 1 := by omega
  generalize (entriesOf since generation).length = n at bound
  match n, bound with
  | 0, _ => exact List.nil_prefix
  | 1, _ => exact List.prefix_refl _

theorem heardCancelled {l : Listener} (h : l.core.Heard l.queued l.heard)
    (wasOpen : l.core.run.phase ≠ .closed) (after : List Act) :
    let m := (l.act (.operation .cancel)).follow after
    m.core.Heard m.queued m.heard →
    entriesOf (m.heardSince l) l.core.generation <+: [.cancelled] ∧
    (m.core.generation = l.core.generation →
      entriesOf (m.heardSince l) l.core.generation ++ m.core.readable = [.cancelled]) := by
  intro m heardM
  obtain ⟨uncancelled, untold⟩ := openUntold h wasOpen
  obtain ⟨since, heard, only, _, flag⟩ := mutedFollow (mutedCancel wasOpen uncancelled) after
  rw [heardSinceEq heard]
  refine ⟨mutedOnce heardM heard only, fun same => ?_⟩
  have cancelled : m.core.run.cancelled = true := flag same
  have kept := heardM.kept
  obtain ⟨results, told⟩ := heardM.accounts.current.cancelledLast cancelled
  have silent : (entriesOf l.heard l.core.generation).filter m.core.letsThrough = [] := by
    apply List.filter_eq_nil_iff.mpr
    intro e member through
    rw [letsCancelOnly cancelled, decide_eq_true_eq] at through
    exact untold (through ▸ member)
  have all : (entriesOf since l.core.generation).filter m.core.letsThrough =
      entriesOf since l.core.generation := by
    apply List.filter_eq_self.mpr
    intro e member
    rw [letsCancelOnly cancelled, decide_eq_true_eq]
    exact only e member
  rw [told, same, heard, entriesOfAppend, List.filter_append, silent, all, List.nil_append,
    List.filter_append] at kept
  rw [kept]
  simp [letsCancelOnly cancelled, List.filter_map, Function.comp_def]

theorem heardReset (l : Listener) (after : List Act) :
    ∀ e ∈ ((l.act (.operation .reset)).follow after).heardSince l, l.core.generation < e.1 := by
  obtain ⟨since, heard, later⟩ := heardLater (l.act (.operation .reset)) after
  have heard' : ((l.act (.operation .reset)).follow after).heard = l.heard ++ since := heard
  rw [heardSinceEq heard']
  intro e member
  have bound := later e member
  change l.core.reset.generation ≤ e.1 at bound
  rw [l.core.resetGeneration] at bound
  exact bound

end Listener

def Event.answer : Event → Reading (Except Error Reply)
  | .result r => .item (.ok r)
  | .failed e => .item (.error e)
  | .completed | .cancelled => .ended

def Reading.isPending {α : Type} : Reading α → Bool
  | .pending => true
  | _ => false

theorem answerNotPending (e : Event) : e.answer.isPending = false := by
  cases e <;> rfl

theorem nextFinished {reader : Reader} (finished : reader.finished = true) (c : Core) :
    reader.next c = (.ended, reader, c) := by
  simp [Reader.next, finished]

theorem nextNothing {reader : Reader} {c : Core} (unfinished : reader.finished = false)
    (found : c.read.1 = none) : reader.next c = (.pending, reader, c.read.2) := by
  unfold Reader.next
  rw [unfinished, if_neg Bool.false_ne_true]
  split
  · rename_i same
    rw [same]
  · rename_i same
    rw [same] at found
    contradiction

theorem nextEvent {reader : Reader} {c : Core} {e} (unfinished : reader.finished = false)
    (found : c.read.1 = some e) : reader.next c = (e.answer, ⟨e.isTerminal⟩, c.read.2) := by
  unfold Reader.next
  rw [unfinished, if_neg Bool.false_ne_true]
  split
  · rename_i same
    rw [same] at found
    contradiction
  · rename_i same
    rw [same] at found ⊢
    cases Option.some.inj found
    cases e <;> rfl

namespace Listener

structure Answered (l : Listener) (results : List Reply) (last : Option Event) (more : Nat) :
    Prop where
  asked : l.asked = results.map Event.result ++ last.toList
  terminal : ∀ e ∈ last, e.isTerminal = true
  finished : l.reader.finished = last.isSome
  extra : last = none → more = 0
  answers : l.answers.filter (!·.isPending) = l.asked.map Event.answer ++ .replicate more .ended
  known : l.asked.Sublist (l.heard.map (·.2))

theorem Answered.idle {l l' : Listener} {results last more} (h : Answered l results last more)
    (asked : l'.asked = l.asked) (reader : l'.reader = l.reader) (answers : l'.answers = l.answers)
    {e} (heard : l'.heard = l.note e) : Answered l' results last more := by
  refine ⟨by rw [asked, h.asked], h.terminal, by rw [reader, h.finished], h.extra, ?_, ?_⟩
  · rw [answers, asked, h.answers]
  · rw [asked, heard, note, List.map_append]
    exact h.known.trans (List.sublist_append_left _ _)

theorem Answered.again {l : Listener} {results e more} (h : Answered l results (some e) more) :
    Answered (l.act .next) results (some e) (more + 1) := by
  have finished : l.reader.finished = true := h.finished
  have same : l.act .next = { l with answers := l.answers ++ [.ended] } := by
    simp [act, nextFinished finished, finished, note]
  rw [same]
  refine ⟨h.asked, h.terminal, h.finished, by simp, ?_, h.known⟩
  rw [List.filter_append, h.answers, List.append_assoc, List.replicate_succ']
  rfl

theorem Answered.wait {l : Listener} {results more} (h : Answered l results none more)
    (found : l.core.read.1 = none) : Answered (l.act .next) results none more := by
  have unfinished : l.reader.finished = false := h.finished
  have same : l.act .next = { l with core := l.core.read.2, answers := l.answers ++ [.pending] } := by
    simp [act, nextNothing unfinished found, unfinished, found, note]
  rw [same]
  refine ⟨h.asked, h.terminal, h.finished, h.extra, ?_, h.known⟩
  rw [List.filter_append, h.answers]
  simp [Reading.isPending]

theorem Answered.get {l : Listener} {results more e} (h : Answered l results none more)
    (found : l.core.read.1 = some e) :
    ∃ results last, Answered (l.act .next) results last 0 := by
  have unfinished : l.reader.finished = false := h.finished
  have told : l.asked = results.map Event.result := by simpa using h.asked
  have answers : (l.answers ++ [e.answer]).filter (!·.isPending) =
      (l.asked ++ [e]).map Event.answer := by
    rw [List.filter_append, h.answers, h.extra rfl]
    simp [answerNotPending]
  have known : (l.asked ++ [e]).Sublist ((l.note (some e)).map (·.2)) := by
    rw [note, List.map_append]
    exact h.known.append (List.Sublist.refl _)
  have same : l.act .next = { l with
      core := l.core.read.2, reader := ⟨e.isTerminal⟩, heard := l.note (some e)
      asked := l.asked ++ [e], answers := l.answers ++ [e.answer] } := by
    simp [act, nextEvent unfinished found, unfinished, found]
  rw [same]
  cases terminal : e.isTerminal with
  | true =>
    exact ⟨results, some e, by simp [told], by simpa using terminal, rfl, fun _ => rfl,
      by simpa using answers, known⟩
  | false =>
    cases e with
    | result r =>
      exact ⟨results ++ [r], none, by simp [told], by simp, rfl, fun _ => rfl,
        by simpa using answers, known⟩
    | completed | failed | cancelled => contradiction

theorem answeredAct {l : Listener} {results last more} (h : Answered l results last more) (a : Act) :
    ∃ results last more, Answered (l.act a) results last more := by
  cases a with
  | operation o => exact ⟨_, _, _, h.idle (e := none) rfl rfl rfl (by simp [act, note])⟩
  | read => exact ⟨_, _, _, h.idle rfl rfl rfl rfl⟩
  | next =>
    cases last with
    | some e => exact ⟨_, _, _, h.again⟩
    | none =>
      cases found : l.core.read.1 with
      | none => exact ⟨_, _, _, h.wait found⟩
      | some e =>
        obtain ⟨results, last, answered⟩ := h.get found
        exact ⟨results, last, 0, answered⟩

theorem answeredFollow (acts : List Act) :
    ∃ results last more, Answered (start.follow acts) results last more := by
  unfold follow
  apply List.foldlRecOn (motive := fun l => ∃ results last more, Answered l results last more)
  · exact ⟨[], none, 0, rfl, by simp, rfl, fun _ => rfl, rfl, List.Sublist.refl _⟩
  · exact fun l ⟨_, _, _, h⟩ a _ => answeredAct h a

theorem endedForGood {l : Listener} (finished : l.reader.finished = true) (acts : List Act) :
    (l.follow acts).reader.finished = true ∧
    ∃ since, (l.follow acts).answers = l.answers ++ since ∧ ∀ answer ∈ since, answer = .ended := by
  unfold follow
  apply List.foldlRecOn (motive := fun m : Listener => m.reader.finished = true ∧
    ∃ since, m.answers = l.answers ++ since ∧ ∀ answer ∈ since, answer = .ended)
  · exact ⟨finished, [], by simp, by simp⟩
  · rintro m ⟨still, since, answers, ended⟩ a -
    cases a with
    | operation o => exact ⟨still, since, answers, ended⟩
    | read => exact ⟨still, since, answers, ended⟩
    | next =>
      refine ⟨?_, since ++ [.ended], ?_, ?_⟩
      · simp [act, nextFinished still, still]
      · simp [act, nextFinished still, answers]
      · intro answer member
        rcases List.mem_append.mp member with before | new
        · exact ended answer before
        · exact List.mem_singleton.mp new

theorem consumerSees (before after : List Act) :
    let l := start.follow before
    let generation := l.core.generation
    l.heard.Sublist l.queued ∧ (∀ generation, EndsOnce (entriesOf l.heard generation)) ∧
    (l.core.run.cancelled = false →
      entriesOf l.heard generation ++ l.core.readable = entriesOf l.queued generation) ∧
    l.core.read.1 = l.core.readable.head? ∧
    (l.core.run.phase ≠ .closed →
      let m := (l.act (.operation .cancel)).follow after
      entriesOf (m.heardSince l) generation <+: [.cancelled] ∧
      (m.core.generation = generation →
        entriesOf (m.heardSince l) generation ++ m.core.readable = [.cancelled])) ∧
    (∀ e ∈ ((l.act (.operation .reset)).follow after).heardSince l, generation < e.1) ∧
    (∃ results last more, Answered l results last more) ∧
    ((∃ e ∈ l.asked, e.isTerminal = true) →
      ∀ answer ∈ (l.follow after).answers.drop l.answers.length, answer = .ended) := by
  intro l generation
  have h : l.core.Heard l.queued l.heard := heardFollow before
  have answered : ∃ results last more, Answered l results last more := answeredFollow before
  refine ⟨h.sublist, ?_, ?_, (Core.readSteps l.core).head, ?_, heardReset l after, answered, ?_⟩
  · exact fun g => (h.accounts.endsOnce g).sublist (entriesOfSublist h.sublist g)
  · intro uncancelled
    have all : ∀ events : List Event, events.filter l.core.letsThrough = events := by
      intro events
      exact List.filter_eq_self.mpr fun e _ => by simp [Core.letsThrough, uncancelled]
    have kept := h.kept
    rwa [all, all] at kept
  · intro wasOpen m
    refine heardCancelled h wasOpen after ?_
    have followed : m = start.follow (before ++ .operation .cancel :: after) := by
      rw [followAppend]
      rfl
    change m.core.Heard m.queued m.heard
    rw [followed]
    exact heardFollow _
  · rintro ⟨e, member, terminal⟩
    obtain ⟨results, last, more, asked⟩ := answered
    have finished : l.reader.finished = true := by
      rw [asked.finished]
      cases last with
      | some e => rfl
      | none =>
        rw [asked.asked] at member
        simp only [Option.toList_none, List.append_nil] at member
        obtain ⟨r, _, rfl⟩ := List.mem_map.mp member
        contradiction
    obtain ⟨_, since, answers, ended⟩ := endedForGood finished after
    rw [answers, List.drop_left]
    exact ended

end Listener

end ModelServing.Session
